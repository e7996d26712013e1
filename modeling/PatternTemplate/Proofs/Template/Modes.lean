import PatternTemplate.Proofs.Template.Pass
import PatternTemplate.Proofs.Template.Piece

/-!
# Both modes have the same structure

A template in the plain mode is the template in the Mustache mode without its marks: the two ends of
each section deleted, and the identity in the place of each placeholder. A character of the pattern
can look like a marker, so the text does not tell where the marks are. The outline does, and
`Outline.unmark` takes a tree together with its outline. The copies that are made and the
repetitions that are kept do not depend on the mode either (`Regex.modes_agree`).
-/

namespace PatternTemplate

namespace Outline

mutual

/-- A tree without the marks that its outline has in the Mustache mode: the first and the last part
of each row with a heading, and the braces around each identity. All else stays as it is. -/
def unmark : Outline → Node → Node
  | hole identity, .char _ => .char (.placeholder identity)
  | group body, .group capture node => .group capture (unmarkOption body node)
  | repetition body _, .repetition node quantifier => .repetition (unmark body node) quantifier
  | row none parts, .alternative nodes => .alternative (unmarkList parts nodes)
  | row (some _) parts, .alternative nodes =>
    .alternative (unmarkList parts nodes.tail.dropLast)
  | characterClass items, .characterClass negative nodes =>
    .characterClass negative (unmarkList items nodes)
  | _, node => node

def unmarkOption : Option Outline → Option Node → Option Node
  | some outline, some node => some (unmark outline node)
  | _, node => node

def unmarkList : List Outline → List Node → List Node
  | outline :: outlines, node :: nodes => unmark outline node :: unmarkList outlines nodes
  | _, nodes => nodes

end

mutual

theorem unmark_node (outline : Outline) :
    unmark outline (outline.node .mustache) = outline.node .plain := by
  match outline with
  | .char c => rfl
  | .hole identity => rfl
  | .backreference target => rfl
  | .group body =>
      have hbody := unmarkOption_nodeOption body
      simp [unmark, node, hbody]
  | .repetition body quantifier =>
      have hbody := unmark_node body
      simp [unmark, node, hbody]
  | .row none parts =>
      have hparts := unmarkList_nodes parts
      simp [unmark, node, hparts]
  | .row (some identity) parts =>
      have hparts := unmarkList_nodes parts
      simp [unmark, node, Mode.frame, Mode.markers?, hparts]
  | .characterClass items =>
      have hitems := unmarkList_nodes items
      simp [unmark, node, hitems]

theorem unmarkOption_nodeOption (outline : Option Outline) :
    unmarkOption outline (nodeOption .mustache outline) = nodeOption .plain outline := by
  match outline with
  | none => rfl
  | some outline => simp [unmarkOption, nodeOption, unmark_node outline]

theorem unmarkList_nodes (outlines : List Outline) :
    unmarkList outlines (nodes .mustache outlines) = nodes .plain outlines := by
  match outlines with
  | [] => rfl
  | outline :: outlines =>
      have hothers := unmarkList_nodes outlines
      simp [unmarkList, nodes, unmark_node outline, hothers]

end

end Outline

def Event.isRequest : Event → Bool
  | expanded _ _ | kept _ _ => true
  | headed _ => false

theorem Account.filter_isRequest_reported (mode : Mode) (account : Account) :
    (account.reported mode).events.filter Event.isRequest =
      account.events.filter Event.isRequest := by
  have himp : ∀ event : Event,
      (event.isRequest && (event.record? mode).isSome) = event.isRequest := by
    intro event
    cases event <;> rfl
  simp [Account.reported, himp]

/-- The regular expression reduced in a mode by one pass, and the account at its end. -/
def Regex.reduceAtOnce (mode : Mode) (regex : Regex) : Regex × Account :=
  let (body, account) := (Node.reduceOption mode 1 regex.body).run {}
  ({ regex with body }, account)

/-- One pass in a mode reduces to the outline written out, and has the account of outlining as far
as the mode reports it. -/
theorem Regex.reduceAtOnce_eq (mode : Mode) (regex : Regex) :
    regex.reduceAtOnce mode = (regex.reduce mode, regex.outline.2.reported mode) := by
  have hpass := Outline.follows_reduceOption mode 1 regex.body {}
  have hfresh : ({} : Account).reported mode = {} := by simp [Account.reported]
  rw [hfresh] at hpass
  rw [Regex.reduceAtOnce, hpass]
  rfl

/-- In the plain mode the template is that of the Mustache mode without its marks, with the same
flags and captures. A pass in either mode makes the same requests for copies and leaves the same
number. The characters and the text in either mode are those that the same pieces have in it. -/
theorem Regex.modes_agree (regex : Regex) :
    regex.reduce .plain =
        { regex.reduce .mustache with
          body := Outline.unmarkOption regex.outline.1 (regex.reduce .mustache).body } ∧
      (∀ mode, (regex.reduceAtOnce mode).1 = regex.reduce mode) ∧
      (regex.reduceAtOnce .plain).2.remaining = (regex.reduceAtOnce .mustache).2.remaining ∧
      (regex.reduceAtOnce .plain).2.events.filter Event.isRequest =
        (regex.reduceAtOnce .mustache).2.events.filter Event.isRequest ∧
      ∀ mode, (∀ inClasses, (regex.reduce mode).characters inClasses =
          (regex.pieces inClasses).filterMap (Piece.character? mode)) ∧
        regex.render mode = String.join ((regex.pieces false).map (Piece.text mode)) := by
  refine ⟨?_, ?_, ?_, ?_, ?_⟩
  · have hbody := Outline.unmarkOption_nodeOption regex.outline.1
    simp only [Regex.reduce, hbody]
  · intro mode
    rw [reduceAtOnce_eq]
  · rw [reduceAtOnce_eq, reduceAtOnce_eq]
    rfl
  · rw [reduceAtOnce_eq, reduceAtOnce_eq, Account.filter_isRequest_reported,
      Account.filter_isRequest_reported]
  · intro mode
    exact ⟨fun inClasses => regex.characters_reduce inClasses mode, regex.render_eq_join mode⟩

end PatternTemplate
