import PatternTemplate.Proofs.Template.Alike
import PatternTemplate.Proofs.Template.Denotation
import PatternTemplate.Proofs.Template.Modes

/-!
# What a template cannot tell apart

Much of a pattern only serves to match: assertions and negated classes, what stands in a class or
in a capturing group, what a reference refers to, how often a piece without a fixed count repeats
and whether it is greedy. `Node.veil` puts the same in the place of all of it, so two patterns that
differ in nothing else have equal veils. A class is the one place where hidden content is outlined:
a fixed repetition in it takes copies from the account. The content of a class is therefore hidden
only if no fixed repetition is left in it once its own hidden places are veiled, as is the case
where there was none in the first place (`Node.veil_characterClass`).

A tree and its veil are outlined side by side, from accounts that hold the same number of copies.
In each step both are granted as many, are as deep and find the same headings, and what is left of
both shows the same text (`Outlining.Alike`). So patterns with equal veils have the same template
and the same number of copies left (`Regex.render_eq_of_veil_eq`).
-/

namespace PatternTemplate

/-- A quantifier as far as a template depends on it, which is the number of a fixed count. -/
def Quantifier.veil (quantifier : Quantifier) : Quantifier :=
  match quantifier.count with
  | .exact n => ⟨.exact n, true⟩
  | .star | .plus | .optional | .range _ _ => ⟨.star, true⟩

namespace Node

def isFixed : Node → Bool
  | repetition _ ⟨.exact _, _⟩ => true
  | _ => false

def hasFixed (nodes : List Node) : Bool :=
  (walkList (fun _ => true) nodes).any isFixed

mutual

/-- The tree with the same in all places that only serve to match. -/
def veil : Node → Node
  | char c => .char c
  | group (some capture) _ => .group (some ⟨0, some capture.identity⟩) none
  | group none body => .group none (veilOption body)
  | repetition body quantifier => .repetition (veil body) quantifier.veil
  | alternative parts => .alternative (veilList parts)
  | disjunction left right => .disjunction (veilOption left) (veilOption right)
  | assertion _ _ | characterClass true _ => .anchor .inputStart
  | characterClass false items =>
    let items := veilList items
    .characterClass false (if hasFixed items then items else [])
  | classRange low high => .classRange low high
  | backreference _ => .backreference (.number 0)

def veilOption : Option Node → Option Node
  | none => none
  | some node => some (veil node)

def veilList : List Node → List Node
  | [] => []
  | node :: nodes => veil node :: veilList nodes

end

theorem veilList_eq_map (nodes : List Node) : veilList nodes = nodes.map veil := by
  induction nodes with
  | nil => rfl
  | cons node nodes ih => simp [veilList, ih]

theorem identity_capture?_veil (node : Node) :
    node.veil.capture?.map Capture.identity = node.capture?.map Capture.identity := by
  cases node with
  | group capture body => cases capture <;> rfl
  | characterClass negative items => cases negative <;> rfl
  | _ => rfl

theorem heading?_veilList (parts : List Node) :
    Outline.heading? (veilList parts) = Outline.heading? parts := by
  rw [veilList_eq_map]
  exact Outline.heading?_map identity_capture?_veil parts

mutual

theorem need_eq_zero {node : Node} (h : (walk (fun _ => true) node).any isFixed = false) :
    node.need = 0 := by
  match node, h with
  | group none body, h => exact needOption_eq_zero h
  | repetition body ⟨.star, _⟩, h | repetition body ⟨.plus, _⟩, h
  | repetition body ⟨.optional, _⟩, h | repetition body ⟨.range _ _, _⟩, h =>
      exact @need_eq_zero body h
  | alternative nodes, h | characterClass false nodes, h => exact needList_eq_zero h
  | disjunction left right, h =>
      simp only [walk, if_true, List.any_cons, List.any_append, Bool.or_eq_false_iff] at h
      rw [need, needOption_eq_zero h.2.1, needOption_eq_zero h.2.2]
  | char _, _ | backreference _, _ | classRange _ _, _ | assertion _ _, _
  | characterClass true _, _ | group (some _) _, _ => rfl

theorem needOption_eq_zero {node : Option Node}
    (h : (walkOption (fun _ => true) node).any isFixed = false) : needOption node = 0 := by
  match node, h with
  | none, _ => rfl
  | some node, h => exact @need_eq_zero node h

theorem needList_eq_zero {nodes : List Node} (h : hasFixed nodes = false) :
    needList nodes = 0 := by
  match nodes, h with
  | [], _ => rfl
  | node :: nodes, h =>
      rw [hasFixed, walkList, List.any_append, Bool.or_eq_false_iff] at h
      rw [needList, need_eq_zero h.1, needList_eq_zero h.2]

end

mutual

theorem need_veil (node : Node) : node.veil.need = node.need := by
  match node with
  | group none body => exact needOption_veilOption body
  | repetition body ⟨.exact n, _⟩ =>
      exact congrArg (fun more => n + n * more) (need_veil body)
  | repetition body ⟨.star, _⟩ | repetition body ⟨.plus, _⟩ | repetition body ⟨.optional, _⟩
  | repetition body ⟨.range _ _, _⟩ => exact need_veil body
  | alternative parts => exact needList_veilList parts
  | disjunction left right =>
      rw [veil, need, need, needOption_veilOption left, needOption_veilOption right]
  | characterClass false items =>
      have hitems := needList_veilList items
      cases hfixed : hasFixed (veilList items) with
      | true => simpa [veil, hfixed, need] using hitems
      | false =>
          have hzero := needList_eq_zero hfixed
          simp [veil, hfixed, need, needList, ← hitems, hzero]
  | char _ | backreference _ | classRange _ _ | assertion _ _ | characterClass true _
  | group (some _) _ => rfl

theorem needOption_veilOption (node : Option Node) :
    needOption (veilOption node) = needOption node := by
  match node with
  | none => rfl
  | some node => exact need_veil node

theorem needList_veilList (nodes : List Node) : needList (veilList nodes) = needList nodes := by
  match nodes with
  | [] => rfl
  | node :: nodes => rw [veilList, needList, needList, need_veil node, needList_veilList nodes]

end

mutual

theorem any_isFixed_walk_veil {node : Node} (h : (walk (fun _ => true) node).any isFixed = false) :
    (walk (fun _ => true) node.veil).any isFixed = false := by
  match node, h with
  | group none body, h => exact any_isFixed_walkOption_veilOption h
  | repetition body ⟨.star, _⟩, h | repetition body ⟨.plus, _⟩, h
  | repetition body ⟨.optional, _⟩, h | repetition body ⟨.range _ _, _⟩, h =>
      exact @any_isFixed_walk_veil body h
  | alternative parts, h => exact hasFixed_veilList h
  | disjunction left right, h =>
      simp only [veil, walk, if_true, List.any_cons, List.any_append, Bool.or_eq_false_iff] at h ⊢
      exact ⟨h.1, any_isFixed_walkOption_veilOption h.2.1, any_isFixed_walkOption_veilOption h.2.2⟩
  | characterClass false items, h =>
      have hitems : hasFixed (veilList items) = false := hasFixed_veilList h
      rw [veil, hitems]
      rfl
  | char _, _ | backreference _, _ | classRange _ _, _ | assertion _ _, _
  | characterClass true _, _ | group (some _) _, _ => rfl

theorem any_isFixed_walkOption_veilOption {node : Option Node}
    (h : (walkOption (fun _ => true) node).any isFixed = false) :
    (walkOption (fun _ => true) (veilOption node)).any isFixed = false := by
  match node, h with
  | none, _ => rfl
  | some node, h => exact @any_isFixed_walk_veil node h

theorem hasFixed_veilList {nodes : List Node} (h : hasFixed nodes = false) :
    hasFixed (veilList nodes) = false := by
  match nodes, h with
  | [], _ => rfl
  | node :: nodes, h =>
      rw [hasFixed, walkList, List.any_append, Bool.or_eq_false_iff] at h
      rw [hasFixed, veilList, walkList, List.any_append, any_isFixed_walk_veil h.1, Bool.false_or]
      exact hasFixed_veilList h.2

end

/-- All classes without fixed repetitions have the same veil, whatever else is in them. -/
theorem veil_characterClass {items : List Node} (h : hasFixed items = false) :
    veil (.characterClass false items) = .characterClass false [] := by
  rw [veil, hasFixed_veilList h]
  rfl

end Node

theorem Quantifier.takeCopies?_veil (quantifier : Quantifier) :
    Outlining.takeCopies? quantifier.veil.count = Outlining.takeCopies? quantifier.count := by
  obtain ⟨count, greedy⟩ := quantifier
  cases count <;> rfl

namespace Outline

open Outlining

section Alike

variable {mode : Mode}

mutual

theorem alike_ofNode (depth : Nat) (node : Node) :
    Alike (shown mode) (ofNode depth node) (ofNode depth node.veil) := by
  match node with
  | .char c => exact alike_pure rfl
  | .backreference target => exact alike_pure (by simp)
  | .classRange low high | .assertion kind body | .characterClass true items =>
      exact alike_pure rfl
  | .characterClass false items =>
      cases hfixed : Node.hasFixed (Node.veilList items) with
      | true =>
          rw [Node.veil, hfixed, if_pos rfl]
          exact (View.text mode).alike_characterClass (alike_ofNodes (depth + 1) items)
      | false =>
          -- items that need no copies might as well not be outlined
          have hspends := spends_ofNodes mode (depth + 1) items
          rw [← Node.needList_veilList, Node.needList_eq_zero hfixed] at hspends
          rw [Node.veil, hfixed]
          refine (alike_of_free hspends []).map fun outlines outlines' _ => ?_
          simp
  | .group (some capture) body => exact alike_pure rfl
  | .group none body =>
      exact (View.text mode).alike_group (alike_ofNodeOption (depth + 1) body)
  | .repetition body quantifier =>
      have hbody := alike_ofNode (depth + 1) body
      rw [Node.veil]
      simp only [ofNode, quantifier.takeCopies?_veil]
      refine (alike_takeCopies? quantifier.count).bind_id fun granted => ?_
      cases granted with
      | some n =>
          exact ((View.text mode).alike_copies hbody n).map fun _ _ h => (View.text mode).row none h
      | none =>
          refine hbody.map fun outline outline' h => ?_
          simp [h]
  | .alternative parts =>
      rw [Node.veil]
      simp only [ofNode, Node.heading?_veilList]
      exact (View.text mode).alike_alternative (alike_ofNodes (depth + 1) parts) _
  | .disjunction left right =>
      exact (View.text mode).alike_disjunction (alike_ofSide (depth + 2) left)
        (alike_ofSide (depth + 2) right)

theorem alike_ofNodeOption (depth : Nat) (node : Option Node) :
    Alike (shown mode) (ofNodeOption depth node) (ofNodeOption depth (Node.veilOption node)) := by
  match node with
  | none => exact alike_pure rfl
  | some node => exact alike_ofNode depth node

theorem alike_ofNodes (depth : Nat) (nodes : List Node) :
    Alike (shownList mode) (ofNodes depth nodes) (ofNodes depth (Node.veilList nodes)) := by
  match nodes with
  | [] => exact alike_pure rfl
  | node :: nodes =>
      exact (View.text mode).alike_cons (alike_ofNode depth node) (alike_ofNodes depth nodes)

theorem alike_ofSide (depth : Nat) (side : Option Node) :
    Alike (shownList mode) (ofSide depth side) (ofSide depth (Node.veilOption side)) := by
  match side with
  | none => exact (View.text mode).alike_branch (alike_pure rfl) none
  | some (.disjunction left right) =>
      exact (View.text mode).alike_append (alike_ofSide depth left) (alike_ofSide depth right)
  | some (.alternative parts) =>
      simp only [Node.veilOption, Node.veil, ofSide, Node.heading?_veilList]
      exact (View.text mode).alike_branch (alike_ofNodes depth parts) _
  | some (.char _) | some (.group (some _) _) | some (.group none _) | some (.repetition _ _)
  | some (.assertion _ _) | some (.characterClass true _) | some (.characterClass false _)
  | some (.classRange _ _) | some (.backreference _) =>
      simp only [Node.veilOption, ofSide]
      rw [← Node.heading?_veilList]
      exact (View.text mode).alike_branch_part (alike_ofNode depth _) _

end

end Alike

end Outline

/-- Regular expressions with equal veils have the same template, and reducing them leaves the same
number of copies. -/
theorem Regex.render_eq_of_veil_eq {regex other : Regex}
    (h : Node.veilOption regex.body = Node.veilOption other.body) (mode : Mode) :
    regex.render mode = other.render mode ∧
      (regex.reduceAtOnce mode).2.remaining = (other.reduceAtOnce mode).2.remaining := by
  have halike : ∀ body : Option Node, Outlining.Alike (Outline.shown mode)
      (Outline.ofNodeOption 1 body) (Outline.ofNodeOption 1 (Node.veilOption body)) :=
    Outline.alike_ofNodeOption 1
  obtain ⟨hshown, hremaining⟩ := halike regex.body {} {} rfl
  obtain ⟨hshown', hremaining'⟩ := halike other.body {} {} rfl
  rw [← h] at hshown' hremaining'
  have hleft : ∀ regex : Regex,
      (regex.reduceAtOnce mode).2.remaining = regex.outline.2.remaining := by
    intro regex
    rw [reduceAtOnce_eq]
    rfl
  rw [render_eq_shown, render_eq_shown, hleft, hleft]
  exact ⟨hshown.trans hshown'.symm, hremaining.trans hremaining'.symm⟩

def Regex.expected : Regex where
  body := some <| .alternative [
    .assertion .lookahead (some (.repetition (.group (some ⟨1, some "word"⟩) none)
      ⟨.exact (copyLimit + 1), true⟩)),
    .repetition (.group (some ⟨2, some "word"⟩) (some (.backreference (.number 2))))
      ⟨.exact 2, true⟩,
    .characterClass false [.char (.simple 'a')],
    .repetition (.char (.simple '!')) ⟨.star, true⟩]
  flags := {}
  captures := 2

def Regex.unexpected : Regex where
  body := some <| .alternative [
    .characterClass true [.char (.simple '?')],
    .repetition (.group (some ⟨1, some "word"⟩) none) ⟨.exact 2, false⟩,
    .characterClass false [.group (some ⟨2, none⟩) none, .disjunction none none],
    .repetition (.char (.simple '!')) ⟨.range 3 (some 5), false⟩]
  flags := {}
  captures := 1

theorem Regex.render_eq_of_veil_eq_expected :
    Node.veilOption expected.body = Node.veilOption unexpected.body ∧
      expected.render .mustache = unexpected.render .mustache ∧
        (expected.reduceAtOnce .mustache).2.remaining =
          (unexpected.reduceAtOnce .mustache).2.remaining := by
  have h : Node.veilOption expected.body = Node.veilOption unexpected.body := rfl
  exact ⟨h, Regex.render_eq_of_veil_eq h .mustache⟩

end PatternTemplate
