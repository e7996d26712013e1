import PatternTemplate.Proofs.Template.Expansion
import PatternTemplate.Proofs.Template.Text

/-!
# What a template shows

A template is made in two steps that carry an account and a depth. It can also be said without them
what each node of a pattern shows in a mode (`Node.denote`) and how many copies it needs
(`Node.need`). A pattern that needs no more copies than there may be has the template that its nodes
denote, and spends what it needs; in every other pattern some fixed repetition is kept
(`Regex.render_of_need`).
-/

namespace PatternTemplate

namespace Node

mutual

/-- The number of copies that are made of what is in a node if every fixed repetition is expanded.
What is not outlined needs none. -/
def need : Node → Nat
  | group none body => needOption body
  | repetition body quantifier =>
    match quantifier.count with
    | .exact n => n + n * need body
    | _ => need body
  | alternative nodes | characterClass false nodes => needList nodes
  | disjunction left right => needOption left + needOption right
  | char _ | backreference _ | classRange _ _ | assertion _ _ | characterClass true _
  | group (some _) _ => 0

def needOption : Option Node → Nat
  | none => 0
  | some node => need node

def needList : List Node → Nat
  | [] => 0
  | node :: nodes => need node + needList nodes

end

mutual

/-- What a node at a depth shows in a mode, with every fixed repetition expanded. -/
def denote (mode : Mode) (depth : Nat) : Node → String
  | char c => c.text
  | group (some capture) _ => mode.placeholder capture.identity
  | group none body => denoteOption mode (depth + 1) body
  | repetition body quantifier =>
    match quantifier.count with
    | .exact n => String.join (List.replicate n (denote mode (depth + 1) body))
    | _ => denote mode (depth + 1) body
  | alternative parts =>
    mode.wrap (if sectionDepth ≤ depth then Outline.heading? parts else none)
      (denoteList mode (depth + 1) parts)
  | disjunction left right => denoteSide mode (depth + 2) left ++ denoteSide mode (depth + 2) right
  | backreference _ | classRange _ _ | assertion _ _ | characterClass _ _ => ""

def denoteOption (mode : Mode) (depth : Nat) : Option Node → String
  | none => ""
  | some node => denote mode depth node

def denoteList (mode : Mode) (depth : Nat) : List Node → String
  | [] => ""
  | node :: nodes => denote mode depth node ++ denoteList mode depth nodes

def denoteSide (mode : Mode) (depth : Nat) : Option Node → String
  | none => ""
  | some (disjunction left right) => denoteSide mode depth left ++ denoteSide mode depth right
  | some (alternative parts) => mode.wrap (Outline.heading? parts) (denoteList mode depth parts)
  | some node => mode.wrap (Outline.heading? [node]) (denote mode depth node)

end

theorem denoteList_append (mode : Mode) (depth : Nat) (front back : List Node) :
    denoteList mode depth (front ++ back) =
      denoteList mode depth front ++ denoteList mode depth back := by
  induction front with
  | nil => simp [denoteList]
  | cons node nodes ih => simp [denoteList, ih, String.append_assoc]

/-- A side of a choice shows its branches one behind the other, each in the section of its first
capturing group. -/
theorem denoteSide_eq_join (mode : Mode) (depth : Nat) (side : Option Node) :
    denoteSide mode depth side =
      String.join ((branches side).map fun parts =>
        mode.wrap (Outline.heading? parts) (denoteList mode depth parts)) := by
  fun_induction branches side with
  | case1 => simp [denoteSide, denoteList, Outline.heading?]
  | case2 left right ihl ihr => simp [denoteSide, ihl, ihr]
  | case3 parts => simp [denoteSide]
  | case4 node h₁ h₂ => cases node <;> simp_all [denoteSide, denoteList]

theorem denote_disjunction (mode : Mode) (depth : Nat) (left right : Option Node) :
    denote mode depth (.disjunction left right) =
      String.join ((branches left ++ branches right).map fun parts =>
        mode.wrap (Outline.heading? parts) (denoteList mode (depth + 2) parts)) := by
  rw [denote, denoteSide_eq_join, denoteSide_eq_join, List.map_append, String.join_append]

end Node

namespace Outline

open Outlining

theorem spends_close (heading : Option String) (parts : List Outline) :
    Spends (close heading parts) 0 fun outline => outline = .row heading parts := by
  cases heading with
  | none => exact spends_pure rfl
  | some identity =>
      have hnote : Spends (note (.headed identity)) 0 fun _ => True := spends_note rfl
      exact hnote.map fun _ _ => rfl

private theorem textList_nodes_toList (mode : Mode) (outline : Option Outline) :
    Node.textList (nodes mode outline.toList) = Node.textOption (nodeOption mode outline) := by
  cases outline with
  | none => simp [nodes, nodeOption]
  | some outline => simp [nodes, nodeOption]

theorem spends_copies {mode : Mode} {action : Outlining (Option Outline)} {price : Nat}
    {text : String} (n : Nat)
    (h : Spends action price fun outline => Node.textOption (nodeOption mode outline) = text) :
    Spends (copies action n) (n * price) fun outlines =>
      Node.textList (nodes mode outlines) = String.join (List.replicate n text) := by
  induction n with
  | zero =>
      rw [Nat.zero_mul]
      exact spends_pure (by simp [nodes])
  | succ n ih =>
      rw [Nat.succ_mul, Nat.add_comm (n * price), copies_succ]
      refine h.bind fun first => ih.map fun others hothers hfirst => ?_
      rw [nodes_append, Node.textList_append, textList_nodes_toList, hfirst, hothers,
        List.replicate_succ, String.join_cons]

mutual

/-- Outlining a node spends what it needs and leaves what it shows. -/
theorem spends_ofNode (mode : Mode) (depth : Nat) (node : Node) :
    Spends (ofNode depth node) node.need fun outline =>
      Node.textOption (nodeOption mode outline) = node.denote mode depth := by
  match node with
  | .char c => exact spends_pure (by simp [nodeOption, Outline.node, Node.denote])
  | .backreference target => exact spends_pure (by simp [nodeOption, Outline.node, Node.denote])
  | .classRange low high => exact spends_pure (by simp [nodeOption, Node.denote])
  | .assertion kind body => exact spends_pure (by simp [nodeOption, Node.denote])
  | .characterClass true items => exact spends_pure (by simp [nodeOption, Node.denote])
  | .characterClass false items =>
      refine (spends_ofNodes mode (depth + 1) items).map fun outlines _ => ?_
      simp [nodeOption, Outline.node, Node.denote]
  | .group (some capture) body =>
      exact spends_pure
        (by simp [nodeOption, Outline.node, Node.denote, Character.placeholder])
  | .group none body =>
      refine (spends_ofNodeOption mode (depth + 1) body).map fun outline h => ?_
      simp [nodeOption, Outline.node, Node.denote, h]
  | .repetition body quantifier =>
      have hbody := spends_ofNode mode (depth + 1) body
      cases hcount : quantifier.count with
      | exact n =>
          have hneed : (Node.repetition body quantifier).need = n + n * body.need := by
            simp [Node.need, hcount]
          -- what happens to a repetition that is kept matters only for the events it notes
          have hrefused : Spends
              (do return (← ofNode (depth + 1) body).map fun outline =>
                Outline.repetition outline quantifier)
              body.need fun _ => True := hbody.map fun _ _ => trivial
          rw [hneed, ofNode, hcount]
          refine spends_takeCopies? ((spends_copies n hbody).map fun outlines h => ?_) hrefused
          simp [nodeOption, Outline.node, Node.denote, hcount, h]
      | star | plus | optional | range =>
          have hnot : ∀ n, quantifier.count ≠ .exact n := by simp [hcount]
          rw [ofNode, takeCopies?_of_not_exact hnot, pure_bind, Node.need, hcount]
          refine hbody.map fun outline h => ?_
          rw [Node.denote, hcount, ← h]
          cases outline with
          | none => rfl
          | some outline => simp [nodeOption, Outline.node]
  | .alternative parts =>
      refine (spends_ofNodes mode (depth + 1) parts).bind_free fun outlines => ?_
      refine (spends_close _ outlines).map ?_
      -- closing the row costs nothing
      rintro _ rfl h
      simp [nodeOption, Outline.node, Node.denote, h]
  | .disjunction left right =>
      refine (spends_ofSide mode (depth + 2) left).bind fun front => ?_
      refine (spends_ofSide mode (depth + 2) right).map fun back hback hfront => ?_
      simp [nodeOption, Outline.node, Node.denote, hfront, hback]

theorem spends_ofNodeOption (mode : Mode) (depth : Nat) (node : Option Node) :
    Spends (ofNodeOption depth node) (Node.needOption node) fun outline =>
      Node.textOption (nodeOption mode outline) = Node.denoteOption mode depth node := by
  match node with
  | none => exact spends_pure rfl
  | some node => exact spends_ofNode mode depth node

theorem spends_ofNodes (mode : Mode) (depth : Nat) (nodes : List Node) :
    Spends (ofNodes depth nodes) (Node.needList nodes) fun outlines =>
      Node.textList (Outline.nodes mode outlines) = Node.denoteList mode depth nodes := by
  match nodes with
  | [] => exact spends_pure (by simp [Outline.nodes, Node.denoteList])
  | node :: nodes =>
      refine (spends_ofNode mode depth node).bind fun front => ?_
      refine (spends_ofNodes mode depth nodes).map fun back hback hfront => ?_
      rw [nodes_append, Node.textList_append, textList_nodes_toList, hfront, hback,
        Node.denoteList]

theorem spends_ofSide (mode : Mode) (depth : Nat) (side : Option Node) :
    Spends (ofSide depth side) (Node.needOption side) fun rows =>
      Node.textList (Outline.nodes mode rows) = Node.denoteSide mode depth side := by
  match side with
  | none =>
      refine (spends_close none []).map ?_
      rintro _ rfl
      simp [Outline.nodes, Outline.node, Node.denoteSide]
  | some (.disjunction left right) =>
      refine (spends_ofSide mode depth left).bind fun front => ?_
      refine (spends_ofSide mode depth right).map fun back hback hfront => ?_
      rw [nodes_append, Node.textList_append, hfront, hback, Node.denoteSide]
  | some (.alternative parts) =>
      refine (spends_ofNodes mode depth parts).bind_free fun outlines => ?_
      refine (spends_close (heading? parts) outlines).map ?_
      rintro _ rfl h
      simp [Outline.nodes, Outline.node, Node.denoteSide, h]
  | some (.char _) | some (.group _ _) | some (.repetition _ _) | some (.assertion _ _)
  | some (.characterClass _ _) | some (.classRange _ _) | some (.backreference _) =>
      simp only [ofSide, Node.denoteSide, Node.needOption]
      refine (spends_ofNode mode depth _).bind_free fun outline => ?_
      refine (spends_close _ outline.toList).map ?_
      rintro _ rfl h
      simp [Outline.nodes, Outline.node, textList_nodes_toList, h]

end

end Outline

/-- Within the limit, a template shows what the nodes of its pattern denote, every fixed repetition
is expanded, and the copies are spent that the pattern needs. Beyond the limit a repetition is
kept. -/
theorem Regex.render_of_need (mode : Mode) (regex : Regex) :
    (Node.needOption regex.body ≤ copyLimit →
      regex.render mode = Node.denoteOption mode 1 regex.body ∧
        regex.outline.2.remaining = copyLimit - Node.needOption regex.body ∧
          ∀ event ∈ regex.outline.2.events, event.isKept = false) ∧
      (copyLimit < Node.needOption regex.body →
        ∃ event ∈ regex.outline.2.events, event.isKept = true) := by
  obtain ⟨noted, hevents, hheld, hover⟩ := Outline.spends_ofNodeOption mode 1 regex.body {}
  have hnoted : regex.outline.2.events.toList = noted := hevents
  simp only [← Array.mem_toList_iff, hnoted]
  refine ⟨?_, hover⟩
  intro hle
  obtain ⟨hkept, hremaining, hshows⟩ := hheld hle
  refine ⟨?_, hremaining, hkept⟩
  rw [Regex.render, Regex.text_eq]
  exact hshows

/-- Three characters so many times, which needs four copies each time. -/
def Regex.threes (n : Nat) : Regex where
  body := some <| .repetition
    (.group none <| some <| .repetition (.char (.simple 'a')) ⟨.exact 3, true⟩) ⟨.exact n, true⟩
  flags := {}
  captures := 0

theorem Regex.render_of_need_threes :
    ((threes 256).render .plain = String.join (List.replicate 256 "aaa") ∧
      (threes 256).outline.2.remaining = 0) ∧
        ∃ event ∈ (threes 257).outline.2.events, event.isKept = true := by
  have hneed : ∀ n, Node.needOption (threes n).body = n + n * 3 := fun _ => rfl
  have hdenote : Node.denoteOption .plain 1 (threes 256).body =
      String.join (List.replicate 256 "aaa") := rfl
  have hwithin : Node.needOption (threes 256).body ≤ copyLimit := by
    rw [hneed]
    decide
  have hbeyond : copyLimit < Node.needOption (threes 257).body := by
    rw [hneed]
    decide
  obtain ⟨hrender, hremaining, -⟩ := (Regex.render_of_need .plain (threes 256)).1 hwithin
  refine ⟨⟨hrender.trans hdenote, ?_⟩, (Regex.render_of_need .plain (threes 257)).2 hbeyond⟩
  rw [hremaining, hneed]
  rfl

end PatternTemplate
