import PatternTemplate.Proofs.Template.Ledger
import PatternTemplate.Template.Reduction

/-!
# What remains of a pattern

`Remains nodes noted outlines` says that outlining can leave these outlines of a row of nodes, and
note these events while it does. It says once what each kind of node can become, without an account
and without a depth: a repetition with a fixed count is expanded or kept, and a row with a capturing
group among its parts is headed or not. What holds of all that can remain thus holds of every
template, whatever the account had left (`Regex.remains_outline`).

The copies of an expanded repetition are a row of nodes like any other, and nothing says that the
same remains of each of them.
-/

namespace PatternTemplate

namespace Outline

/-- Outlining the nodes can leave the outlines, noting the events. -/
inductive Remains : List Node → List Event → List Outline → Prop
  | nil : Remains [] [] []
  | append {front back : List Node} {noted others : List Event} {outlines more : List Outline}
      (hfront : Remains front noted outlines) (hback : Remains back others more) :
      Remains (front ++ back) (noted ++ others) (outlines ++ more)
  | char (c : Character) : Remains [.char c] [] [.char c]
  | backreference (target : Backreference) :
      Remains [.backreference target] [] [.backreference target]
  /-- Nothing is left of what only matches. -/
  | nothing {node : Node} (h : node.strip? = none) : Remains [node] [] []
  | characterClass {items : List Node} {noted : List Event} {outlines : List Outline}
      (h : Remains items noted outlines) :
      Remains [.characterClass false items] noted [.characterClass outlines]
  /-- A capturing group hides what is in it. -/
  | hole (capture : Capture) (body : Option Node) :
      Remains [.group (some capture) body] [] [.hole capture.identity]
  | group {body : Option Node} {noted : List Event} {outline : Option Outline}
      (h : Remains body.toList noted outline.toList) :
      Remains [.group none body] noted [.group outline]
  | expanded {body : Node} {quantifier : Quantifier} {n left : Nat} {noted : List Event}
      {outlines : List Outline} (hcount : quantifier.count = .exact n)
      (h : Remains (List.replicate n body) noted outlines) :
      Remains [.repetition body quantifier] (.expanded n left :: noted) [.row none outlines]
  | kept {body : Node} {quantifier : Quantifier} {n left : Nat} {noted : List Event}
      {outline : Option Outline} (hcount : quantifier.count = .exact n) (hlt : left < n)
      (h : Remains [body] noted outline.toList) :
      Remains [.repetition body quantifier] (.kept n left :: noted)
        (outline.map (.repetition · quantifier)).toList
  | unfixed {body : Node} {quantifier : Quantifier} {noted : List Event}
      {outline : Option Outline} (hcount : ∀ n, quantifier.count ≠ .exact n)
      (h : Remains [body] noted outline.toList) :
      Remains [.repetition body quantifier] noted
        (outline.map (.repetition · quantifier)).toList
  | row {parts : List Node} {noted : List Event} {outlines : List Outline}
      (h : Remains parts noted outlines) : Remains [.alternative parts] noted [.row none outlines]
  /-- A section is completed after its parts. -/
  | headed {parts : List Node} {identity : String} {noted : List Event} {outlines : List Outline}
      (hheading : heading? parts = some identity) (h : Remains parts noted outlines) :
      Remains [.alternative parts] (noted ++ [.headed identity]) [.row (some identity) outlines]
  /-- A choice is the row of its branches. -/
  | disjunction {left right : Option Node} {noted : List Event} {rows : List Outline}
      (h : Remains ((Node.branches left ++ Node.branches right).map .alternative) noted rows) :
      Remains [.disjunction left right] noted [.row none rows]

open Outlining

/-- What closing a row notes leads from its parts to the row, headed by a group among them. -/
theorem records_close {parts : List Node} {noted : List Event} {outlines : List Outline}
    {heading : Option String} (hheading : heading = none ∨ heading = heading? parts)
    (h : Remains parts noted outlines) :
    Records (close heading outlines) fun others outline =>
      Remains [.alternative parts] (noted ++ others) [outline] := by
  cases heading with
  | none =>
      refine records_pure ?_
      rw [List.append_nil]
      exact .row h
  | some identity =>
      have hparts : heading? parts = some identity :=
        (hheading.resolve_left (Option.some_ne_none identity)).symm
      refine (records_headed identity).map ?_
      rintro _ _ rfl
      exact .headed hparts h

theorem records_copies {action : Outlining (Option Outline)} {node : Node} (n : Nat)
    (h : Records action fun noted outline => Remains [node] noted outline.toList) :
    Records (copies action n) fun noted outlines =>
      Remains (List.replicate n node) noted outlines := by
  induction n with
  | zero => exact records_pure .nil
  | succ n ih =>
      rw [copies_succ]
      refine h.bind fun noted first hfirst => ih.map fun others more hmore => ?_
      exact hfirst.append hmore

mutual

/-- Outlining a node leaves what can remain of it. -/
theorem records_ofNode (depth : Nat) (node : Node) :
    Records (ofNode depth node) fun noted outline => Remains [node] noted outline.toList := by
  match node with
  | .char c => exact records_pure (.char c)
  | .backreference target => exact records_pure (.backreference target)
  | .classRange low high => exact records_pure (.nothing rfl)
  | .assertion kind body => exact records_pure (.nothing rfl)
  | .characterClass true items => exact records_pure (.nothing rfl)
  | .characterClass false items =>
      exact (records_ofNodes (depth + 1) items).map fun noted outlines h => .characterClass h
  | .group (some capture) body => exact records_pure (.hole capture body)
  | .group none body =>
      exact (records_ofNodeOption (depth + 1) body).map fun noted outline h => .group h
  | .repetition body quantifier =>
      have hbody := records_ofNode (depth + 1) body
      cases hcount : quantifier.count with
      | exact n =>
          rw [ofNode, hcount]
          refine records_takeCopies? (fun left => ?_) fun left hlt => ?_
          · exact (records_copies n hbody).map fun noted outlines h => .expanded hcount h
          · exact hbody.map fun noted outline h => .kept hcount hlt h
      | star | plus | optional | range =>
          have hnot : ∀ n, quantifier.count ≠ .exact n := by simp [hcount]
          rw [ofNode, takeCopies?_of_not_exact hnot, pure_bind]
          exact hbody.map fun noted outline h => .unfixed hnot h
  | .alternative parts =>
      refine (records_ofNodes (depth + 1) parts).bind fun noted outlines h => ?_
      refine (records_close ?_ h).map fun others outline h => h
      split
      · exact .inr rfl
      · exact .inl rfl
  | .disjunction left right =>
      refine (records_ofSide (depth + 2) left).bind fun noted front hfront => ?_
      refine (records_ofSide (depth + 2) right).map fun others back hback => ?_
      refine .disjunction ?_
      rw [List.map_append]
      exact hfront.append hback

theorem records_ofNodeOption (depth : Nat) (node : Option Node) :
    Records (ofNodeOption depth node) fun noted outline =>
      Remains node.toList noted outline.toList := by
  match node with
  | none => exact records_pure .nil
  | some node => exact records_ofNode depth node

theorem records_ofNodes (depth : Nat) (nodes : List Node) :
    Records (ofNodes depth nodes) (Remains nodes) := by
  match nodes with
  | [] => exact records_pure .nil
  | node :: nodes =>
      refine (records_ofNode depth node).bind fun noted front hfront => ?_
      exact (records_ofNodes depth nodes).map fun others back hback => hfront.append hback

theorem records_ofSide (depth : Nat) (side : Option Node) :
    Records (ofSide depth side) (Remains ((Node.branches side).map .alternative)) := by
  match side with
  | none =>
      simp only [ofSide, Node.branches, List.map_cons, List.map_nil]
      exact (records_close (.inl rfl) .nil).map fun noted outline h => h
  | some (.disjunction left right) =>
      rw [ofSide, Node.branches, List.map_append]
      refine (records_ofSide depth left).bind fun noted front hfront => ?_
      exact (records_ofSide depth right).map fun others back hback => hfront.append hback
  | some (.alternative parts) =>
      simp only [ofSide, Node.branches, List.map_cons, List.map_nil]
      refine (records_ofNodes depth parts).bind fun noted outlines h => ?_
      exact (records_close (.inr rfl) h).map fun others outline h => h
  | some (.char _) | some (.group _ _) | some (.repetition _ _) | some (.assertion _ _)
  | some (.characterClass _ _) | some (.classRange _ _) | some (.backreference _) =>
      simp only [ofSide, Node.branches, List.map_cons, List.map_nil]
      refine (records_ofNode depth _).bind fun noted outline h => ?_
      exact (records_close (.inr rfl) h).map fun others outline h => h

end

end Outline

/-- The outline of a regular expression can remain of its tree, and the events of outlining are a
ledger of the copies that there may be. -/
theorem Regex.remains_outline (regex : Regex) :
    Outline.Remains regex.body.toList regex.outline.2.events.toList regex.outline.1.toList ∧
      Ledger copyLimit regex.outline.2.events.toList regex.outline.2.remaining := by
  obtain ⟨noted, hevents, hledger, hremains⟩ := Outline.records_ofNodeOption 1 regex.body {}
  have hnoted : regex.outline.2.events.toList = noted := hevents
  rw [hnoted]
  exact ⟨hremains, hledger⟩

end PatternTemplate
