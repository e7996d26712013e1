import PatternTemplate.Template.Expansion
import PatternTemplate.Template.Outline
import PatternTemplate.Template.Strip

/-!
# The outline of a pattern

Outlining goes through a tree once, from left to right, and carries the depth of the node at hand:
the body of the pattern is at depth 1 and each step down adds one. Pieces that only match leave
nothing. A capturing group leaves a hole and hides what is in it, and a fixed repetition leaves its
copies as long as the account allows them.

A row from `sectionDepth` on is headed by its first capturing group, if it has one among its own
parts. A row above that depth is the pattern itself, or what the group around the whole pattern
holds, and has no heading. The branches of a choice are headed at every depth, since each of them
may be absent from a match.
-/

namespace PatternTemplate

/-- The depth from which on a row can be a section. -/
def sectionDepth : Nat := 3

namespace Outline

/-- The identity of the first capturing group among the parts of a row. -/
def heading? (parts : List Node) : Option String :=
  (parts.findSome? Node.capture?).map Capture.identity

theorem heading?_eq_none_iff {parts : List Node} :
    heading? parts = none ↔ ∀ part ∈ parts, part.capture? = none := by
  simp [heading?]

theorem heading?_map {f : Node → Node}
    (h : ∀ node, (f node).capture?.map Capture.identity = node.capture?.map Capture.identity)
    (parts : List Node) : heading? (parts.map f) = heading? parts := by
  have hidentity : (Option.map Capture.identity ∘ Node.capture?) ∘ f =
      Option.map Capture.identity ∘ Node.capture? := funext h
  unfold heading?
  rw [List.map_findSome?, List.map_findSome?, List.findSome?_map, hidentity]

/-- The row of some parts, whose completion is noted if it is a section. -/
def close (heading : Option String) (parts : List Outline) : Outlining Outline := do
  match heading with
  | some identity => Outlining.note (.headed identity)
  | none => pure ()
  return .row heading parts

mutual

def ofNode (depth : Nat) : Node → Outlining (Option Outline)
  | .char c => return some (.char c)
  | .backreference target => return some (.backreference target)
  | .classRange _ _ => return none
  | .assertion _ _ => return none
  | .characterClass true _ => return none
  | .characterClass false items => return some (.characterClass (← ofNodes (depth + 1) items))
  | .group (some capture) _ => return some (.hole capture.identity)
  | .group none body => return some (.group (← ofNodeOption (depth + 1) body))
  | .repetition body quantifier => do
    match ← Outlining.takeCopies? quantifier.count with
    | some count => return some (.row none (← Outlining.copies (ofNode (depth + 1) body) count))
    | none => return (← ofNode (depth + 1) body).map (.repetition · quantifier)
  | .alternative parts => do
    let outlines ← ofNodes (depth + 1) parts
    return some (← close (if sectionDepth ≤ depth then heading? parts else none) outlines)
  | .disjunction left right => do
    let front ← ofSide (depth + 2) left
    let back ← ofSide (depth + 2) right
    return some (.row none (front ++ back))

def ofNodeOption (depth : Nat) : Option Node → Outlining (Option Outline)
  | none => return none
  | some node => ofNode depth node

def ofNodes (depth : Nat) : List Node → Outlining (List Outline)
  | [] => return []
  | node :: nodes => do
    let front ← ofNode depth node
    let back ← ofNodes depth nodes
    return front.toList ++ back

/-- The rows that the branches of one side of a choice leave, with their parts at a depth. -/
def ofSide (depth : Nat) : Option Node → Outlining (List Outline)
  | none => return [← close none []]
  | some (.disjunction left right) => do
    let front ← ofSide depth left
    let back ← ofSide depth right
    return front ++ back
  | some (.alternative parts) => do
    let outlines ← ofNodes depth parts
    return [← close (heading? parts) outlines]
  | some node => do
    let outline ← ofNode depth node
    return [← close (heading? [node]) outline.toList]

end

/-- A side of a choice leaves one row for each of its branches. -/
theorem ofSide_eq_mapM (depth : Nat) (side : Option Node) :
    ofSide depth side =
      (Node.branches side).mapM
        fun parts => ofNodes depth parts >>= close (heading? parts) := by
  fun_induction Node.branches side with
  | case1 => simp [ofSide, ofNodes, heading?]
  | case2 left right ihl ihr => simp [ofSide, ihl, ihr]
  | case3 parts => simp [ofSide]
  | case4 node h₁ h₂ => cases node <;> simp_all [ofSide, ofNodes]

end Outline

end PatternTemplate
