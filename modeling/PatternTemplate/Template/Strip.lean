import PatternTemplate.Pattern.Node

/-!
# Pieces that only match

Assertions, ranges and negated classes decide what a pattern matches and leave nothing to show, so
`Node.strip?` drops them. A choice shows all its branches, one behind the other: it becomes a row of
rows, one for each side that is not a choice itself (`Node.branches`). Only the node itself is
looked at; what is in it stays as it is.
-/

namespace PatternTemplate

namespace Node

/-- The branches of one side of a choice, from left to right. A side that is a choice contributes
its own branches, a row is a branch as it is, and an empty side is an empty branch. -/
def branches : Option Node → List (List Node)
  | none => [[]]
  | some (disjunction left right) => branches left ++ branches right
  | some (alternative parts) => [parts]
  | some node => [[node]]

/-- The node without what only matches, or none if it only matches. -/
def strip? : Node → Option Node
  | classRange _ _ | assertion _ _ | characterClass true _ => none
  | disjunction left right =>
    some (.alternative ((branches left ++ branches right).map .alternative))
  | node => some node

end Node

end PatternTemplate
