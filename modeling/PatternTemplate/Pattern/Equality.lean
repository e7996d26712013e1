import PatternTemplate.Pattern.Node

/-!
# Equality of syntax trees

Two trees are equal if they have the same shape and the same data at every node. The test runs
through both trees at once (`Node.beq`), and it decides equality (`Node.beq_iff`).
-/

namespace PatternTemplate

namespace Node

mutual

def beq : Node → Node → Bool
  | char c, char d => c == d
  | group c b, group d e => c == d && beqOption b e
  | repetition b q, repetition c r => beq b c && q == r
  | alternative ps, alternative qs => beqList ps qs
  | disjunction a b, disjunction c d => beqOption a c && beqOption b d
  | assertion k b, assertion l c => k == l && beqOption b c
  | characterClass m is, characterClass n js => m == n && beqList is js
  | classRange a b, classRange c d => a == c && b == d
  | backreference t, backreference u => t == u
  | _, _ => false

def beqOption : Option Node → Option Node → Bool
  | none, none => true
  | some a, some b => beq a b
  | _, _ => false

def beqList : List Node → List Node → Bool
  | [], [] => true
  | a :: as, b :: bs => beq a b && beqList as bs
  | _, _ => false

end

mutual

theorem beq_iff (a b : Node) : beq a b = true ↔ a = b := by
  cases a <;> cases b <;> simp [beq, beq_iff, beqOption_iff, beqList_iff]

theorem beqOption_iff (a b : Option Node) : beqOption a b = true ↔ a = b := by
  cases a <;> cases b <;> simp [beqOption, beq_iff]

theorem beqList_iff (as bs : List Node) : beqList as bs = true ↔ as = bs := by
  cases as <;> cases bs <;> simp [beqList, beq_iff, beqList_iff]

end

instance : DecidableEq Node := fun a b => decidable_of_iff _ (beq_iff a b)

end Node

end PatternTemplate
