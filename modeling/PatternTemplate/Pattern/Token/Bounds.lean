import PatternTemplate.Pattern.Node
import PatternTemplate.Text.Numeral

/-!
# Bounds in braces

A quantifier in braces gives a number of repetitions, a least number, or a least and a greatest
one. `bounds?` reads what stands behind an opening brace. A brace with anything else behind it
opens no quantifier and is a character like any other.
-/

namespace PatternTemplate

open Text

structure Bounds where
  min : Nat
  max : Option Nat
  deriving DecidableEq, Repr

/-- The repetitions that the bounds allow; none if the upper bound is the smaller one. -/
def Bounds.count? (bounds : Bounds) : Option Quantifier.Count :=
  match bounds.max with
  | none => some (.range bounds.min none)
  | some max =>
    if max < bounds.min then none
    else if max = bounds.min then some (.exact max)
    else some (.range bounds.min (some max))

theorem Bounds.count?_eq_none_iff {bounds : Bounds} :
    bounds.count? = none ↔ ∃ max, bounds.max = some max ∧ max < bounds.min := by
  unfold count?
  cases bounds.max with
  | none => simp
  | some max =>
    by_cases h₁ : max < bounds.min
    · simp [h₁]
    · by_cases h₂ : max = bounds.min <;> simp [h₁, h₂]

/-- The bounds behind an opening brace up to the closing one, and how many characters they take,
the closing brace included. -/
def bounds? (s : List Char) : Option (Bounds × Nat) :=
  let low := leadingDigits s
  if low.isEmpty then none
  else
    match s.drop low.length with
    | '}' :: _ => some (⟨decimalNumber low, some (decimalNumber low)⟩, low.length + 1)
    | ',' :: rest =>
      let high := leadingDigits rest
      match rest.drop high.length with
      | '}' :: _ =>
        some (⟨decimalNumber low, if high.isEmpty then none else some (decimalNumber high)⟩,
          low.length + high.length + 2)
      | _ => none
    | _ => none

end PatternTemplate
