import PatternTemplate.Proofs.Text.Numeral

/-!
# Numerals in 32 bits

A numeral is read digit by digit, and a word of 32 bits may be too small on the way. A reader can
stay at the largest number from then on (`Text.saturatingNumber`) or give up
(`Text.checkedNumber?`). Neither needs to know how long the numeral is: leading zeros do not bring
a step closer to the limit, and the value of a numeral is never below that of its front. So the
first reader finds the number cut off at the limit, which is `Text.decimalNumber`, and the second
finds the number if it is within the limit and nothing if it is not.
-/

namespace PatternTemplate

namespace Text

/-! ### Staying at the limit -/

/-- The number of decimal digits, where a product and a sum that pass the limit are the limit. -/
def saturatingNumber (digits : List Char) : Nat :=
  digits.foldl
    (fun value d => min (min (value * 10) numberLimit + digitValue d) numberLimit) 0

/-- Cutting off at each step is cutting off once at the end. -/
theorem foldl_saturating (digits : List Char) (start : Nat) :
    digits.foldl
        (fun value d => min (min (value * 10) numberLimit + digitValue d) numberLimit)
        (min start numberLimit) =
      min (digits.foldl (fun value d => value * 10 + digitValue d) start) numberLimit := by
  induction digits generalizing start with
  | nil => rfl
  | cons d digits ih =>
      have hstep : min (min (min start numberLimit * 10) numberLimit + digitValue d) numberLimit =
          min (start * 10 + digitValue d) numberLimit := by omega
      rw [List.foldl_cons, List.foldl_cons, hstep, ih]

theorem saturatingNumber_eq (digits : List Char) :
    saturatingNumber digits = decimalNumber digits :=
  foldl_saturating digits 0

/-! ### Giving up at the limit -/

def fit? (n : Nat) : Option Nat :=
  if n ≤ numberLimit then some n else none

/-- The number of digits in a base, if no product and no sum passes the limit. -/
def checkedNumber? (base : Nat) (digits : List Char) : Option Nat :=
  digits.foldlM (fun value d => do fit? ((← fit? (value * base)) + digitValue d)) 0

theorem fit?_of_le {n : Nat} (h : n ≤ numberLimit) : fit? n = some n :=
  if_pos h

theorem fit?_of_lt {n : Nat} (h : numberLimit < n) : fit? n = none :=
  if_neg (Nat.not_le_of_lt h)

theorem fit?_add (n m : Nat) : (do fit? ((← fit? n) + m)) = fit? (n + m) := by
  by_cases h : n ≤ numberLimit
  · rw [fit?_of_le h]
    rfl
  · have hlt := Nat.lt_of_not_le h
    rw [fit?_of_lt hlt, fit?_of_lt (Nat.lt_add_right m hlt)]
    rfl

/-- Testing each step is testing once at the end. -/
theorem foldlM_checked {base : Nat} (hbase : 1 ≤ base) (digits : List Char) {start : Nat}
    (hstart : start ≤ numberLimit) :
    digits.foldlM (fun value d => do fit? ((← fit? (value * base)) + digitValue d)) start =
      fit? (digits.foldl (fun value d => value * base + digitValue d) start) := by
  induction digits generalizing start with
  | nil => exact (fit?_of_le hstart).symm
  | cons d digits ih =>
      rw [List.foldlM_cons, List.foldl_cons, fit?_add]
      by_cases h : start * base + digitValue d ≤ numberLimit
      · rw [fit?_of_le h]
        exact ih h
      · -- the digits behind do not take the number below the limit again
        have hlt := Nat.lt_of_not_le h
        have hlast := Nat.lt_of_lt_of_le hlt (le_foldl_digitValue hbase digits _)
        rw [fit?_of_lt hlt, fit?_of_lt hlast]
        rfl

theorem checkedNumber?_eq {base : Nat} (hbase : 1 ≤ base) (digits : List Char) :
    checkedNumber? base digits = fit? (numeralValue base digits) :=
  foldlM_checked hbase digits (Nat.zero_le _)

end Text

end PatternTemplate
