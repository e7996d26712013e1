/-!
# Numerals

Runs of ASCII digits at the front of a text, and the numbers they denote. A run is maximal: the
character behind it, if there is one, is no digit. Decimal numbers of a pattern are cut off at
`numberLimit`, the largest number that fits 32 bits, however many digits are written.
-/

namespace PatternTemplate

namespace Text

def isHexDigit (c : Char) : Bool :=
  c.isDigit || ('a' ≤ c && c ≤ 'f') || ('A' ≤ c && c ≤ 'F')

/-- The value of a digit, the letters counting on from ten. -/
def digitValue (c : Char) : Nat :=
  if c.isDigit then c.toNat - '0'.toNat
  else if 'a' ≤ c then c.toNat - 'a'.toNat + 10
  else c.toNat - 'A'.toNat + 10

/-- The number that a run of digits denotes, the most significant digit first. -/
def numeralValue (base : Nat) (digits : List Char) : Nat :=
  digits.foldl (fun value d => value * base + digitValue d) 0

@[simp] theorem numeralValue_nil (base : Nat) : numeralValue base [] = 0 := rfl

theorem numeralValue_append_singleton (base : Nat) (digits : List Char) (d : Char) :
    numeralValue base (digits ++ [d]) = numeralValue base digits * base + digitValue d := by
  simp [numeralValue]

/-- The largest decimal number a pattern can hold. -/
def numberLimit : Nat := 4294967295

/-- The decimal number of a run of digits, cut off at the limit. -/
def decimalNumber (digits : List Char) : Nat :=
  min (numeralValue 10 digits) numberLimit

theorem decimalNumber_le (digits : List Char) : decimalNumber digits ≤ numberLimit :=
  Nat.min_le_right _ _

def leadingDigits (s : List Char) : List Char :=
  s.takeWhile Char.isDigit

def leadingHexDigits (s : List Char) : List Char :=
  s.takeWhile isHexDigit

theorem isDigit_of_mem_leadingDigits {s : List Char} {c : Char} (h : c ∈ leadingDigits s) :
    c.isDigit = true :=
  List.all_eq_true.1 List.all_takeWhile c h

theorem isHexDigit_of_mem_leadingHexDigits {s : List Char} {c : Char}
    (h : c ∈ leadingHexDigits s) : isHexDigit c = true :=
  List.all_eq_true.1 List.all_takeWhile c h

theorem leadingDigits_append_drop (s : List Char) :
    leadingDigits s ++ s.drop (leadingDigits s).length = s :=
  List.prefix_iff_eq_append.1 (List.takeWhile_prefix _)

theorem leadingHexDigits_append_drop (s : List Char) :
    leadingHexDigits s ++ s.drop (leadingHexDigits s).length = s :=
  List.prefix_iff_eq_append.1 (List.takeWhile_prefix _)

end Text

end PatternTemplate
