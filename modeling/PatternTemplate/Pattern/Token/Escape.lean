import PatternTemplate.Pattern.Character
import PatternTemplate.Text.Numeral

/-!
# Escaped characters

An escape is a backslash and a letter, for some letters with more behind it. `escape?` is given the
letter and the text behind it; it says which character the escape writes and how many characters of
that text belong to it. A letter whose further characters are missing stands for itself and takes
nothing; only a control must have its letter, so it is the one escape that can fail.
-/

namespace PatternTemplate

open Text

def maxCodePoint : Nat := 0x10ffff

/-- The first characters of a text, if there are enough of them and all are hexadecimal digits. -/
def hexDigits? (count : Nat) (s : List Char) : Option (List Char) :=
  let digits := s.take count
  if digits.length = count ∧ digits.all isHexDigit then some digits else none

/-- The hexadecimal digits in front of a closing brace, if they denote a code point. Leading zeros
do not matter, so there may be any number of digits. -/
def bracedHexDigits? (s : List Char) : Option (List Char) :=
  let digits := leadingHexDigits s
  match digits, s.drop digits.length with
  | _ :: _, '}' :: _ => if numeralValue 16 digits ≤ maxCodePoint then some digits else none
  | _, _ => none

def hexEscape (s : List Char) : Character × Nat :=
  match hexDigits? 2 s with
  | some digits =>
    (⟨String.ofList ('\\' :: 'x' :: digits), .hex, some (numeralValue 16 digits)⟩, 2)
  | none => (.simple 'x', 0)

/-- The character written by four hexadecimal digits, or by a code point in braces. -/
def unicodeEscape (s : List Char) : Character × Nat :=
  match s with
  | '{' :: rest =>
    match bracedHexDigits? rest with
    | some digits =>
      (⟨String.ofList ('\\' :: 'u' :: '{' :: digits ++ ['}']), .unicode,
        some (numeralValue 16 digits)⟩, digits.length + 2)
    | none => (.simple 'u', 0)
  | _ =>
    match hexDigits? 4 s with
    | some digits =>
      (⟨String.ofList ('\\' :: 'u' :: digits), .unicode, some (numeralValue 16 digits)⟩, 4)
    | none => (.simple 'u', 0)

/-- The control character that goes with a letter of either case. -/
def controlEscape? (s : List Char) : Option (Character × Nat) :=
  match s with
  | letter :: _ =>
    if letter.isAlpha then
      some (⟨String.ofList ['\\', 'c', letter], .control, some (letter.toNat % 32)⟩, 1)
    else none
  | [] => none

/-- The character that the letter of an escape and the text behind it write, and how much of that
text belongs to the escape. The letter `b` writes the backspace: where it marks a word boundary,
the escape is not read as a character. -/
def escape? (letter : Char) (s : List Char) : Option (Character × Nat) :=
  match letter with
  | 'd' | 'D' | 'w' | 'W' | 's' | 'S' => some (.symbolic (String.ofList ['\\', letter]) none, 0)
  | 'n' => some (.symbolic "\\n" (some 0x0a), 0)
  | 't' => some (.symbolic "\\t" (some 0x09), 0)
  | 'r' => some (.symbolic "\\r" (some 0x0d), 0)
  | 'f' => some (.symbolic "\\f" (some 0x0c), 0)
  | 'v' => some (.symbolic "\\v" (some 0x0b), 0)
  | '0' => some (.symbolic "\\0" (some 0x00), 0)
  | 'b' => some (.symbolic "\\b" (some 0x08), 0)
  | 'c' => controlEscape? s
  | 'x' => some (hexEscape s)
  | 'u' => some (unicodeEscape s)
  | _ => some (.simple letter, 0)

end PatternTemplate
