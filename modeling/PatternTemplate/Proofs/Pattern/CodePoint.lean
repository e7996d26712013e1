import PatternTemplate.Proofs.Pattern.Printing
import PatternTemplate.Proofs.Pattern.Run
import PatternTemplate.Proofs.Text.Word

/-!
# Characters written by their code points

A code point is written by two digits behind `\x`, by four behind `\u`, or by any number of them in
braces behind `\u`. The texts that do so are described without a reader (`Text.StartsWithHex`,
`Text.StartsWithBraced`). The letter of every other such escape is a character of its own, and what
is behind it is read as if there were no escape, so a brace there can begin a quantifier. This is
the same in a class and outside of classes (`Character.ReadAs`).
-/

namespace PatternTemplate

open Text

namespace Text

structure StartsWithHex (count : Nat) (s digits : List Char) : Prop where
  length : digits.length = count
  isHexDigit : ∀ d ∈ digits, isHexDigit d = true
  front : ∃ rest, s = digits ++ rest

/-- The text starts with a brace, and in front of the first closing one there are hexadecimal digits
and nothing else, which denote a code point. -/
structure StartsWithBraced (s digits : List Char) : Prop where
  ne_nil : digits ≠ []
  isHexDigit : ∀ d ∈ digits, isHexDigit d = true
  le : numeralValue 16 digits ≤ maxCodePoint
  closed : '}' ∉ digits
  front : ∃ rest, s = '{' :: (digits ++ '}' :: rest)

theorem startsWithHex_iff {count : Nat} {s digits : List Char} :
    StartsWithHex count s digits ↔ hexDigits? count s = some digits := by
  rw [hexDigits?_eq_some_iff]
  constructor
  · rintro ⟨hlength, hd, hfront⟩
    exact ⟨hlength, hd, hfront⟩
  · rintro ⟨hlength, hd, hfront⟩
    exact ⟨hlength, hd, hfront⟩

/-- A closing brace is no digit, so the first one is the one behind the digits. -/
theorem startsWithBraced_iff {s digits : List Char} :
    StartsWithBraced ('{' :: s) digits ↔ bracedHexDigits? s = some digits := by
  rw [bracedHexDigits?_eq_some_iff]
  constructor
  · rintro ⟨hne, hd, hle, -, rest, hs⟩
    exact ⟨hne, hd, hle, rest, List.cons_injective hs⟩
  · rintro ⟨hne, hd, hle, rest, rfl⟩
    have hclosed : '}' ∉ digits := fun hmem => absurd (hd '}' hmem) (by decide)
    exact ⟨hne, hd, hle, hclosed, rest, rfl⟩

theorem hexDigits?_eq_none_iff {count : Nat} {s : List Char} :
    hexDigits? count s = none ↔ ∀ digits, ¬ StartsWithHex count s digits := by
  simp only [Option.eq_none_iff_forall_ne_some, startsWithHex_iff, ne_eq]

theorem bracedHexDigits?_eq_none_iff {s : List Char} :
    bracedHexDigits? s = none ↔ ∀ digits, ¬ StartsWithBraced ('{' :: s) digits := by
  simp only [Option.eq_none_iff_forall_ne_some, startsWithBraced_iff, ne_eq]

theorem hexEscape_eq_simple {s : List Char} (h : ∀ digits, ¬ StartsWithHex 2 s digits) :
    hexEscape s = (.simple 'x', 0) := by
  simp only [hexEscape, hexDigits?_eq_none_iff.2 h]

theorem unicodeEscape_eq_simple {s : List Char} (hfour : ∀ digits, ¬ StartsWithHex 4 s digits)
    (hbraced : ∀ digits, ¬ StartsWithBraced s digits) : unicodeEscape s = (.simple 'u', 0) := by
  unfold unicodeEscape
  split
  · rw [bracedHexDigits?_eq_none_iff.2 hbraced]
  · rw [hexDigits?_eq_none_iff.2 hfour]

theorem checkedNumber?_filter (digits : List Char) :
    (checkedNumber? 16 digits).filter (· ≤ maxCodePoint) =
      if numeralValue 16 digits ≤ maxCodePoint then some (numeralValue 16 digits) else none := by
  rw [checkedNumber?_eq (by decide)]
  by_cases hle : numeralValue 16 digits ≤ maxCodePoint
  · have hfit : numeralValue 16 digits ≤ numberLimit := Nat.le_trans hle (by decide)
    rw [fit?_of_le hfit, if_pos hle]
    simp [hle]
  · rw [if_neg hle, Option.filter_eq_none_iff]
    intro n hn
    obtain rfl : numeralValue 16 digits = n := by
      unfold fit? at hn
      split at hn
      · exact Option.some.inj hn
      · cases hn
    simpa using hle

end Text

/-- Behind a backslash, the letter and so many characters of the text behind it are read as the
character, and reading goes on with the text that is left. -/
structure Character.ReadAs (character : Character) (letter : Char) (s : List Char) (width : Nat) :
    Prop where
  outside : ∀ (reading : Reading) (offset : Nat),
    reading.run offset ('\\' :: letter :: s) =
      (reading.atom offset (.char character)).run (offset + 2 + width) (s.drop width)
  /-- A character of a class, which may be an end of a range. -/
  inClass : ∀ start offset : Nat,
    classCharacter start offset '\\' (letter :: s) = .ok (character, width + 1)
  /-- An item of a class, which is no range unless a dash says so. -/
  item : ∀ start offset : Nat, (∀ d rest, s.drop width = '-' :: d :: rest → d = ']') →
    classItems start offset ('\\' :: letter :: s) = do
      let (items, more) ← classItems start (offset + 2 + width) (s.drop width)
      return (.char character :: items, 2 + width + more)

/-- An escape that is read as a character in a class is read as the same one outside of classes, if
its letter begins nothing else there. -/
theorem Character.readAs_of_escape? {character : Character} {letter : Char} {s : List Char}
    {width : Nat} (hletter : letter ∉ ['b', 'B', 'k']) (hdigit : letter.isDigit = false)
    (h : escape? letter s = some (character, width)) : character.ReadAs letter s width := by
  have hclass : ∀ start offset : Nat,
      classCharacter start offset '\\' (letter :: s) = .ok (character, width + 1) := by
    intro start offset
    simp only [classCharacter, h, if_true]
  constructor
  case outside =>
    intro reading offset
    have hread : Token.read offset '\\' (letter :: s) =
        .ok (.atom (.char character), width + 1) := by
      simp only [Token.read, Token.readEscape_letter hletter, hdigit, h]
      rfl
    rw [Reading.run_cons_of_read hread rfl, List.drop_succ_cons]
    congr 1
    omega
  case inClass => exact hclass
  case item =>
    intro start offset hrange
    have hitem : classItem start offset '\\' (letter :: s) =
        .ok ([.char character], width + 1) := by
      unfold classItem
      rw [hclass]
      simp only [bind, Except.bind, List.drop_succ_cons]
      split
      · next d rest hdash =>
        rw [if_pos (hrange d rest hdash)]
        rfl
      · rfl
    have hplace : offset + 1 + (width + 1) = offset + 2 + width := by omega
    have hwidth : ∀ more, 1 + (width + 1) + more = 2 + width + more := by omega
    rw [classItems, if_neg (by decide), hitem]
    simp only [bind, Except.bind, List.drop_succ_cons, hplace, hwidth, List.singleton_append]

/-- An escape with a code point is read as one character, which keeps its digits as they are
written. If the digits that belong to the letter are not there, or denote no code point, then the
letter is read as itself and nothing behind it is taken. Numbers beyond 32 bits denote no code
point, and leading zeros take none of the 32 bits. -/
theorem Character.readAs_codePoint :
    (∀ s : List Char,
      (∀ digits, StartsWithHex 4 s digits →
        ReadAs ⟨String.ofList ('\\' :: 'u' :: digits), .unicode, some (numeralValue 16 digits)⟩
          'u' s 4) ∧
      (∀ digits, StartsWithBraced s digits →
        ReadAs ⟨String.ofList ('\\' :: 'u' :: '{' :: digits ++ ['}']), .unicode,
          some (numeralValue 16 digits)⟩ 'u' s (digits.length + 2)) ∧
      ((∀ digits, ¬ StartsWithHex 4 s digits) → (∀ digits, ¬ StartsWithBraced s digits) →
        ReadAs (.simple 'u') 'u' s 0) ∧
      (∀ digits, StartsWithHex 2 s digits →
        ReadAs ⟨String.ofList ('\\' :: 'x' :: digits), .hex, some (numeralValue 16 digits)⟩
          'x' s 2) ∧
      ((∀ digits, ¬ StartsWithHex 2 s digits) → ReadAs (.simple 'x') 'x' s 0)) ∧
    ∀ digits : List Char,
      (checkedNumber? 16 digits).filter (· ≤ maxCodePoint) =
        if numeralValue 16 digits ≤ maxCodePoint then some (numeralValue 16 digits) else none := by
  refine ⟨fun s => ?_, checkedNumber?_filter⟩
  -- both letters are read in a class and outside as they are in an escape
  have hunicode : ∀ {character width}, unicodeEscape s = (character, width) →
      ReadAs character 'u' s width :=
    fun h => readAs_of_escape? (by decide) (by decide) (congrArg some h)
  have hhex : ∀ {character width}, hexEscape s = (character, width) →
      ReadAs character 'x' s width :=
    fun h => readAs_of_escape? (by decide) (by decide) (congrArg some h)
  refine ⟨?_, ?_, ?_, ?_, ?_⟩
  · rintro digits ⟨hlength, hd, rest, rfl⟩
    apply hunicode
    rw [unicodeEscape_append hlength hd, hlength]
  · rintro digits ⟨hne, hd, hle, -, rest, rfl⟩
    have hread := unicodeEscape_braced hne hd hle rest
    apply hunicode
    simpa using hread
  · intro hfour hbraced
    exact hunicode (unicodeEscape_eq_simple hfour hbraced)
  · rintro digits ⟨hlength, hd, rest, rfl⟩
    apply hhex
    rw [hexEscape_append hlength hd, hlength]
  · intro htwo
    exact hhex (hexEscape_eq_simple htwo)

/-- The digits of a capital letter, with more leading zeros than 32 bits have room for. -/
def paddedDigits : List Char :=
  List.replicate 20 '0' ++ ['4', '1']

theorem Character.readAs_codePoint_padded :
    ReadAs ⟨String.ofList ('\\' :: 'u' :: '{' :: paddedDigits ++ ['}']), .unicode, some 0x41⟩ 'u'
      ('{' :: (paddedDigits ++ ['}', 'b'])) 24 ∧
    ReadAs ⟨"\\u00e9", .unicode, some 0xe9⟩ 'u' ['0', '0', 'e', '9', '0'] 4 ∧
    ReadAs (.simple 'u') 'u' ['{', '1', '1', '0', '0', '0', '0', '}'] 0 ∧
    ReadAs ⟨"\\x41", .hex, some 0x41⟩ 'x' ['4', '1', '4'] 2 ∧
    ReadAs (.simple 'x') 'x' ['4'] 0 := by
  obtain ⟨hread, -⟩ := readAs_codePoint
  refine ⟨?_, ?_, ?_, ?_, ?_⟩
  · obtain ⟨-, hbraced, -⟩ := hread ('{' :: (paddedDigits ++ ['}', 'b']))
    exact hbraced paddedDigits (startsWithBraced_iff.2 (by decide +kernel))
  · obtain ⟨hfour, -⟩ := hread ['0', '0', 'e', '9', '0']
    exact hfour ['0', '0', 'e', '9'] (startsWithHex_iff.2 (by decide +kernel))
  · obtain ⟨-, -, hletter, -⟩ := hread ['{', '1', '1', '0', '0', '0', '0', '}']
    have hfour := hexDigits?_eq_none_iff.1
      (by decide +kernel : hexDigits? 4 ['{', '1', '1', '0', '0', '0', '0', '}'] = none)
    exact hletter hfour (bracedHexDigits?_eq_none_iff.1 (by decide +kernel))
  · obtain ⟨-, -, -, htwo, -⟩ := hread ['4', '1', '4']
    exact htwo ['4', '1'] (startsWithHex_iff.2 (by decide +kernel))
  · obtain ⟨-, -, -, -, hletter⟩ := hread ['4']
    exact hletter (hexDigits?_eq_none_iff.1 (by decide +kernel))

end PatternTemplate
