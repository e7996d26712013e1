import PatternTemplate.Proofs.Pattern.Printing
import PatternTemplate.Proofs.Pattern.Run
import PatternTemplate.Proofs.Text.Word

/-!
# Numbers in patterns

A pattern has numbers in two places, in the bounds of a quantifier and in references, and both may
have any number of digits. What is read is the number that is written, cut off at the limit, so
bounds that are in order as they are written are never out of order as they are read, but they can
become equal. An opening brace without bounds behind it is a character like any other, and nothing
behind it is taken, wherever it stands.
-/

namespace PatternTemplate

open Text

/-- A run of digits writes the number that the library reads from it, cut off at the limit. -/
theorem Text.writes_iff {digits : List Char} {n : Nat} :
    Writes digits n ↔
      digits ≠ [] ∧ (∀ d ∈ digits, d.isDigit = true) ∧
        n = min (Nat.ofDigitChars 10 digits 0) numberLimit := by
  constructor
  · intro h
    rw [← numeralValue_ten h.isDigit]
    exact ⟨h.ne_nil, h.isDigit, h.value.symm⟩
  · rintro ⟨hne, hd, rfl⟩
    rw [← numeralValue_ten hd]
    exact ⟨hne, hd, rfl⟩

theorem bounds?_eq_none_iff {s : List Char} :
    bounds? s = none ↔ ∀ bounds text rest, s = text ++ rest → ¬ Bounds.Spells bounds text := by
  constructor
  · rintro h bounds text rest rfl hspells
    rw [bounds?_of_spells hspells] at h
    cases h
  · intro h
    cases hbounds : bounds? s with
    | none => rfl
    | some found =>
        obtain ⟨text, rest, hs, -, hspells⟩ := spells_of_bounds? hbounds
        exact absurd hspells (h _ text rest hs)

namespace Reading

theorem run_brace {s : List Char} (h : bounds? s = none) (reading : Reading) (offset : Nat) :
    reading.run offset ('{' :: s) =
      (reading.atom offset (.char (.simple '{'))).run (offset + 1) s := by
  have hread : Token.read offset '{' s = .ok (.atom (.char (.simple '{')), 0) := by
    simp only [Token.read, Token.readBrace, h]
  exact run_cons_of_read hread rfl

theorem run_number {digits rest : List Char} {n : Nat} (h : Writes digits n)
    (h0 : digits.head? ≠ some '0') (hrest : Stops Char.isDigit rest) (reading : Reading)
    (offset : Nat) :
    reading.run offset ('\\' :: (digits ++ rest)) =
      (reading.atom offset (.backreference (.number n))).run (offset + 1 + digits.length) rest := by
  have hread : Token.read offset '\\' (digits ++ rest) =
      .ok (.atom (.backreference (.number n)), digits.length) := by
    simp only [Token.read, Token.readEscape_number h h0 hrest]
    rfl
  rw [run_cons_of_read hread rfl, List.drop_left]

end Reading

namespace Regex

def repeating (c : Char) (count : Quantifier.Count) (flags : Flags) : Regex where
  body := some (.repetition (.char (.simple c)) ⟨count, true⟩)
  flags := flags
  captures := 0

section Bounds

variable {c : Char} (hc : c ∉ specialCharacters false)

include hc

theorem ofPattern_bounds {bounds : Bounds} {text : List Char} (h : bounds.Spells text)
    {count : Quantifier.Count} (hcount : bounds.count? = some count) (flags : Flags) :
    ofPattern (String.ofList (c :: '{' :: text)) flags = .ok (repeating c count flags) := by
  have hbrace : Token.read 1 '{' text = .ok (.quantifier ⟨count, true⟩, text.length) := by
    have hread := Token.readBrace_spells h hcount 1 []
    rwa [List.append_nil] at hread
  have hstep : (Reading.atom {} 0 (.char (.simple c))).step 1 (.quantifier ⟨count, true⟩) =
      .ok { level := ⟨none, [.repetition (.char (.simple c)) ⟨count, true⟩]⟩ } := rfl
  have hrun : Reading.run {} 0 (c :: '{' :: text) =
      .ok { level := ⟨none, [.repetition (.char (.simple c)) ⟨count, true⟩]⟩ } := by
    rw [Reading.run_cons_of_read (Token.read_of_not_special hc 0 _) rfl, List.drop_zero,
      Reading.run_cons_of_read hbrace hstep, List.drop_length, Reading.run_nil]
  rw [← String.toList_ofList (l := c :: '{' :: text)] at hrun
  exact ofPattern_eq_ok_iff.2 ⟨_, hrun, rfl, rfl, rfl⟩

theorem ofPattern_bounds_eq_error {bounds : Bounds} {text : List Char} (h : bounds.Spells text)
    (hcount : bounds.count? = none) (flags : Flags) :
    ofPattern (String.ofList (c :: '{' :: text)) flags =
      .error ⟨1, .quantifierOutOfOrder⟩ := by
  have hbrace : Token.read 1 '{' text = .error ⟨1, .quantifierOutOfOrder⟩ := by
    have hbounds := bounds?_of_spells h []
    rw [List.append_nil] at hbounds
    simp only [Token.read, Token.readBrace, hbounds, hcount]
  unfold ofPattern
  rw [String.toList_ofList, Reading.run_cons_of_read (Token.read_of_not_special hc 0 _) rfl,
    List.drop_zero, Reading.run, hbrace]
  rfl

end Bounds

/-- Numbers in patterns are read as they are written, cut off at the limit: the number of the
library is the one that a word of 32 bits comes to. Bounds behind a character give a fixed count if
they are equal as numbers and a range if they are in order, and they are refused if they are not. A
reference takes all digits behind its backslash. A brace without bounds behind it is a character,
wherever it stands, and takes nothing. -/
theorem numbers_of_any_length :
    (∀ (digits : List Char) (n : Nat),
      Writes digits n ↔ digits ≠ [] ∧ (∀ d ∈ digits, d.isDigit = true) ∧
        n = min (Nat.ofDigitChars 10 digits 0) numberLimit) ∧
    (∀ (digits : List Char) (n : Nat), Writes digits n → saturatingNumber digits = n) ∧
    (∀ (low high : List Char) (m n : Nat), Writes low m → Writes high n →
      ∀ (c : Char) (flags : Flags), c ∉ specialCharacters false →
        ofPattern (String.ofList (c :: '{' :: (low ++ ['}']))) flags =
          .ok (repeating c (.exact m) flags) ∧
        ofPattern (String.ofList (c :: '{' :: (low ++ [',', '}']))) flags =
          .ok (repeating c (.range m none) flags) ∧
        ofPattern (String.ofList (c :: '{' :: (low ++ ',' :: high ++ ['}']))) flags =
          if n < m then .error ⟨1, .quantifierOutOfOrder⟩
          else if m = n then .ok (repeating c (.exact m) flags)
          else .ok (repeating c (.range m (some n)) flags)) ∧
    (∀ (digits rest : List Char) (n : Nat), Writes digits n → digits.head? ≠ some '0' →
      Stops Char.isDigit rest → ∀ (reading : Reading) (offset : Nat),
        reading.run offset ('\\' :: (digits ++ rest)) =
          (reading.atom offset (.backreference (.number n))).run (offset + 1 + digits.length)
            rest) ∧
    (∀ s : List Char, (∀ bounds text rest, s = text ++ rest → ¬ Bounds.Spells bounds text) →
      ∀ (reading : Reading) (offset : Nat),
        reading.run offset ('{' :: s) =
          (reading.atom offset (.char (.simple '{'))).run (offset + 1) s) := by
  refine ⟨fun digits n => writes_iff, ?_, ?_, ?_, ?_⟩
  · intro digits n h
    rw [saturatingNumber_eq, h.value]
  · intro low high m n hlow hhigh c flags hc
    refine ⟨?_, ?_, ?_⟩
    · exact ofPattern_bounds hc (.once hlow) (by simp [Bounds.count?]) flags
    · exact ofPattern_bounds hc (.atLeast hlow) rfl flags
    · -- both bounds are given, and how they compare decides
      have hspells := Bounds.Spells.between hlow hhigh
      by_cases hlt : n < m
      · rw [if_pos hlt]
        exact ofPattern_bounds_eq_error hc hspells (by simp [Bounds.count?, hlt]) flags
      · rw [if_neg hlt]
        by_cases heq : m = n
        · rw [if_pos heq]
          exact ofPattern_bounds hc hspells (by simp [Bounds.count?, heq]) flags
        · rw [if_neg heq]
          exact ofPattern_bounds hc hspells (by simp [Bounds.count?, hlt, Ne.symm heq]) flags
  · intro digits rest n h h0 hrest reading offset
    exact Reading.run_number h h0 hrest reading offset
  · intro s h reading offset
    exact Reading.run_brace (bounds?_eq_none_iff.2 h) reading offset

def overLimit : List Char := ['0', '0', '4', '2', '9', '4', '9', '6', '7', '2', '9', '6']

theorem numbers_of_any_length_overLimit :
    saturatingNumber overLimit = numberLimit ∧
    ofPattern (String.ofList ('x' :: '{' :: (overLimit ++ ',' :: (overLimit ++ ['0']) ++ ['}']))) =
      .ok (repeating 'x' (.exact numberLimit) {}) ∧
    ofPattern (String.ofList ('x' :: '{' :: (overLimit ++ ',' :: ['0', '7'] ++ ['}']))) =
      .error ⟨1, .quantifierOutOfOrder⟩ ∧
    Reading.run {} 0 ('\\' :: (['1', '2'] ++ ['a'])) =
      (Reading.atom {} 0 (.backreference (.number 12))).run 3 ['a'] ∧
    Reading.run {} 0 ('{' :: [',', '3', '}']) =
      (Reading.atom {} 0 (.char (.simple '{'))).run 1 [',', '3', '}'] := by
  obtain ⟨hiff, hsaturating, hbounds, hnumber, hbrace⟩ := numbers_of_any_length
  have hlow : Writes overLimit numberLimit :=
    (hiff _ _).2 ⟨by simp [overLimit], List.all_eq_true.1 rfl, by decide⟩
  have hhigh : Writes (overLimit ++ ['0']) numberLimit :=
    (hiff _ _).2 ⟨by simp, List.all_eq_true.1 rfl, by decide⟩
  have hsmall : Writes ['0', '7'] 7 := (hiff _ _).2 ⟨by simp, List.all_eq_true.1 rfl, by decide⟩
  have htwelve : Writes ['1', '2'] 12 := (hiff _ _).2 ⟨by simp, List.all_eq_true.1 rfl, by decide⟩
  have hnone : ∀ bounds text rest, [',', '3', '}'] = text ++ rest →
      ¬ Bounds.Spells bounds text := bounds?_eq_none_iff.1 (by decide)
  obtain ⟨-, -, hequal⟩ := hbounds _ _ _ _ hlow hhigh 'x' {} (by decide)
  obtain ⟨-, -, hless⟩ := hbounds _ _ _ _ hlow hsmall 'x' {} (by decide)
  refine ⟨hsaturating _ _ hlow, hequal, hless, ?_, hbrace _ hnone {} 0⟩
  exact hnumber ['1', '2'] ['a'] 12 htwelve (by decide) (by simp) {} 0

end Regex

end PatternTemplate
