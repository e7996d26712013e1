import PatternTemplate.Proofs.Pattern.Spelling

/-!
# Runs of characters and the numbers they write

A reader of numerals or names takes the longest run of characters of a kind. It finds a run that
was put in front of another text exactly if that text does not go on with a character of the kind
(`Text.Stops`). The decimal numeral of a number up to the limit is read as that number
(`Text.writes_toDigits`).
-/

namespace PatternTemplate

namespace Text

def Stops (p : Char → Bool) (s : List Char) : Prop :=
  ∀ c, s.head? = some c → p c = false

@[simp] theorem stops_nil (p : Char → Bool) : Stops p [] := by
  simp [Stops]

@[simp] theorem stops_cons_iff {p : Char → Bool} {c : Char} {s : List Char} :
    Stops p (c :: s) ↔ p c = false := by
  simp [Stops]

theorem stops_of_head? {p : Char → Bool} {c : Char} {s : List Char} (h : s.head? = some c)
    (hc : p c = false) : Stops p s := by
  intro d hd
  obtain rfl : c = d := Option.some.inj (h.symm.trans hd)
  exact hc

theorem takeWhile_append_of_stops {p : Char → Bool} {run rest : List Char}
    (hrun : ∀ c ∈ run, p c = true) (hrest : Stops p rest) :
    (run ++ rest).takeWhile p = run := by
  rw [List.takeWhile_append_of_pos hrun]
  cases rest with
  | nil => simp
  | cons c rest => simp [stops_cons_iff.1 hrest]

theorem exists_eq_takeWhile_append (p : Char → Bool) (s : List Char) :
    ∃ rest, s = s.takeWhile p ++ rest ∧ Stops p rest := by
  refine ⟨s.dropWhile p, List.takeWhile_append_dropWhile.symm, ?_⟩
  intro c hc
  have hall := List.head?_dropWhile_not p s
  rw [hc] at hall
  simpa using hall

theorem leadingDigits_append {digits rest : List Char} (hd : ∀ d ∈ digits, d.isDigit = true)
    (hrest : Stops Char.isDigit rest) : leadingDigits (digits ++ rest) = digits :=
  takeWhile_append_of_stops hd hrest

theorem leadingHexDigits_append {digits rest : List Char} (hd : ∀ d ∈ digits, isHexDigit d = true)
    (hrest : Stops isHexDigit rest) : leadingHexDigits (digits ++ rest) = digits :=
  takeWhile_append_of_stops hd hrest

theorem writes_leadingDigits {s : List Char} (h : leadingDigits s ≠ []) :
    Writes (leadingDigits s) (decimalNumber (leadingDigits s)) :=
  ⟨h, fun _ => isDigit_of_mem_leadingDigits, rfl⟩

theorem Writes.le {digits : List Char} {n : Nat} (h : Writes digits n) : n ≤ numberLimit :=
  h.value ▸ decimalNumber_le digits

private theorem foldl_digitValue {digits : List Char} (hd : ∀ d ∈ digits, d.isDigit = true)
    (start : Nat) :
    digits.foldl (fun value d => value * 10 + digitValue d) start =
      Nat.ofDigitChars 10 digits start := by
  induction digits generalizing start with
  | nil => simp
  | cons d digits ih =>
      have hdigit : digitValue d = d.toNat - '0'.toNat := if_pos (hd d (by simp))
      rw [List.foldl_cons, ih (fun c hc => hd c (by simp [hc])), Nat.ofDigitChars_cons, hdigit,
        Nat.mul_comm]

/-- Decimal digits denote the number that they stand for in the library. -/
theorem numeralValue_ten {digits : List Char} (hd : ∀ d ∈ digits, d.isDigit = true) :
    numeralValue 10 digits = Nat.ofDigitChars 10 digits 0 :=
  foldl_digitValue hd 0

theorem le_foldl_digitValue {base : Nat} (hbase : 1 ≤ base) (digits : List Char) (start : Nat) :
    start ≤ digits.foldl (fun value d => value * base + digitValue d) start := by
  induction digits generalizing start with
  | nil => exact Nat.le_refl start
  | cons d digits ih =>
      have hstep : start ≤ start * base + digitValue d :=
        Nat.le_add_right_of_le (Nat.le_mul_of_pos_right start hbase)
      exact Nat.le_trans hstep (ih _)

private theorem one_le_digitValue {d : Char} (hd : d.isDigit = true) (h0 : d ≠ '0') :
    1 ≤ digitValue d := by
  have hvalue : digitValue d = d.toNat - '0'.toNat := if_pos hd
  have hne : d.toNat ≠ '0'.toNat := fun h => h0 (Char.toNat_inj.1 h)
  have hle : '0'.toNat ≤ d.toNat := by
    simp only [Char.isDigit, Bool.and_eq_true, decide_eq_true_eq] at hd
    exact hd.1
  omega

theorem Writes.one_le {digits : List Char} {n : Nat} (h : Writes digits n)
    (h0 : digits.head? ≠ some '0') : 1 ≤ n := by
  obtain ⟨d, ds, rfl⟩ := List.exists_cons_of_ne_nil h.ne_nil
  have hfirst : 1 ≤ digitValue d := one_le_digitValue (h.isDigit d (by simp)) (by simpa using h0)
  have hvalue : 1 ≤ numeralValue 10 (d :: ds) := by
    rw [numeralValue, List.foldl_cons, Nat.zero_mul, Nat.zero_add]
    exact Nat.le_trans hfirst (le_foldl_digitValue (by decide) ds _)
  rw [← h.value, decimalNumber]
  exact Nat.le_min.2 ⟨hvalue, by decide⟩

theorem isDigit_of_mem_toDigits {n : Nat} {d : Char} (h : d ∈ Nat.toDigits 10 n) :
    d.isDigit = true :=
  Nat.isDigit_of_mem_toDigits (by decide) (by decide) h

theorem numeralValue_toDigits (n : Nat) : numeralValue 10 (Nat.toDigits 10 n) = n := by
  rw [numeralValue_ten fun _ => isDigit_of_mem_toDigits, Nat.ofDigitChars_ten_toDigits]

theorem toDigits_injective {m n : Nat} (h : Nat.toDigits 10 m = Nat.toDigits 10 n) : m = n := by
  have hvalue := congrArg (numeralValue 10) h
  simpa only [numeralValue_toDigits] using hvalue

/-- The number at the front of a text can be told from what is behind it. -/
theorem toDigits_append_inj {m n : Nat} {s t : List Char} (hs : Stops Char.isDigit s)
    (ht : Stops Char.isDigit t) (h : Nat.toDigits 10 m ++ s = Nat.toDigits 10 n ++ t) :
    m = n ∧ s = t := by
  have hlead := congrArg leadingDigits h
  rw [leadingDigits_append (fun _ => isDigit_of_mem_toDigits) hs,
    leadingDigits_append (fun _ => isDigit_of_mem_toDigits) ht] at hlead
  rw [hlead] at h
  exact ⟨toDigits_injective hlead, List.append_cancel_left h⟩

/-- The decimal numeral of a number writes the number, up to the limit. -/
theorem writes_toDigits {n : Nat} (hn : n ≤ numberLimit) : Writes (Nat.toDigits 10 n) n := by
  refine ⟨Nat.toDigits_ne_nil, fun _ => isDigit_of_mem_toDigits, ?_⟩
  rw [decimalNumber, numeralValue_toDigits]
  exact Nat.min_eq_left hn

/-- No numeral starts with a zero, but that of zero itself. -/
theorem head?_toDigits_ne_zero {n : Nat} (hn : 1 ≤ n) :
    (Nat.toDigits 10 n).head? ≠ some '0' := by
  induction n using Nat.strongRecOn with
  | ind n ih =>
      by_cases hlt : n < 10
      · have hdigit : ∀ d < 10, 1 ≤ d → d.digitChar ≠ '0' := by decide
        rw [Nat.toDigits_of_lt_base hlt]
        simpa using hdigit n hlt hn
      · have hdiv : 1 ≤ n / 10 := by omega
        have hhead := ih (n / 10) (by omega) hdiv
        rw [Nat.toDigits_of_base_le (by decide) (by omega)]
        cases hfront : Nat.toDigits 10 (n / 10) with
        | nil => exact absurd hfront Nat.toDigits_ne_nil
        | cons d ds => rwa [hfront] at hhead

end Text

end PatternTemplate
