import PatternTemplate.Proofs.Pattern.Agreement

/-!
# Progress of a descent

A descent goes forward and stays in the pattern. A term and a turn through a class take at least one
character each (`Descent.Advances`), so no loop takes more turns than there are characters. A reader
that looks for something optional leaves the cursor where it was if there is nothing of the kind,
even if it had gone on in the meantime (`Descent.Restores`). No place lies behind the end, no group
is opened beyond the limit, and what has been seen is there when it is taken (`descend_safe`).
-/

namespace PatternTemplate

namespace Descent

variable {α : Type} {text : List Char} {cursor : Cursor}

/-- A part of a descent meets no defect and takes at least one character of the text. -/
structure Advances (text : List Char) (part : Descent α) (cursor : Cursor) : Prop where
  safe : ∀ defect, part cursor ≠ .error (.defect defect)
  lt_place : ∀ a next, part cursor = .ok (a, next) → cursor.place < next.place
  le_length : ∀ a next, part cursor = .ok (a, next) → next.place ≤ text.length

/-- A reader meets no defect, and takes nothing if it finds nothing. -/
structure Restores (reader : Descent (Option α)) (cursor : Cursor) : Prop where
  safe : ∀ defect, reader cursor ≠ .error (.defect defect)
  eq_of_none : ∀ next, reader cursor = .ok (none, next) → next = cursor

/-! ### Readers -/

theorem eatAll_safe (h : cursor.place ≤ text.length) (cs : List Char) (defect : Defect) :
    eatAll text cs cursor ≠ .error (.defect defect) := by
  have hat := Cursor.at_drop h
  by_cases hfront : cs <+: text.drop cursor.place
  · obtain ⟨rest, hrest⟩ := hfront
    rw [← hrest] at hat
    rw [eatAll_append cs hat]
    exact nofun
  · rw [eatAll_of_absent hat hfront]
    exact nofun

theorem restores_of_taking {reader : Descent (Option α)} (found : Option (α × Nat))
    (h : reader cursor = .ok (cursor.taking found)) : Restores reader cursor where
  safe defect := by
    rw [h]
    exact nofun
  eq_of_none next hnone := Cursor.eq_of_taking_eq_none (Except.ok.inj (h.symm.trans hnone))

theorem restores_of_error {reader : Descent (Option α)} {error : SyntaxError}
    (h : reader cursor = .error (.refused error)) : Restores reader cursor := by
  constructor <;> simp [h]

theorem hexDigits_restores (h : cursor.place ≤ text.length) (count : Nat) :
    Restores (hexDigits text count) cursor :=
  restores_of_taking _ (hexDigits_eq (Cursor.at_drop h) count)

theorem unicodeDigits_restores (h : cursor.place ≤ text.length) :
    Restores (unicodeDigits text) cursor :=
  restores_of_taking _ (unicodeDigits_eq (Cursor.at_drop h))

theorem bracedCount_restores (h : cursor.place < text.length) :
    Restores (bracedCount text) cursor := by
  have hat := Cursor.at_drop (Nat.le_of_lt h)
  rw [List.drop_eq_getElem_cons h] at hat
  generalize text.drop (cursor.place + 1) = s at hat
  have hbraced := bracedCount_eq hat
  cases hbounds : bounds? s with
  | none =>
      rw [hbounds] at hbraced
      exact restores_of_taking none hbraced
  | some found =>
      obtain ⟨bounds, width⟩ := found
      rw [hbounds] at hbraced
      simp only [braced] at hbraced
      cases hcount : bounds.count? with
      | none =>
          rw [hcount] at hbraced
          exact restores_of_error hbraced
      | some count =>
          rw [hcount] at hbraced
          exact restores_of_taking (some (count, 1 + width)) hbraced

/-! ### Turns and terms -/

theorem advances_of_error {part : Descent α} {error : SyntaxError}
    (h : part cursor = .error (.refused error)) : Advances text part cursor := by
  constructor <;> simp [h]

theorem advances_of_ok {part : Descent α} {s : List Char} {a : α} {width : Nat}
    (h : part cursor = .ok (a, cursor.advance width)) (hat : cursor.At text s)
    (hwidth : 0 < width ∧ width ≤ s.length) : Advances text part cursor where
  safe defect := by
    rw [h]
    exact nofun
  lt_place b next hok := by
    obtain ⟨rfl, rfl⟩ := Prod.mk.inj (Except.ok.inj (h.symm.trans hok))
    exact Nat.lt_add_of_pos_right hwidth.1
  le_length b next hok := by
    obtain ⟨rfl, rfl⟩ := Prod.mk.inj (Except.ok.inj (h.symm.trans hok))
    exact (hat.advance_drop hwidth.2).le_length

theorem classTurn_advances (h : cursor.place ≤ text.length) (start : Nat) :
    Advances text (classTurn text start) cursor := by
  have hat := Cursor.at_drop h
  generalize text.drop cursor.place = s at hat
  cases s with
  | nil => exact advances_of_error (classTurn_nil hat start)
  | cons c s =>
      by_cases hc : c = ']'
      · subst hc
        exact advances_of_ok (classTurn_close hat start) hat ⟨Nat.one_pos, by simp⟩
      · have hturn := classTurn_cons hat hc start
        cases hitem : classItem start cursor.place c s with
        | error error =>
            rw [hitem] at hturn
            exact advances_of_error hturn
        | ok found =>
            obtain ⟨item, width⟩ := found
            obtain ⟨front, rest, rfl, rfl, -⟩ := classItem_spells hitem
            rw [hitem] at hturn
            exact advances_of_ok hturn hat ⟨by omega, by simp; omega⟩

/-- A term takes a character where a row asks for one. There it is followed with nothing in front of
it, since what it takes does not depend on that. -/
theorem term_advances (h : cursor.nesting ≤ nestingLimit) {c : Char}
    (hc : text[cursor.place]? = some c) (hbar : c ≠ '|') (hclose : c ≠ ')') :
    Advances text (term text (within text (nestingLimit - cursor.nesting))) cursor := by
  obtain ⟨hlt, hget⟩ := List.getElem?_eq_some_iff.1 hc
  have hat := Cursor.at_drop (Nat.le_of_lt hlt)
  rw [List.drop_eq_getElem_cons hlt, hget] at hat
  let groups : List OpenGroup := List.replicate cursor.nesting ⟨0, .group none, {}⟩
  have hlength : groups.length = cursor.nesting := List.length_replicate
  have hstands : Stands text _ {} groups cursor := ⟨hat.le_length, hlength.symm, rfl⟩
  have hinner : groups.length ≠ nestingLimit →
      Fits text (within text (nestingLimit - cursor.nesting)) (groups.length + 1) := by
    intro hroom
    obtain ⟨room, hroom⟩ : ∃ room, nestingLimit - cursor.nesting = room + 1 :=
      Nat.exists_eq_succ_of_ne_zero (by omega)
    rw [hroom]
    exact fits_within text (by omega)
  have hterm := agrees_term hinner hstands nofun hat hbar hclose
  constructor
  · intro defect hdefect
    rw [hdefect] at hterm
    exact hterm
  · intro node next hok
    rw [hok] at hterm
    exact hterm.lt_place
  · intro node next hok
    rw [hok] at hterm
    exact hterm.stands.le_length

end Descent

/-- A descent reads what the reader of tokens reads, and meets no defect: no place behind the end,
no loop that stays where it is, no group beyond the limit, and no character that was seen and is
gone. From each place in the pattern, the texts that are looked at are there, readers that find
nothing leave the cursor alone, and terms and turns through a class go forward. -/
theorem descend_safe :
    (∀ (pattern : String) (flags : Flags),
      descend pattern flags = (Regex.ofPattern pattern flags).mapError .refused) ∧
    (∀ (pattern : String) (flags : Flags) (defect : Defect),
      descend pattern flags ≠ .error (.defect defect)) ∧
    ∀ (text : List Char) (cursor : Cursor), cursor.place ≤ text.length →
      (∀ cs defect, Descent.eatAll text cs cursor ≠ .error (.defect defect)) ∧
      (∀ count, Descent.Restores (Descent.hexDigits text count) cursor) ∧
      Descent.Restores (Descent.unicodeDigits text) cursor ∧
      (cursor.place < text.length → Descent.Restores (Descent.bracedCount text) cursor) ∧
      (∀ start, Descent.Advances text (Descent.classTurn text start) cursor) ∧
      ∀ c, text[cursor.place]? = some c → c ≠ '|' → c ≠ ')' → cursor.nesting ≤ nestingLimit →
        Descent.Advances text
          (Descent.term text (Descent.within text (nestingLimit - cursor.nesting))) cursor := by
  refine ⟨descend_eq, ?_, ?_⟩
  · intro pattern flags defect
    rw [descend_eq]
    cases Regex.ofPattern pattern flags with
    | error error => exact nofun
    | ok regex => exact nofun
  · intro text cursor h
    exact ⟨Descent.eatAll_safe h, Descent.hexDigits_restores h, Descent.unicodeDigits_restores h,
      Descent.bracedCount_restores, Descent.classTurn_advances h,
      fun c hc hbar hclose hnesting => Descent.term_advances hnesting hc hbar hclose⟩

def openBrace : List Char :=
  ['a', '{', '1', ',', '[', 'b', '-', 'd', ']']

theorem descend_safe_openBrace :
    (∀ defect, descend "a\x7b1,[b-d]" ≠ .error (.defect defect)) ∧
    (Descent.Restores (Descent.bracedCount openBrace) { place := 1 } ∧
      Descent.bracedCount openBrace { place := 1 } = .ok (none, { place := 1 })) ∧
    (Descent.Advances openBrace (Descent.classTurn openBrace 4) { place := 5 } ∧
      Descent.classTurn openBrace 4 { place := 5 } =
        .ok (some [.classRange (.simple 'b') (.simple 'd')], { place := 8 })) ∧
    (Descent.Advances openBrace
        (Descent.term openBrace (Descent.within openBrace nestingLimit)) { place := 1 } ∧
      Descent.term openBrace (Descent.within openBrace nestingLimit) { place := 1 } =
        .ok (.char (.simple '{'), { place := 2 })) := by
  obtain ⟨-, hdefect, hplaces⟩ := descend_safe
  obtain ⟨-, -, -, hbraced, -, hterm⟩ := hplaces openBrace { place := 1 } (by decide)
  obtain ⟨-, -, -, -, hturn, -⟩ := hplaces openBrace { place := 5 } (by decide)
  refine ⟨hdefect _ _, ⟨hbraced (by decide), rfl⟩, ⟨hturn 4, rfl⟩, ?_, rfl⟩
  exact hterm '{' rfl (by decide) (by decide) (by decide)

end PatternTemplate
