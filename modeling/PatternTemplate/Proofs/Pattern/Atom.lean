import Mathlib.Algebra.Group.Nat.Defs
import PatternTemplate.Proofs.Pattern.Cursor

/-!
# Characters and classes found by a descent

A descent finds escapes and classes where the readers of texts find them. Its readers look further
ahead than they take: the digits of a code point are taken as a whole or not at all
(`Cursor.taking`), and a dash in a class is looked at together with the character behind it.
-/

namespace PatternTemplate

open Text

namespace Text

theorem digitValue_lt_sixteen {d : Char} (hd : isHexDigit d = true) : digitValue d < 16 := by
  unfold digitValue
  by_cases hdigit : d.isDigit = true
  · have hle : d.toNat ≤ '9'.toNat := by
      simp only [Char.isDigit, Bool.and_eq_true, decide_eq_true_eq] at hdigit
      exact hdigit.2
    rw [if_pos hdigit]
    exact Nat.lt_of_le_of_lt (Nat.sub_le_sub_right hle _) (by decide)
  · -- what is no decimal digit is a letter up to the sixth one, of either case
    have hletter : 'a' ≤ d ∧ d ≤ 'f' ∨ 'A' ≤ d ∧ d ≤ 'F' := by
      simpa [isHexDigit, hdigit] using hd
    rw [if_neg hdigit]
    split
    · next ha =>
      have hle : d.toNat ≤ 'f'.toNat := by
        rcases hletter with ⟨-, hf⟩ | ⟨-, hF⟩
        · exact hf
        · exact Nat.le_trans hF (by decide)
      exact Nat.lt_of_le_of_lt (Nat.add_le_add_right (Nat.sub_le_sub_right hle _) 10) (by decide)
    · next ha =>
      have hle : d.toNat ≤ 'F'.toNat := by
        rcases hletter with ⟨ha', -⟩ | ⟨-, hF⟩
        · exact absurd ha' ha
        · exact hF
      exact Nat.lt_of_le_of_lt (Nat.add_le_add_right (Nat.sub_le_sub_right hle _) 10) (by decide)

theorem numeralValue_lt_pow {digits : List Char} (hd : ∀ d ∈ digits, isHexDigit d = true) :
    numeralValue 16 digits < 16 ^ digits.length := by
  induction digits using List.reverseRecOn with
  | nil => simp
  | append_singleton digits d ih =>
      have hlow := ih fun d hd' => hd d (List.mem_append_left _ hd')
      have hlast := digitValue_lt_sixteen (hd d (by simp))
      rw [numeralValue_append_singleton, List.length_append, List.length_singleton, Nat.pow_succ]
      omega

theorem checkedNumber?_of_hexDigits? {count : Nat} (hcount : count ≤ 4) {s digits : List Char}
    (h : hexDigits? count s = some digits) :
    checkedNumber? 16 digits = some (numeralValue 16 digits) := by
  obtain ⟨hlength, hd, -⟩ := hexDigits?_eq_some_iff.1 h
  have hlt := numeralValue_lt_pow hd
  have hle : 16 ^ digits.length ≤ 16 ^ 4 := Nat.pow_le_pow_right (by decide) (hlength ▸ hcount)
  have hlimit : 16 ^ 4 ≤ numberLimit := by decide
  rw [checkedNumber?_eq (by decide)]
  exact fit?_of_le (by omega)

theorem exists_of_findIdx?_eq_some {c : Char} {s : List Char} {index : Nat}
    (h : s.findIdx? (· == c) = some index) :
    ∃ front rest, s = front ++ c :: rest ∧ index = front.length ∧ c ∉ front := by
  induction s generalizing index with
  | nil => simp at h
  | cons d s ih =>
      rw [List.findIdx?_cons] at h
      split at h
      · next hd =>
        obtain rfl := eq_of_beq hd
        exact ⟨[], s, rfl, (Option.some.inj h).symm, List.not_mem_nil⟩
      · next hd =>
        obtain ⟨before, hbefore, rfl⟩ := Option.map_eq_some_iff.1 h
        obtain ⟨front, rest, rfl, rfl, hfront⟩ := ih hbefore
        refine ⟨d :: front, rest, rfl, rfl, ?_⟩
        rw [List.mem_cons, not_or]
        exact ⟨fun heq => hd (beq_iff_eq.2 heq.symm), hfront⟩

theorem bracedHexDigits?_append {digits : List Char} (hclosed : '}' ∉ digits) (rest : List Char) :
    bracedHexDigits? (digits ++ '}' :: rest) =
      if digits.isEmpty || !digits.all isHexDigit then none
      else if numeralValue 16 digits ≤ maxCodePoint then some digits
      else none := by
  by_cases h : ∃ found, bracedHexDigits? (digits ++ '}' :: rest) = some found
  · obtain ⟨found, hfound⟩ := h
    obtain ⟨hne, hd, hle, back, heq⟩ := bracedHexDigits?_eq_some_iff.1 hfound
    have hfront : ∀ {run : List Char}, '}' ∉ run → ∀ rest : List Char,
        (run ++ '}' :: rest).takeWhile (· != '}') = run := by
      intro run hrun rest
      apply takeWhile_append_of_stops _ (stops_cons_iff.2 rfl)
      intro d hd
      simpa using fun heq : d = '}' => hrun (heq ▸ hd)
    have hfound' : '}' ∉ found := fun hmem => absurd (hd '}' hmem) (by decide)
    -- no digit is a closing brace, so both runs end at the first one
    obtain rfl : digits = found := by
      rw [← hfront hclosed rest, heq, hfront hfound' back]
    have hall : digits.all isHexDigit = true := List.all_eq_true.2 hd
    rw [hfound, if_neg (by simp [hne, hall]), if_pos hle]
  · have hnone : bracedHexDigits? (digits ++ '}' :: rest) = none :=
      Option.eq_none_iff_forall_ne_some.2 fun found hfound => h ⟨found, hfound⟩
    rw [hnone]
    split
    · rfl
    · next hgood =>
      split
      · next hle =>
        rw [Bool.or_eq_true, not_or, List.isEmpty_iff, Bool.not_eq_true', ← Bool.not_eq_true,
          not_not, List.all_eq_true] at hgood
        exact absurd ⟨digits, bracedHexDigits?_eq_some_iff.2 ⟨hgood.1, hgood.2, hle, rest, rfl⟩⟩ h
      · rfl

end Text

section

variable {start offset : Nat} {c : Char} {s : List Char} {low : Character} {width : Nat}

theorem classItem_of_range (h : classCharacter start offset c s = .ok (low, width)) {d : Char}
    {rest : List Char} (hdrop : s.drop width = '-' :: d :: rest) (hd : d ≠ ']') :
    classItem start offset c s = do
      let (high, more) ← classCharacter start (offset + width + 2) d rest
      return (← classSpan offset low high, width + 2 + more) := by
  unfold classItem
  rw [h]
  simp only [bind, Except.bind, hdrop, if_neg hd]

theorem classItem_of_single (h : classCharacter start offset c s = .ok (low, width))
    (hdrop : ¬ ∃ d rest, s.drop width = '-' :: d :: rest ∧ d ≠ ']') :
    classItem start offset c s = .ok ([.char low], width) := by
  unfold classItem
  rw [h]
  simp only [bind, Except.bind]
  split
  · next d rest hdash =>
    rw [if_pos (not_not.1 fun hd => hdrop ⟨d, rest, hdash, hd⟩)]
    rfl
  · rfl

end

def required {α : Type} (error : SyntaxError) (found : Option α) : Except SyntaxError α :=
  found.elim (.error error) .ok

namespace Cursor

/-- What a reader has found, if anything, and where it leaves the cursor: behind what it has found,
or where it was. -/
def taking {α : Type} (cursor : Cursor) : Option (α × Nat) → Option α × Cursor
  | some (a, width) => (some a, cursor.advance width)
  | none => (none, cursor)

theorem eq_of_taking_eq_none {α : Type} {cursor next : Cursor} {found : Option (α × Nat)}
    (h : cursor.taking found = (none, next)) : next = cursor := by
  cases found with
  | none => exact (Prod.mk.inj h).2.symm
  | some found => exact nomatch (Prod.mk.inj h).1

end Cursor

namespace Descent

variable {text s : List Char} {c : Char} {cursor : Cursor}

/-! ### Escapes -/

def hexFound (count : Nat) (s : List Char) : Option ((List Char × Nat) × Nat) := do
  let digits ← hexDigits? count s
  let value ← checkedNumber? 16 digits
  return ((digits, value), count)

theorem hexDigits_eq (h : cursor.At text s) (count : Nat) :
    hexDigits text count cursor = .ok (cursor.taking (hexFound count s)) := by
  have hlength := h.length_eq
  unfold hexDigits hexFound
  rw [bind_of_ok (place_eq cursor)]
  by_cases hle : cursor.place + count ≤ text.length
  · have hcount : count ≤ s.length := by omega
    have hslice := slice_eq h (Nat.zero_le count) hcount
    rw [Nat.add_zero, List.drop_zero] at hslice
    rw [if_pos hle, bind_of_ok hslice]
    unfold hexDigits?
    simp only [List.length_take, Nat.min_eq_left hcount, true_and]
    split
    · next hall =>
      cases hvalue : checkedNumber? 16 (s.take count) with
      | none =>
          simp only [Option.bind_eq_bind, Option.bind_some, hvalue]
          rfl
      | some value =>
          simp only [Option.bind_eq_bind, Option.bind_some, hvalue]
          exact bind_of_ok (goTo_of_le hle cursor) _
    · rfl
  · -- too few characters are left for the digits
    have hnone : hexDigits? count s = none := by
      unfold hexDigits?
      rw [if_neg]
      rintro ⟨hcount, -⟩
      rw [List.length_take] at hcount
      omega
    rw [if_neg hle, hnone]
    rfl

def unicodeFound : List Char → Option ((List Char × Nat) × Nat)
  | '{' :: s =>
    (bracedHexDigits? s).map fun digits =>
      (('{' :: digits ++ ['}'], numeralValue 16 digits), digits.length + 2)
  | s => hexFound 4 s

/-- Behind an opening brace, the digits are those in front of the first closing one. -/
theorem unicodeDigits_eq (h : cursor.At text s) :
    unicodeDigits text cursor = .ok (cursor.taking (unicodeFound s)) := by
  unfold unicodeDigits
  rw [bind_of_ok (peek_eq h)]
  by_cases hbrace : s.head? = some '{'
  · obtain ⟨back, rfl⟩ := List.head?_eq_some_iff.1 hbrace
    rw [if_pos hbrace, bind_of_ok (place_eq cursor),
      bind_of_ok (slice_rest h)]
    simp only [unicodeFound]
    cases hclose : ('{' :: back).findIdx? (· == '}') with
    | none =>
        -- digits in braces would have a closing brace behind them
        have hnone : bracedHexDigits? back = none := by
          rw [Option.eq_none_iff_forall_ne_some]
          intro digits hdigits
          obtain ⟨-, -, -, rest, rfl⟩ := bracedHexDigits?_eq_some_iff.1 hdigits
          have hnot := List.findIdx?_eq_none_iff.1 hclose '}' (by simp)
          exact absurd hnot (by decide)
        rw [hnone]
        rfl
    | some close =>
        rw [List.findIdx?_cons, if_neg (by decide)] at hclose
        obtain ⟨index, hindex, rfl⟩ := Option.map_eq_some_iff.1 hclose
        obtain ⟨digits, rest, rfl, rfl, hclosed⟩ := exists_of_findIdx?_eq_some hindex
        have hslice := slice_eq h (i := 1) (j := digits.length + 1) (by omega) (by simp)
        rw [List.take_succ_cons, List.take_left, List.drop_one, List.tail_cons] at hslice
        have hlength := h.length_eq
        simp only [List.length_cons, List.length_append] at hlength
        have hgoTo : goTo text (cursor.place + (digits.length + 1) + 1) cursor =
            .ok ((), cursor.advance (digits.length + 2)) := goTo_of_le (by omega) cursor
        dsimp only
        -- from here on both look at the same digits, and their value is tested in different ways
        rw [bind_of_ok hslice, bracedHexDigits?_append hclosed, checkedNumber?_filter]
        by_cases hbad : (digits.isEmpty || !digits.all isHexDigit) = true
        · rw [if_pos hbad, if_pos hbad]
          rfl
        · rw [if_neg hbad, if_neg hbad]
          by_cases hle : numeralValue 16 digits ≤ maxCodePoint
          · rw [if_pos hle, if_pos hle]
            exact bind_of_ok hgoTo _
          · rw [if_neg hle, if_neg hle]
            rfl
  · rw [if_neg hbrace, hexDigits_eq h]
    cases s with
    | nil => rfl
    | cons d s =>
        rw [unicodeFound.eq_2]
        rintro s ⟨⟩
        exact hbrace rfl

theorem hexFound_eq_map {count : Nat} (hcount : count ≤ 4) (s : List Char) :
    hexFound count s =
      (hexDigits? count s).map fun digits => ((digits, numeralValue 16 digits), count) := by
  unfold hexFound
  cases hdigits : hexDigits? count s with
  | none => rfl
  | some digits =>
      simp only [Option.bind_eq_bind, Option.bind_some,
        checkedNumber?_of_hexDigits? hcount hdigits]
      rfl

theorem escapedCharacter_control (h : cursor.At text s) (start : Nat) (inClass : Bool) :
    escapedCharacter text start inClass 'c' cursor =
      cursor.behind (required ⟨start, .invalidEscape⟩ (controlEscape? s)) := by
  change (peek text >>= _) cursor = _
  rw [bind_of_ok (peek_eq h)]
  cases s with
  | nil => rfl
  | cons control s =>
      simp only [List.head?_cons, controlEscape?]
      by_cases hcontrol : control.isAlpha = true
      · rw [if_pos hcontrol, if_pos hcontrol]
        exact bind_of_ok (forward_cons h) _
      · rw [if_neg hcontrol, if_neg hcontrol]
        rfl

theorem escapedCharacter_hex (h : cursor.At text s) (start : Nat) (inClass : Bool) :
    escapedCharacter text start inClass 'x' cursor =
      cursor.behind (required ⟨start, .invalidEscape⟩ (some (hexEscape s))) := by
  have hfound := hexDigits_eq h 2
  rw [hexFound_eq_map (by decide)] at hfound
  unfold hexEscape
  cases hdigits : hexDigits? 2 s with
  | none =>
      rw [hdigits] at hfound
      exact bind_of_ok hfound _
  | some digits =>
      rw [hdigits] at hfound
      exact bind_of_ok hfound _

theorem escapedCharacter_unicode (h : cursor.At text s) (start : Nat) (inClass : Bool) :
    escapedCharacter text start inClass 'u' cursor =
      cursor.behind (required ⟨start, .invalidEscape⟩ (some (unicodeEscape s))) := by
  have hfound := unicodeDigits_eq h
  unfold unicodeEscape
  split
  · next rest =>
    rw [unicodeFound] at hfound
    cases hdigits : bracedHexDigits? rest with
    | none =>
        rw [hdigits] at hfound
        exact bind_of_ok hfound _
    | some digits =>
        rw [hdigits] at hfound
        exact bind_of_ok hfound _
  · next hbrace =>
    rw [unicodeFound.eq_2 _ hbrace, hexFound_eq_map (by decide)] at hfound
    cases hdigits : hexDigits? 4 s with
    | none =>
        rw [hdigits] at hfound
        exact bind_of_ok hfound _
    | some digits =>
        rw [hdigits] at hfound
        exact bind_of_ok hfound _

/-- An escape is found with what belongs to it. The letter `b` is one in classes only. -/
theorem escapedCharacter_eq (h : cursor.At text s) (start : Nat) {inClass : Bool} {letter : Char}
    (hbackspace : letter = 'b' → inClass = true) :
    escapedCharacter text start inClass letter cursor =
      cursor.behind (required ⟨start, .invalidEscape⟩ (escape? letter s)) := by
  by_cases hb : letter = 'b'
  · subst hb
    rw [hbackspace rfl]
    rfl
  by_cases hc : letter = 'c'
  · subst hc
    exact escapedCharacter_control h start inClass
  by_cases hx : letter = 'x'
  · subst hx
    exact escapedCharacter_hex h start inClass
  by_cases hu : letter = 'u'
  · subst hu
    exact escapedCharacter_unicode h start inClass
  unfold escape?
  split
  case h_17 =>
    -- a letter without a meaning writes itself
    unfold escapedCharacter
    split <;> first | contradiction | rfl
  -- the other letters that are left take nothing from the text behind them
  all_goals first | rfl | contradiction

/-! ### Classes -/

theorem classAtom_eq (h : cursor.At text s) {offset : Nat} (hplace : cursor.place = offset + 1)
    (start : Nat) (c : Char) :
    classAtom text start c cursor = cursor.behind (classCharacter start offset c s) := by
  unfold classAtom classCharacter
  by_cases hc : c = '\\'
  · rw [if_pos hc, if_pos hc, bind_of_ok (previous_succ hplace)]
    cases s with
    | nil => exact bind_of_ok (bump_nil h) _
    | cons letter s =>
        dsimp only
        rw [bind_of_ok (bump_cons h)]
        dsimp only
        rw [escapedCharacter_eq h.tail offset (fun _ => rfl)]
        cases escape? letter s with
        | none => rfl
        | some found =>
            simp only [required, Option.elim_some, Cursor.behind, Cursor.advance_advance,
              Nat.add_comm 1]
  · rw [if_neg hc, if_neg hc]
    rfl

theorem classSpan_eq (cursor : Cursor) (offset : Nat) (low high : Character) (width : Nat) :
    (match low.codePoint, high.codePoint with
      | some a, some b =>
        if b < a then refuse offset .rangeOutOfOrder else return [.classRange low high]
      | _, _ => return [.char low, .char (.simple '-'), .char high] : Descent (List Node))
        (cursor.advance width) =
      cursor.behind (do return (← classSpan offset low high, width)) := by
  unfold classSpan
  cases low.codePoint with
  | none => rfl
  | some a =>
      cases high.codePoint with
      | none => rfl
      | some b =>
          by_cases hlt : b < a
          · simp only [if_pos hlt]
            rfl
          · simp only [if_neg hlt]
            rfl

/-- A dash makes a range if there is a character behind it that does not close the class. That
character has been seen, so it is there. -/
theorem classEntry_eq (h : cursor.At text s) {offset : Nat} (hplace : cursor.place = offset + 1)
    (start : Nat) (c : Char) :
    classEntry text start c cursor = cursor.behind (classItem start offset c s) := by
  unfold classEntry
  rw [bind_of_ok (previous_succ hplace), bind_of_behind (classAtom_eq h hplace start c)]
  cases hread : classCharacter start offset c s with
  | error error =>
      unfold classItem
      rw [hread]
      rfl
  | ok found =>
      obtain ⟨low, width⟩ := found
      obtain ⟨front, rest, rfl, rfl, -⟩ := classCharacter_spells hread
      have hrest := h.append
      dsimp only
      rw [bind_of_ok (peek_eq hrest), bind_of_ok (peekAt_eq hrest 1)]
      -- a dash makes a range unless it is the last item
      by_cases hdash : ∃ d back, rest = '-' :: d :: back ∧ d ≠ ']'
      · obtain ⟨d, back, rfl, hd⟩ := hdash
        have hback := hrest.tail.tail
        have hplace' : ((cursor.advance front.length).advance 1).advance 1 =
            cursor.advance (front.length + 2) := by
          rw [Cursor.advance_advance, Cursor.advance_advance]
        rw [hplace'] at hback
        have hoffset : (cursor.advance (front.length + 2)).place =
            offset + front.length + 2 + 1 := by
          rw [Cursor.advance_place, hplace]
          omega
        rw [if_pos (by simpa using hd), bind_of_ok (forward_cons hrest),
          bind_of_ok (bump_cons hrest.tail), hplace',
          classItem_of_range hread (List.drop_left ..) hd]
        dsimp only
        rw [bind_of_behind (classAtom_eq hback hoffset start d)]
        cases classCharacter start (offset + front.length + 2) d back with
        | error error => rfl
        | ok found =>
            obtain ⟨high, more⟩ := found
            dsimp only
            rw [Cursor.advance_advance]
            exact classSpan_eq cursor offset low high _
      · rw [if_neg, classItem_of_single hread]
        · rfl
        · rwa [List.drop_left]
        · rintro ⟨hfirst, hsecond⟩
          obtain ⟨behind, rfl⟩ := List.head?_eq_some_iff.1 hfirst
          cases behind with
          | nil => simp at hsecond
          | cons d back => exact hdash ⟨d, back, rfl, by simpa using hsecond⟩

theorem classTurn_nil (h : cursor.At text []) (start : Nat) :
    classTurn text start cursor = .error (.refused ⟨start, .unterminatedClass⟩) := by
  unfold classTurn
  rw [bind_of_ok (bump_nil h)]
  rfl

theorem classTurn_close (h : cursor.At text (']' :: s)) (start : Nat) :
    classTurn text start cursor = .ok (none, cursor.advance 1) := by
  unfold classTurn
  rw [bind_of_ok (bump_cons h)]
  rfl

theorem classTurn_cons (h : cursor.At text (c :: s)) (hc : c ≠ ']') (start : Nat) :
    classTurn text start cursor =
      cursor.behind (do
        let (item, width) ← classItem start cursor.place c s
        return (some item, 1 + width)) := by
  unfold classTurn
  rw [bind_of_ok (bump_cons h)]
  dsimp only
  rw [if_neg hc, bind_of_behind (classEntry_eq h.tail (Cursor.advance_place cursor 1) start c)]
  cases classItem start cursor.place c s with
  | error error => rfl
  | ok found =>
      dsimp only
      rw [Cursor.advance_advance]
      rfl

/-- The items of a class are taken up to its closing bracket; so many turns are enough. -/
theorem classTurns_eq {turns : Nat} (hturns : s.length < turns) (h : cursor.At text s)
    (start : Nat) (items : List Node) :
    classTurns text start turns items cursor =
      cursor.behind (do
        let (more, width) ← classItems start cursor.place s
        return (items ++ more, width)) := by
  -- on the turns: each item takes a character, so the class is closed or the text ends before
  induction turns generalizing s cursor items with
  | zero => exact absurd hturns (Nat.not_lt_zero _)
  | succ turns ih =>
      unfold classTurns classItems
      cases s with
      | nil => exact bind_of_error (classTurn_nil h start) _
      | cons c s =>
          dsimp only
          by_cases hc : c = ']'
          · subst hc
            rw [if_pos rfl, bind_of_ok (classTurn_close h start)]
            simp only [bind, Except.bind, pure, Except.pure, List.append_nil, Cursor.behind]
            rfl
          · rw [if_neg hc, bind_of_behind (classTurn_cons h hc start)]
            cases hitem : classItem start cursor.place c s with
            | error error => rfl
            | ok found =>
                obtain ⟨item, width⟩ := found
                obtain ⟨front, rest, rfl, rfl, -⟩ := classItem_spells hitem
                have hrest := h.tail.append
                rw [Cursor.advance_advance] at hrest
                have hlength : rest.length < turns := by
                  simp only [List.length_cons, List.length_append] at hturns
                  omega
                have hmore := ih hlength hrest (items ++ item)
                rw [Cursor.advance_place, ← Nat.add_assoc] at hmore
                simp only [bind, Except.bind, pure, Except.pure, List.drop_left]
                rw [hmore]
                cases classItems start (cursor.place + 1 + front.length) rest with
                | error error => rfl
                | ok found =>
                    simp only [bind, Except.bind, pure, Except.pure, Cursor.behind,
                      Cursor.advance_advance, List.append_assoc]

theorem classFrom_eq (h : cursor.At text s) {start : Nat} (hplace : cursor.place = start + 1) :
    classFrom text start cursor = cursor.behind (characterClass start s) := by
  have hturns : ∀ {back : List Char} {next : Cursor}, next.At text back →
      back.length < text.length + 1 := by
    intro back next hback
    rw [hback.length_eq]
    omega
  unfold classFrom characterClass
  split
  · next back =>
    have hitems := classTurns_eq (hturns h.tail) h.tail start []
    rw [Cursor.advance_place, hplace] at hitems
    rw [bind_of_ok (eat_cons h), bind_of_behind hitems]
    cases classItems start (start + 2) back with
    | error error => rfl
    | ok found =>
        simp only [bind, Except.bind, pure, Except.pure, List.nil_append, Cursor.advance_advance]
        rfl
  · next hnegative =>
    have hitems := classTurns_eq (hturns h) h start []
    rw [hplace] at hitems
    rw [bind_of_ok (eat_of_ne h (head?_ne_some hnegative)), bind_of_behind hitems]
    cases classItems start (start + 1) s with
    | error error => rfl
    | ok found => rfl

end Descent

end PatternTemplate
