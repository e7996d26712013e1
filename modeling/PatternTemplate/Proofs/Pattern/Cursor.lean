import PatternTemplate.Proofs.Pattern.CodePoint
import PatternTemplate.Proofs.Pattern.Descent

/-!
# What the readers of a descent find

A cursor stands in front of the rest of a pattern (`Cursor.At`). There the readers of a descent find
what the readers of texts find in that rest: the same value, and a cursor that has gone on by the
width of it, or the same error (`Cursor.behind`). Where there is nothing of the kind, the cursor is
where it was. None of the defects of a descent occurs, because a reader takes only characters that
it has seen.
-/

namespace PatternTemplate

open Text

namespace Cursor

def advance (cursor : Cursor) (width : Nat) : Cursor :=
  { cursor with place := cursor.place + width }

@[simp] theorem advance_place (cursor : Cursor) (width : Nat) :
    (cursor.advance width).place = cursor.place + width := rfl

@[simp] theorem advance_zero (cursor : Cursor) : cursor.advance 0 = cursor := rfl

@[simp] theorem advance_advance (cursor : Cursor) (m n : Nat) :
    (cursor.advance m).advance n = cursor.advance (m + n) := by
  simp [advance, Nat.add_assoc]

/-- The cursor stands in the text, in front of the rest `s`. -/
structure At (cursor : Cursor) (text s : List Char) : Prop where
  le_length : cursor.place ≤ text.length
  drop : text.drop cursor.place = s

variable {cursor : Cursor} {text s : List Char}

theorem at_drop (h : cursor.place ≤ text.length) : cursor.At text (text.drop cursor.place) :=
  ⟨h, rfl⟩

theorem At.length_eq (h : cursor.At text s) : text.length = cursor.place + s.length := by
  have hdrop := congrArg List.length h.drop
  rw [List.length_drop] at hdrop
  have hle := h.le_length
  omega

theorem At.advance_drop (h : cursor.At text s) {width : Nat} (hwidth : width ≤ s.length) :
    (cursor.advance width).At text (s.drop width) where
  le_length := by
    rw [advance_place, h.length_eq]
    omega
  drop := by rw [advance_place, ← h.drop, List.drop_drop]

theorem At.tail {c : Char} (h : cursor.At text (c :: s)) : (cursor.advance 1).At text s :=
  h.advance_drop (Nat.le_add_left 1 s.length)

theorem At.append {front : List Char} (h : cursor.At text (front ++ s)) :
    (cursor.advance front.length).At text s := by
  have hdrop : (cursor.advance front.length).At text ((front ++ s).drop front.length) :=
    h.advance_drop (by simp)
  rwa [List.drop_left] at hdrop

theorem At.getElem? (h : cursor.At text s) (ahead : Nat) :
    text[cursor.place + ahead]? = s[ahead]? := by
  rw [← h.drop, List.getElem?_drop]

/-- What a reader of texts has found, as the outcome of a descent. -/
def behind {α : Type} (cursor : Cursor) : Except SyntaxError (α × Nat) → Except Stop (α × Cursor)
  | .ok (a, width) => .ok (a, cursor.advance width)
  | .error error => .error (.refused error)

end Cursor

namespace Descent

variable {α β : Type} {text s : List Char} {c : Char} {cursor next : Cursor}

theorem bind_of_ok {first : Descent α} {a : α} (h : first cursor = .ok (a, next))
    (rest : α → Descent β) : (first >>= rest) cursor = rest a next := by
  change (first cursor >>= fun (a, next) => rest a next) = _
  rw [h]
  rfl

theorem bind_of_error {first : Descent α} {stop : Stop} (h : first cursor = .error stop)
    (rest : α → Descent β) : (first >>= rest) cursor = .error stop := by
  change (first cursor >>= fun (a, next) => rest a next) = _
  rw [h]
  rfl

theorem bind_of_behind {first : Descent α} {found : Except SyntaxError (α × Nat)}
    {rest : α → Descent β} : first cursor = next.behind found →
    (first >>= rest) cursor =
      match found with
      | .ok (a, width) => rest a (next.advance width)
      | .error error => .error (.refused error) := by
  intro h
  cases found with
  | error error => exact bind_of_error h rest
  | ok found => exact bind_of_ok h rest

/-! ### Places and characters -/

theorem get_eq (cursor : Cursor) : (get : Descent Cursor) cursor = .ok (cursor, cursor) := rfl

theorem modify_eq (f : Cursor → Cursor) (cursor : Cursor) :
    (modify f : Descent Unit) cursor = .ok ((), f cursor) := rfl

theorem place_eq (cursor : Cursor) : place cursor = .ok (cursor.place, cursor) := rfl

theorem goTo_of_le {place : Nat} (h : place ≤ text.length) (cursor : Cursor) :
    goTo text place cursor = .ok ((), { cursor with place }) := by
  unfold goTo
  rw [if_pos h]
  rfl

theorem forward_cons {c : Char} (h : cursor.At text (c :: s)) :
    forward text cursor = .ok ((), cursor.advance 1) :=
  goTo_of_le h.tail.le_length cursor

theorem previous_succ {place : Nat} (h : cursor.place = place + 1) :
    previous cursor = .ok (place, cursor) := by
  unfold previous
  rw [bind_of_ok (place_eq cursor), h]
  rfl

theorem peekAt_eq (h : cursor.At text s) (ahead : Nat) :
    peekAt text ahead cursor = .ok (s[ahead]?, cursor) := by
  rw [← h.getElem? ahead]
  rfl

theorem peek_eq (h : cursor.At text s) : peek text cursor = .ok (s.head?, cursor) := by
  rw [List.head?_eq_getElem?]
  exact peekAt_eq h 0

theorem bump_nil (h : cursor.At text []) : bump text cursor = .ok (none, cursor) := by
  unfold bump
  rw [bind_of_ok (peek_eq h)]
  rfl

theorem bump_cons {c : Char} (h : cursor.At text (c :: s)) :
    bump text cursor = .ok (some c, cursor.advance 1) := by
  unfold bump
  rw [bind_of_ok (peek_eq h)]
  exact bind_of_ok (forward_cons h) _

theorem eat_cons {c : Char} (h : cursor.At text (c :: s)) :
    eat text c cursor = .ok (true, cursor.advance 1) := by
  unfold eat
  rw [bind_of_ok (peek_eq h), List.head?_cons, if_pos rfl]
  exact bind_of_ok (forward_cons h) _

theorem head?_ne_some {c : Char} (h : ∀ rest, s ≠ c :: rest) : s.head? ≠ some c := by
  intro hhead
  obtain ⟨rest, hrest⟩ := List.head?_eq_some_iff.1 hhead
  exact h rest hrest

theorem eat_of_ne {c : Char} (h : cursor.At text s) (hne : s.head? ≠ some c) :
    eat text c cursor = .ok (false, cursor) := by
  unfold eat
  rw [bind_of_ok (peek_eq h), if_neg hne]
  rfl

theorem slice_eq (h : cursor.At text s) {i j : Nat} (hij : i ≤ j) (hj : j ≤ s.length) :
    slice text (cursor.place + i) (cursor.place + j) cursor = .ok ((s.take j).drop i, cursor) := by
  have hlength := h.length_eq
  have hbounds : cursor.place + i ≤ cursor.place + j ∧ cursor.place + j ≤ text.length := by omega
  have htake : (text.take (cursor.place + j)).drop (cursor.place + i) = (s.take j).drop i := by
    rw [← h.drop, List.take_drop, List.drop_drop]
  unfold slice
  rw [if_pos hbounds, htake]
  rfl

theorem slice_rest (h : cursor.At text s) :
    slice text cursor.place text.length cursor = .ok (s, cursor) := by
  have hslice := slice_eq h (Nat.zero_le s.length) (Nat.le_refl s.length)
  rwa [List.take_length, List.drop_zero, ← h.length_eq] at hslice

theorem zip_all_beq_iff {cs : List Char} (h : cs.length ≤ s.length) :
    ((cs.zip s).all fun (c, d) => c == d) = true ↔ cs <+: s := by
  induction cs generalizing s with
  | nil => simp
  | cons c cs ih =>
      cases s with
      | nil => simp at h
      | cons d s =>
          have hcs : cs.length ≤ s.length := by simpa using h
          simp [List.cons_prefix_cons, ih hcs]

theorem eatAll_append (cs : List Char) (h : cursor.At text (cs ++ s)) :
    eatAll text cs cursor = .ok (true, cursor.advance cs.length) := by
  have hle : cursor.place + cs.length ≤ text.length := h.append.le_length
  have hall := (zip_all_beq_iff (by simp)).2 (List.prefix_append cs s)
  unfold eatAll
  rw [bind_of_ok (place_eq cursor), if_pos hle,
    bind_of_ok (slice_rest h), if_pos hall]
  exact bind_of_ok (goTo_of_le hle cursor) _

theorem eatAll_of_absent {cs : List Char} (h : cursor.At text s) (hcs : ¬ cs <+: s) :
    eatAll text cs cursor = .ok (false, cursor) := by
  unfold eatAll
  rw [bind_of_ok (place_eq cursor)]
  by_cases hle : cursor.place + cs.length ≤ text.length
  · have hlength : cs.length ≤ s.length := by
      rw [h.length_eq] at hle
      omega
    rw [if_pos hle, bind_of_ok (slice_rest h), if_neg (mt (zip_all_beq_iff hlength).1 hcs)]
    rfl
  · rw [if_neg hle]
    rfl

/-! ### Quantifiers -/

/-- The digits of a number are taken as far as they go; so many turns are enough. -/
theorem digits_some {turns : Nat} (hturns : s.length < turns) (h : cursor.At text s)
    (value : Nat) :
    digits text turns (some value) cursor =
      .ok (some ((leadingDigits s).foldl
          (fun value d => min (min (value * 10) numberLimit + digitValue d) numberLimit) value),
        cursor.advance (leadingDigits s).length) := by
  -- on the turns: each digit takes one
  induction turns generalizing s cursor value with
  | zero => exact absurd hturns (Nat.not_lt_zero _)
  | succ turns ih =>
      unfold digits
      rw [bind_of_ok (peek_eq h)]
      cases s with
      | nil => rfl
      | cons d s =>
          by_cases hd : d.isDigit = true
          · have hdigits : leadingDigits (d :: s) = d :: leadingDigits s :=
              List.takeWhile_cons_of_pos hd
            have hrest := ih (by simpa using hturns) h.tail
              (min (min (value * 10) numberLimit + digitValue d) numberLimit)
            simp only [List.head?_cons, if_pos hd]
            rw [bind_of_ok (forward_cons h), hdigits, List.foldl_cons, List.length_cons,
              Nat.add_comm _ 1, ← Cursor.advance_advance]
            exact hrest
          · have hdigits : leadingDigits (d :: s) = [] := List.takeWhile_cons_of_neg hd
            simp only [List.head?_cons, if_neg hd, hdigits]
            rfl

theorem number_none (h : cursor.At text s) (hdigits : leadingDigits s = []) :
    number text cursor = .ok (none, cursor) := by
  unfold number digits
  rw [bind_of_ok (peek_eq h)]
  cases s with
  | nil => rfl
  | cons d s =>
      have hd : ¬ d.isDigit = true := by
        intro hd
        rw [leadingDigits, List.takeWhile_cons_of_pos hd] at hdigits
        cases hdigits
      simp only [List.head?_cons, if_neg hd]
      rfl

theorem number_some (h : cursor.At text s) (hdigits : leadingDigits s ≠ []) :
    number text cursor =
      .ok (some (decimalNumber (leadingDigits s)), cursor.advance (leadingDigits s).length) := by
  have hturns : s.length < text.length + 1 := by
    rw [h.length_eq]
    omega
  rw [← saturatingNumber_eq, saturatingNumber, ← digits_some hturns h 0]
  unfold number digits
  rw [bind_of_ok (peek_eq h), bind_of_ok (peek_eq h)]
  cases s with
  | nil => exact absurd rfl hdigits
  | cons d s =>
      have hd : d.isDigit = true := by
        apply Decidable.byContradiction
        intro hd
        exact hdigits (List.takeWhile_cons_of_neg hd)
      simp only [List.head?_cons, if_pos hd]
      rfl

theorem upperBound_comma (h : cursor.At text (',' :: s)) (min : Nat) :
    upperBound text min cursor =
      .ok (if (leadingDigits s).isEmpty then none else some (decimalNumber (leadingDigits s)),
        cursor.advance (1 + (leadingDigits s).length)) := by
  unfold upperBound
  rw [bind_of_ok (eat_cons h), if_pos rfl, ← Cursor.advance_advance]
  cases hdigits : leadingDigits s with
  | nil => exact number_none h.tail hdigits
  | cons d ds =>
      rw [number_some h.tail (by rw [hdigits]; exact List.cons_ne_nil d ds), hdigits]
      rfl

theorem upperBound_of_ne (h : cursor.At text s) (hne : s.head? ≠ some ',') (min : Nat) :
    upperBound text min cursor = .ok (some min, cursor) := by
  unfold upperBound
  rw [bind_of_ok (eat_of_ne h hne)]
  rfl

theorem closeBraces_brace (h : cursor.At text ('}' :: s)) (start : Nat) (bounds : Bounds) :
    closeBraces text start bounds cursor =
      match bounds.count? with
      | none => .error (.refused ⟨start, .quantifierOutOfOrder⟩)
      | some count => .ok (some count, cursor.advance 1) := by
  unfold closeBraces Bounds.count?
  rw [bind_of_ok (eat_cons h), if_pos rfl]
  cases bounds.max with
  | none => rfl
  | some max =>
      by_cases hlt : max < bounds.min
      · simp only [if_pos hlt]
        rfl
      · by_cases heq : max = bounds.min
        · subst heq
          simp only [if_neg hlt, if_true]
          rfl
        · simp only [if_neg hlt, if_neg heq]
          rfl

theorem closeBraces_of_ne (h : cursor.At text s) (hne : s.head? ≠ some '}') {start : Nat}
    (hstart : start ≤ text.length) (bounds : Bounds) :
    closeBraces text start bounds cursor = .ok (none, { cursor with place := start }) := by
  unfold closeBraces
  rw [bind_of_ok (eat_of_ne h hne)]
  exact bind_of_ok (goTo_of_le hstart cursor) _

theorem length_leadingDigits_le (s : List Char) : (leadingDigits s).length ≤ s.length :=
  (List.takeWhile_sublist _).length_le

/-- What an opening brace comes to with what is found behind it: nothing where there are no bounds,
and an error where they are out of order. -/
def braced (cursor : Cursor) : Option (Bounds × Nat) →
    Except Stop (Option Quantifier.Count × Cursor)
  | none => .ok (none, cursor)
  | some (bounds, width) =>
    match bounds.count? with
    | none => .error (.refused ⟨cursor.place, .quantifierOutOfOrder⟩)
    | some count => .ok (some count, cursor.advance (1 + width))

/-- A brace is read with its bounds if there are bounds behind it, and left alone if there are
none. That it is a brace has been seen before. -/
theorem bracedCount_eq (h : cursor.At text (c :: s)) :
    bracedCount text cursor = braced cursor (bounds? s) := by
  unfold bracedCount bounds?
  rw [bind_of_ok (place_eq cursor), bind_of_ok (forward_cons h)]
  simp only [List.isEmpty_iff]
  by_cases hlow : leadingDigits s = []
  · rw [bind_of_ok (number_none h.tail hlow), if_pos hlow]
    exact bind_of_ok (goTo_of_le h.le_length _) _
  · rw [bind_of_ok (number_some h.tail hlow), if_neg hlow]
    dsimp only
    have hlower := h.tail.advance_drop (length_leadingDigits_le s)
    generalize decimalNumber (leadingDigits s) = min
    -- what stands behind the lower bound decides, as in the reader of texts
    split
    · next rest hrest =>
      rw [hrest] at hlower
      rw [bind_of_ok (upperBound_of_ne hlower (by simp) _), closeBraces_brace hlower,
        Cursor.advance_advance, Cursor.advance_advance]
      rfl
    · next rest hrest =>
      rw [hrest] at hlower
      have hupper := hlower.tail.advance_drop (length_leadingDigits_le rest)
      rw [Cursor.advance_advance] at hupper
      rw [bind_of_ok (upperBound_comma hlower _)]
      simp only [List.isEmpty_iff]
      generalize (if leadingDigits rest = [] then none
        else some (decimalNumber (leadingDigits rest))) = max
      split
      · next rest' hrest' =>
        have hwidth : 1 + ((leadingDigits s).length + (1 + ((leadingDigits rest).length + 1))) =
            1 + ((leadingDigits s).length + (leadingDigits rest).length + 2) := by omega
        rw [hrest'] at hupper
        rw [closeBraces_brace hupper]
        simp only [Cursor.advance_advance, Nat.add_assoc, hwidth]
        rfl
      · next hbrace => exact closeBraces_of_ne hupper (head?_ne_some hbrace) h.le_length _
    · next hbrace hcomma =>
      rw [bind_of_ok (upperBound_of_ne hlower (head?_ne_some hcomma) _)]
      exact closeBraces_of_ne hlower (head?_ne_some hbrace) h.le_length _

theorem counted_eq (h : cursor.At text s) (count : Quantifier.Count) (width : Nat) :
    ∃ quantifier more, Token.ofCount count width s = (.quantifier quantifier, width + more) ∧
      counted text count cursor = .ok (some quantifier, cursor.advance more) := by
  unfold Token.ofCount counted
  split
  · next rest =>
    refine ⟨⟨count, false⟩, 1, rfl, ?_⟩
    rw [bind_of_ok (eat_cons h)]
    rfl
  · next hmark =>
    refine ⟨⟨count, true⟩, 0, rfl, ?_⟩
    rw [bind_of_ok (eat_of_ne h (head?_ne_some hmark))]
    rfl

/-- What the token here comes to for a reader of quantifiers, which takes no other token. -/
def quantified (cursor : Cursor) : Except SyntaxError (Token × Nat) →
    Except Stop (Option Quantifier × Cursor)
  | .ok (.quantifier quantifier, width) => .ok (some quantifier, cursor.advance (1 + width))
  | .ok _ => .ok (none, cursor)
  | .error error => .error (.refused error)

def quantifierMarks : List Char :=
  ['*', '+', '?', '{']

theorem quantified_sign (h : cursor.At text (c :: s)) (count : Quantifier.Count) :
    (do forward text; counted text count : Descent (Option Quantifier)) cursor =
      quantified cursor (.ok (Token.ofCount count 0 s)) := by
  obtain ⟨quantifier, more, htoken, hcounted⟩ := counted_eq h.tail count 0
  rw [bind_of_ok (forward_cons h), hcounted, htoken]
  simp only [quantified, Cursor.advance_advance, Nat.zero_add]

theorem quantified_brace (h : cursor.At text ('{' :: s)) :
    (do
      match ← bracedCount text with
      | some count => counted text count
      | none => return none : Descent (Option Quantifier)) cursor =
      quantified cursor (Token.readBrace cursor.place s) := by
  have hbraced := bracedCount_eq h
  unfold Token.readBrace
  cases hbounds : bounds? s with
  | none =>
      rw [hbounds] at hbraced
      exact bind_of_ok hbraced _
  | some found =>
      obtain ⟨bounds, width⟩ := found
      rw [hbounds] at hbraced
      simp only [braced] at hbraced ⊢
      cases hcount : bounds.count? with
      | none =>
          rw [hcount] at hbraced
          exact bind_of_error hbraced _
      | some count =>
          rw [hcount] at hbraced
          -- only behind the braces it is seen how much the quantifier takes
          obtain ⟨front, rest, rfl, rfl, -⟩ := spells_of_bounds? hbounds
          have hrest := h.tail.append
          rw [Cursor.advance_advance] at hrest
          obtain ⟨quantifier, more, htoken, hcounted⟩ := counted_eq hrest count front.length
          dsimp only
          rw [List.drop_left, htoken, bind_of_ok hbraced]
          simp only [quantified, ← Nat.add_assoc, hcounted, Cursor.advance_advance]

theorem quantifier_of_mem (hc : c ∈ quantifierMarks) (h : cursor.At text (c :: s)) :
    quantifier text cursor = quantified cursor (Token.read cursor.place c s) := by
  unfold quantifier
  rw [bind_of_ok (peek_eq h), List.head?_cons]
  simp only [quantifierMarks, List.mem_cons, List.not_mem_nil, or_false] at hc
  rcases hc with rfl | rfl | rfl | rfl
  · exact quantified_sign h .star
  · exact quantified_sign h .plus
  · exact quantified_sign h .optional
  · exact quantified_brace h

theorem quantifier_of_not_mem (hc : ∀ c ∈ quantifierMarks, s.head? ≠ some c)
    (h : cursor.At text s) : quantifier text cursor = .ok (none, cursor) := by
  unfold quantifier
  rw [bind_of_ok (peek_eq h)]
  generalize s.head? = first at hc
  split
  · exact absurd rfl (hc '*' (by decide))
  · exact absurd rfl (hc '+' (by decide))
  · exact absurd rfl (hc '?' (by decide))
  · exact absurd rfl (hc '{' (by decide))
  · rfl

end Descent

end PatternTemplate
