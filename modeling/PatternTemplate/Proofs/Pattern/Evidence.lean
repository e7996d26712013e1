import PatternTemplate.Proofs.Pattern.Brackets

/-!
# What stands at the place of an error

The place that an error gives is one at which the pattern itself shows the fault, whatever has been
read in front of it: a quantifier, numbers out of order, a range that goes down, a group that is
none of those there are, a name that is no name or is taken, or a control without its letter
(`Fault.EvidentAt`). A scan of the text in front tells that what stands there is not in a class or
behind a backslash. Items of a class are another matter, since where an item begins depends on the
items in front of it; they are counted from the bracket of the class (`ClassRow`).

Faults of brackets concern more than one place and are those that a scan sees (`Fault.SeenAt`).
-/

namespace PatternTemplate

open Text

/-! ### Evidence -/

/-- The text stands at the place `offset` of the pattern, and a scan comes there in that zone. -/
def Zone.StandsAt (zone : Zone) (pattern : List Char) (offset : Nat) (text : List Char) : Prop :=
  ∃ front rest, pattern = front ++ text ++ rest ∧ offset = front.length ∧
    (Scan.ofText front).zone = zone

/-- In the class whose bracket is at the place `start`, the text at the place `offset` is a row of
whole items, in front of the text `rest`. -/
inductive ClassRow (start : Nat) : Nat → List Char → List Char → Prop
  | nil (offset : Nat) (rest : List Char) : ClassRow start offset [] rest
  | cons {offset : Nat} {c : Char} {text more rest : List Char} {items : List Node} (hc : c ≠ ']')
      (hitem : classItem start offset c (text ++ (more ++ rest)) = .ok (items, text.length))
      (hmore : ClassRow start (offset + 1 + text.length) more rest) :
      ClassRow start offset (c :: text ++ more) rest

/-- An item of a class begins at the place `offset` of the pattern, with the text `rest`. The
bracket of the class is at the place `start`, and a caret behind it is no item. -/
inductive ItemAt (pattern : List Char) (start offset : Nat) (rest : List Char) : Prop
  | intro {front caret row : List Char} (hpattern : pattern = front ++ '[' :: caret ++ row ++ rest)
      (hstart : start = front.length) (hzone : (Scan.ofText front).zone = .outside)
      (hcaret : caret = ['^'] ∨ caret = [] ∧ (row ++ rest).head? ≠ some '^')
      (hrow : ClassRow start (front ++ '[' :: caret).length row rest)
      (hoffset : offset = (front ++ '[' :: caret ++ row).length)

/-- In the class whose bracket is at the place `start`, the text at the place `offset` begins with
two characters with a dash between them, of which the first one has the larger code point. -/
inductive Falls (start offset : Nat) : List Char → Prop
  | intro {c d : Char} {s t : List Char} {low high : Character} {width a b : Nat} (hc : c ≠ ']')
      (hd : d ≠ ']') (hlow : classCharacter start offset c (s ++ '-' :: d :: t) = .ok (low, s.length))
      (hhigh : classCharacter start (offset + s.length + 2) d t = .ok (high, width))
      (ha : low.codePoint = some a) (hb : high.codePoint = some b) (hlt : b < a) :
      Falls start offset (c :: s ++ '-' :: d :: t)

/-- What the pattern shows at the place `offset` for the fault, if it is not one of brackets. -/
def Fault.EvidentAt (pattern : List Char) (offset : Nat) : Fault → Prop
  | nothingToRepeat =>
    ∃ count text, Quantifier.Count.Spells count text ∧ Zone.outside.StandsAt pattern offset text
  | quantifierOutOfOrder =>
    ∃ low high m n, Writes low m ∧ Writes high n ∧ n < m ∧
      Zone.outside.StandsAt pattern offset ('{' :: low ++ ',' :: high ++ ['}'])
  | rangeOutOfOrder => ∃ start rest, ItemAt pattern start offset rest ∧ Falls start offset rest
  | invalidGroup =>
    ∃ place, offset = place + 1 ∧ Zone.outside.StandsAt pattern place ['(', '?'] ∧
      ∀ c ∈ [':', '=', '!', '<'], (pattern.drop (offset + 1)).head? ≠ some c
  | invalidGroupName =>
    ∃ place, offset = place + 3 ∧
      (Zone.outside.StandsAt pattern place ['(', '?', '<'] ∨
        Zone.outside.StandsAt pattern place ['\\', 'k', '<']) ∧
      ∀ name, IsGroupName name → ¬ name.toList ++ ['>'] <+: pattern.drop offset
  | duplicateGroupName name =>
    ∃ place, offset = place + 3 ∧
      Zone.outside.StandsAt pattern place (Opener.capture (some name)).text ∧
        ∃ earlier < place, Zone.outside.StandsAt pattern earlier (Opener.capture (some name)).text
  | unknownGroupName name =>
    Zone.outside.StandsAt pattern offset ('\\' :: 'k' :: '<' :: name.toList ++ ['>'])
  | invalidEscape =>
    ∃ zone : Zone, zone.isClear = true ∧ zone.StandsAt pattern offset ['\\', 'c'] ∧
      Stops Char.isAlpha (pattern.drop (offset + 2))
  | _ => True

theorem Fault.evidentAt_of_isBracket {fault : Fault} (h : fault.isBracket = true)
    (pattern : List Char) (offset : Nat) : fault.EvidentAt pattern offset := by
  cases fault <;> trivial

/-! ### Errors of escapes, bounds and openers -/

/-- A control is the one escape that can fail, if it has no letter. -/
theorem escape?_eq_none {letter : Char} {s : List Char} (h : escape? letter s = none) :
    letter = 'c' ∧ Stops Char.isAlpha s := by
  unfold escape? at h
  split at h
  case h_14 =>
    refine ⟨rfl, ?_⟩
    unfold controlEscape? at h
    split at h
    · split at h
      · simp at h
      · next halpha => exact stops_cons_iff.2 (Bool.not_eq_true _ ▸ halpha)
    · exact stops_nil _
  all_goals simp at h

theorem groupName?_eq_none_iff {s : List Char} :
    groupName? s = none ↔ ∀ name, IsGroupName name → ¬ name.toList ++ ['>'] <+: s := by
  rw [Option.eq_none_iff_forall_ne_some]
  constructor
  · rintro hnone name hname ⟨rest, rfl⟩
    refine hnone (name, _) (groupName?_eq_some_iff.2 ⟨hname, rest, ?_, rfl⟩)
    rw [List.append_assoc, List.singleton_append]
  · rintro hnone ⟨name, width⟩ hsome
    obtain ⟨hname, rest, rfl, -⟩ := groupName?_eq_some_iff.1 hsome
    exact hnone name hname ⟨rest, by rw [List.append_assoc, List.singleton_append]⟩

theorem Bounds.Spells.outOfOrder {bounds : Bounds} {text : List Char} (h : bounds.Spells text)
    (hcount : bounds.count? = none) :
    ∃ low high m n, Writes low m ∧ Writes high n ∧ n < m ∧ text = low ++ ',' :: high ++ ['}'] := by
  obtain ⟨max, hmax, hlt⟩ := Bounds.count?_eq_none_iff.1 hcount
  cases h with
  | once h =>
      obtain rfl := Option.some.inj hmax
      exact absurd hlt (Nat.lt_irrefl _)
  | atLeast h => cases hmax
  | between hl hh =>
      obtain rfl := Option.some.inj hmax
      exact ⟨_, _, _, _, hl, hh, hlt, rfl⟩

namespace Token

theorem readOpening_eq_error {offset : Nat} {s : List Char} {error : SyntaxError}
    (h : readOpening offset s = .error error) :
    (∃ rest, s = '?' :: rest ∧ error = ⟨offset + 1, .invalidGroup⟩ ∧
        ∀ c ∈ [':', '=', '!', '<'], rest.head? ≠ some c) ∨
      ∃ rest, s = '?' :: '<' :: rest ∧ error = ⟨offset + 3, .invalidGroupName⟩ ∧
        groupName? rest = none := by
  unfold readOpening at h
  split at h
  -- the opening of a named group has no name
  case h_6 rest _ _ =>
    split at h
    · simp at h
    · next hname => exact .inr ⟨rest, rfl, (Except.error.inj h).symm, hname⟩
  -- behind the question mark is none of the marks of a group
  case h_7 rest hequals hbang _ _ hcolon hangle =>
    refine .inl ⟨rest, rfl, (Except.error.inj h).symm, ?_⟩
    cases rest with
    | nil => simp
    | cons d rest =>
        intro c hc hd
        obtain rfl := Option.some.inj hd
        simp only [List.mem_cons, List.not_mem_nil, or_false] at hc
        rcases hc with rfl | rfl | rfl | rfl
        · exact hcolon rest rfl
        · exact hequals rest rfl
        · exact hbang rest rfl
        · exact hangle rest rfl
  all_goals simp at h

theorem readBrace_eq_error {offset : Nat} {s : List Char} {error : SyntaxError}
    (h : readBrace offset s = .error error) :
    error = ⟨offset, .quantifierOutOfOrder⟩ ∧
      ∃ low high m n rest, Writes low m ∧ Writes high n ∧ n < m ∧
        s = low ++ ',' :: high ++ ['}'] ++ rest := by
  unfold readBrace at h
  split at h
  · simp at h
  · next bounds width hbounds =>
    split at h
    · next hcount =>
      obtain ⟨text, rest, rfl, -, hspells⟩ := spells_of_bounds? hbounds
      obtain ⟨low, high, m, n, hl, hh, hlt, rfl⟩ := hspells.outOfOrder hcount
      exact ⟨(Except.error.inj h).symm, low, high, m, n, rest, hl, hh, hlt, rfl⟩
    · simp at h

theorem readEscape_eq_error {offset : Nat} {s : List Char} {error : SyntaxError}
    (h : readEscape offset s = .error error) (hplain : error.fault.isBracket = false) :
    (∃ rest, s = 'k' :: '<' :: rest ∧ error = ⟨offset + 3, .invalidGroupName⟩ ∧
        groupName? rest = none) ∨
      ∃ rest, s = 'c' :: rest ∧ error = ⟨offset, .invalidEscape⟩ ∧ Stops Char.isAlpha rest := by
  unfold readEscape at h
  split at h
  case h_1 =>
    obtain rfl := Except.error.inj h
    exact Bool.noConfusion hplain
  case h_4 rest =>
    split at h
    · simp at h
    · next hname => exact .inl ⟨rest, rfl, (Except.error.inj h).symm, hname⟩
  case h_5 letter rest _ _ _ =>
    split at h
    · simp at h
    · split at h
      · simp at h
      · next hescape =>
        obtain ⟨rfl, hstops⟩ := escape?_eq_none hescape
        exact .inr ⟨rest, rfl, (Except.error.inj h).symm, hstops⟩
  all_goals simp at h

end Token

/-! ### Errors of classes -/

theorem classCharacter_eq_error {start offset : Nat} {c : Char} {s : List Char}
    {error : SyntaxError} (h : classCharacter start offset c s = .error error)
    (hplain : error.fault.isBracket = false) :
    error = ⟨offset, .invalidEscape⟩ ∧ c = '\\' ∧
      ∃ rest, s = 'c' :: rest ∧ Stops Char.isAlpha rest := by
  unfold classCharacter at h
  split at h
  · next hc =>
    split at h
    · obtain rfl := Except.error.inj h
      exact Bool.noConfusion hplain
    · next letter rest =>
      split at h
      · simp at h
      · next hescape =>
        obtain ⟨rfl, hstops⟩ := escape?_eq_none hescape
        exact ⟨(Except.error.inj h).symm, hc, rest, rfl, hstops⟩
  · simp at h

theorem classSpan_eq_error {offset : Nat} {low high : Character} {error : SyntaxError}
    (h : classSpan offset low high = .error error) :
    error = ⟨offset, .rangeOutOfOrder⟩ ∧
      ∃ a b, low.codePoint = some a ∧ high.codePoint = some b ∧ b < a := by
  unfold classSpan at h
  split at h
  · next a b ha hb =>
    split at h
    · next hlt => exact ⟨(Except.error.inj h).symm, a, b, ha, hb, hlt⟩
    · simp at h
  · simp at h

/-- A control without its letter, with text that passes in the class in front of it. -/
def Zone.FailsEscape (zone : Zone) (offset : Nat) (s : List Char) (error : SyntaxError) : Prop :=
  ∃ front rest last, s = front ++ '\\' :: 'c' :: rest ∧
    error = ⟨offset + front.length, .invalidEscape⟩ ∧ Stops Char.isAlpha rest ∧
      zone.Passes offset front last ∧ last.isClear = true

theorem Zone.FailsEscape.append {zone middle : Zone} {offset : Nat} {front back : List Char}
    {error : SyntaxError} (hfront : zone.Passes offset front middle)
    (hback : middle.FailsEscape (offset + front.length) back error) :
    zone.FailsEscape offset (front ++ back) error := by
  obtain ⟨text, rest, last, rfl, rfl, hstops, hpasses, hclear⟩ := hback
  refine ⟨front ++ text, rest, last, (List.append_assoc ..).symm, ?_, hstops,
    hfront.append hpasses, hclear⟩
  rw [List.length_append, Nat.add_assoc]

theorem classItem_eq_error {start offset : Nat} {c : Char} {s : List Char} {error : SyntaxError}
    (hc : c ≠ ']') (h : classItem start offset c s = .error error)
    (hplain : error.fault.isBracket = false) :
    (Zone.inClass start).FailsEscape offset (c :: s) error ∨
      error = ⟨offset, .rangeOutOfOrder⟩ ∧ Falls start offset (c :: s) := by
  have hescape : ∀ {place : Nat} {d : Char} {t : List Char},
      classCharacter start place d t = .error error →
        (Zone.inClass start).FailsEscape place (d :: t) error := by
    intro place d t hread
    obtain ⟨rfl, rfl, rest, rfl, hstops⟩ := classCharacter_eq_error hread hplain
    exact ⟨[], rest, .inClass start, rfl, rfl, hstops, .nil _ _, rfl⟩
  rcases eq_error_or_of_bind_eq_error h with hread | ⟨⟨low, width⟩, hread, hnext⟩
  · exact .inl (hescape hread)
  · obtain ⟨text, rest, rfl, rfl, hlow⟩ := classCharacter_passes hc hread
    simp only [List.drop_left] at hnext
    split at hnext
    · next d back =>
      split at hnext
      · simp [pure, Except.pure] at hnext
      · next hd =>
        rcases eq_error_or_of_bind_eq_error hnext with hread' | ⟨⟨high, more⟩, hread', hlast⟩
        · -- the other side of the dash fails, which stands behind an item that passes
          have hdash : (Zone.inClass start).Passes offset (c :: text ++ ['-']) (.inClass start) :=
            (hlow start offset).append (.cons_of_ne (by simp) (.nil _ _))
          have hfails := hescape hread'
          have hplace : offset + text.length + 2 = offset + (c :: text ++ ['-']).length := by
            simp only [List.length_append, List.length_cons, List.length_nil]
            omega
          rw [hplace] at hfails
          have hall := Zone.FailsEscape.append hdash hfails
          rw [List.append_assoc] at hall
          exact .inl hall
        · have hspan := eq_error_of_bind_eq_error (fun _ => ⟨_, rfl⟩) hlast
          obtain ⟨rfl, a, b, ha, hb, hlt⟩ := classSpan_eq_error hspan
          exact .inr ⟨rfl, .intro hc hd hread hread' ha hb hlt⟩
    · simp [pure, Except.pure] at hnext

theorem ClassRow.passes {start offset : Nat} {row rest : List Char}
    (h : ClassRow start offset row rest) (k place : Nat) :
    (Zone.inClass k).Passes place row (.inClass k) := by
  induction h generalizing place with
  | nil => exact .nil _ _
  | cons hc hitem _ ih =>
      obtain ⟨text, back, hs, hwidth, hpasses⟩ := classItem_passes hc hitem
      obtain ⟨rfl, -⟩ := List.append_inj hs hwidth
      exact (hpasses k place).append (ih _)

theorem classItems_eq_error {start offset : Nat} {s : List Char} {error : SyntaxError}
    (h : classItems start offset s = .error error) (hplain : error.fault.isBracket = false) :
    ∃ row c rest, s = row ++ c :: rest ∧ c ≠ ']' ∧ ClassRow start offset row (c :: rest) ∧
      classItem start (offset + row.length) c rest = .error error := by
  fun_induction classItems start offset s with
  | case1 =>
      obtain rfl := Except.error.inj h
      exact Bool.noConfusion hplain
  | case2 => simp at h
  | case3 offset c rest hc ih =>
      rcases eq_error_or_of_bind_eq_error h with hitem | ⟨⟨items, width⟩, hitem, hnext⟩
      · exact ⟨[], c, rest, rfl, hc, .nil _ _, hitem⟩
      · obtain ⟨text, back, rfl, rfl, -⟩ := classItem_passes hc hitem
        have hothers := ih _ (eq_error_of_bind_eq_error (fun _ => ⟨_, rfl⟩) hnext)
        rw [List.drop_left] at hothers
        obtain ⟨row, d, rest, rfl, hd, hrow, herror⟩ := hothers
        refine ⟨c :: text ++ row, d, rest, by simp, hd, .cons hc hitem hrow, ?_⟩
        rw [List.length_append, List.length_cons]
        convert herror using 2
        omega

theorem characterClass_eq_error {start : Nat} {s : List Char} {error : SyntaxError}
    (h : characterClass start s = .error error) (hplain : error.fault.isBracket = false) :
    ∃ caret row c rest, s = caret ++ row ++ c :: rest ∧ c ≠ ']' ∧
      (caret = ['^'] ∨ caret = [] ∧ (row ++ c :: rest).head? ≠ some '^') ∧
      ClassRow start (start + 1 + caret.length) row (c :: rest) ∧
        classItem start (start + 1 + caret.length + row.length) c rest = .error error := by
  unfold characterClass at h
  split at h
  · have hitems := eq_error_of_bind_eq_error (fun _ => ⟨_, rfl⟩) h
    obtain ⟨row, c, rest, rfl, hc, hrow, hitem⟩ := classItems_eq_error hitems hplain
    exact ⟨['^'], row, c, rest, rfl, hc, .inl rfl, hrow, hitem⟩
  · next hcaret =>
    have hitems := eq_error_of_bind_eq_error (fun _ => ⟨_, rfl⟩) h
    obtain ⟨row, c, rest, rfl, hc, hrow, hitem⟩ := classItems_eq_error hitems hplain
    refine ⟨[], row, c, rest, rfl, hc, .inr ⟨rfl, fun hhead => ?_⟩, hrow, hitem⟩
    obtain ⟨back, hback⟩ := List.head?_eq_some_iff.1 hhead
    exact hcaret back hback

/-! ### Evidence for the error at hand -/

theorem Zone.StandsAt.add_length_le {zone : Zone} {pattern text : List Char} {offset : Nat}
    (h : zone.StandsAt pattern offset text) : offset + text.length ≤ pattern.length := by
  obtain ⟨front, rest, rfl, rfl, -⟩ := h
  simp only [List.length_append]
  omega

theorem Fault.EvidentAt.le_length {fault : Fault} {pattern : List Char} {offset : Nat}
    (h : fault.EvidentAt pattern offset) (hplain : fault.isBracket = false) :
    offset ≤ pattern.length := by
  cases fault with
  | nothingToRepeat =>
      obtain ⟨_, _, -, hstands⟩ := h
      exact Nat.le_of_add_right_le hstands.add_length_le
  | quantifierOutOfOrder =>
      obtain ⟨_, _, _, _, -, -, -, hstands⟩ := h
      exact Nat.le_of_add_right_le hstands.add_length_le
  | rangeOutOfOrder =>
      obtain ⟨start, rest, hitem, -⟩ := h
      obtain ⟨rfl, -, -, -, -, rfl⟩ := hitem
      exact (List.prefix_append _ rest).length_le
  | invalidGroup =>
      obtain ⟨place, rfl, hstands, -⟩ := h
      exact Nat.le_of_succ_le hstands.add_length_le
  | invalidGroupName =>
      obtain ⟨place, rfl, hstands | hstands, -⟩ := h
      · exact hstands.add_length_le
      · exact hstands.add_length_le
  | duplicateGroupName name =>
      obtain ⟨place, rfl, hstands, -⟩ := h
      have hle := hstands.add_length_le
      simp only [Opener.text, List.length_append, List.length_cons] at hle
      omega
  | unknownGroupName name => exact Nat.le_of_add_right_le (Zone.StandsAt.add_length_le h)
  | invalidEscape =>
      obtain ⟨_, -, hstands, -⟩ := h
      exact Nat.le_of_add_right_le hstands.add_length_le
  | _ => exact Bool.noConfusion hplain

section Error

variable {front : List Char} {error : SyntaxError}

theorem Zone.FailsEscape.evidentAt {zone : Zone} {s : List Char}
    (h : zone.FailsEscape front.length s error) (hzone : (Scan.ofText front).zone = zone) :
    error.fault.EvidentAt (front ++ s) error.offset := by
  obtain ⟨text, rest, last, rfl, rfl, hstops, hpasses, hclear⟩ := h
  refine ⟨last, hclear, ⟨front ++ text, rest, by simp, by simp, ?_⟩, ?_⟩
  · rw [Scan.ofText_append, Scan.through_of_passes hpasses hzone]
  · have hback : front ++ (text ++ '\\' :: 'c' :: rest) =
        front ++ text ++ ['\\', 'c'] ++ rest := by simp
    rw [hback, List.drop_left' (by simp [Nat.add_assoc])]
    exact hstops

theorem characterClass_evidentAt {s : List Char} (hzone : (Scan.ofText front).zone = .outside)
    (h : characterClass front.length s = .error error) (hplain : error.fault.isBracket = false) :
    error.fault.EvidentAt (front ++ '[' :: s) error.offset := by
  obtain ⟨caret, row, c, rest, rfl, hc, hcaret, hrow, hitem⟩ := characterClass_eq_error h hplain
  have hplace : front.length + 1 + caret.length = (front ++ '[' :: caret).length := by
    simp only [List.length_append, List.length_cons]
    omega
  rw [hplace] at hrow hitem
  have hinside : (Scan.ofText (front ++ '[' :: caret ++ row)).zone = .inClass front.length := by
    have hopen : Zone.outside.Passes front.length ('[' :: caret) (.inClass front.length) := by
      refine .cons (fun _ => by decide) ?_
      rcases hcaret with rfl | ⟨rfl, -⟩
      · exact .cons_of_ne (by simp [Zone.next]) (.nil _ _)
      · exact .nil _ _
    rw [List.append_assoc, Scan.ofText_append,
      Scan.through_of_passes (hopen.append (hrow.passes _ _)) hzone]
  rw [← List.length_append] at hitem
  rcases classItem_eq_error hc hitem hplain with hescape | ⟨rfl, hfalls⟩
  · have hevident := hescape.evidentAt hinside
    simpa using hevident
  · refine ⟨front.length, c :: rest, ?_, hfalls⟩
    exact .intro (by simp) rfl hzone hcaret hrow rfl

theorem Token.evidentAt_of_read {c : Char} {rest : List Char}
    (hzone : (Scan.ofText front).zone = .outside)
    (h : Token.read front.length c rest = .error error)
    (hplain : error.fault.isBracket = false) :
    error.fault.EvidentAt (front ++ c :: rest) error.offset := by
  have hdrop : ∀ text back : List Char,
      (front ++ (text ++ back)).drop (front.length + text.length) = back := by
    intro text back
    rw [← List.append_assoc, ← List.length_append, List.drop_left]
  unfold read at h
  split at h
  -- a parenthesis that opens no group
  case h_2 =>
    have hopening := eq_error_of_bind_eq_error (fun _ => ⟨_, rfl⟩) h
    rcases readOpening_eq_error hopening with ⟨back, rfl, rfl, hhead⟩ | ⟨back, rfl, rfl, hnone⟩
    · refine ⟨front.length, rfl, ⟨front, back, by simp, rfl, hzone⟩, ?_⟩
      exact (hdrop ['(', '?'] back).symm ▸ hhead
    · refine ⟨front.length, rfl, .inl ⟨front, back, by simp, rfl, hzone⟩, ?_⟩
      exact (hdrop ['(', '?', '<'] back).symm ▸ groupName?_eq_none_iff.1 hnone
  -- bounds that are out of order
  case h_7 =>
    obtain ⟨rfl, low, high, m, n, back, hl, hh, hlt, rfl⟩ := readBrace_eq_error h
    exact ⟨low, high, m, n, hl, hh, hlt, front, back, by simp, rfl, hzone⟩
  case h_8 =>
    have hclass := eq_error_of_bind_eq_error (fun _ => ⟨_, rfl⟩) h
    exact characterClass_evidentAt hzone hclass hplain
  -- a reference without a name, or a control without a letter
  case h_9 =>
    have hescape := eq_error_of_bind_eq_error (fun _ => ⟨_, rfl⟩) h
    rcases readEscape_eq_error hescape hplain with
      ⟨back, rfl, rfl, hnone⟩ | ⟨back, rfl, rfl, hstops⟩
    · refine ⟨front.length, rfl, .inr ⟨front, back, by simp, rfl, hzone⟩, ?_⟩
      exact (hdrop ['\\', 'k', '<'] back).symm ▸ groupName?_eq_none_iff.1 hnone
    · refine ⟨.outside, rfl, ⟨front, back, by simp, rfl, hzone⟩, ?_⟩
      exact (hdrop ['\\', 'c'] back).symm ▸ hstops
  all_goals simp at h

end Error

namespace Reading

theorem step_eq_error {reading : Reading} {offset : Nat} {token : Token} {error : SyntaxError}
    (h : reading.step offset token = .error error) (hplain : error.fault.isBracket = false) :
    (∃ quantifier, token = .quantifier quantifier ∧ error = ⟨offset, .nothingToRepeat⟩) ∨
      ∃ name, token = .opening (.capture (some name)) ∧ name ∈ reading.names ∧
        error = ⟨offset + 3, .duplicateGroupName name⟩ := by
  -- closings and too deep groups are refused for a bracket, which is excluded
  cases token with
  | bar | atom node => simp [step] at h
  | quantifier q =>
      refine .inl ⟨q, rfl, ?_⟩
      simp only [step, quantify] at h
      split at h
      · split at h
        · simp at h
        · exact (Except.error.inj h).symm
      · exact (Except.error.inj h).symm
  | closing =>
      simp only [step, leave] at h
      split at h
      · obtain rfl := Except.error.inj h
        exact Bool.noConfusion hplain
      · simp at h
  | opening opener =>
      rcases eq_error_or_of_bind_eq_error h with hdeclare | ⟨⟨enclosure, counted⟩, -, hlast⟩
      · unfold declare at hdeclare
        split at hdeclare
        case h_4 name =>
          simp only at hdeclare
          split at hdeclare
          · next hname => exact .inr ⟨name, rfl, hname, (Except.error.inj hdeclare).symm⟩
          · simp at hdeclare
        all_goals simp at hdeclare
      · simp only at hlast
        split at hlast
        · obtain rfl := Except.error.inj hlast
          exact Bool.noConfusion hplain
        · simp [pure, Except.pure] at hlast

/-- The names and the named references of a reading stand in the pattern, of which `front` has been
read: each name at the opening of a group, each reference at its place. -/
structure Placed (reading : Reading) (pattern front : List Char) : Prop where
  names : ∀ name ∈ reading.names, ∃ place < front.length,
    Zone.outside.StandsAt pattern place (Opener.capture (some name)).text
  references : ∀ reference ∈ reading.references, Zone.outside.StandsAt pattern reference.1
    ('\\' :: 'k' :: '<' :: reference.2.toList ++ ['>'])
  valid : ∀ reference ∈ reading.references, IsGroupName reference.2

/-- A step puts the name of its group and its reference where its token stands. -/
theorem Placed.step {reading next : Reading} {front text rest : List Char} {token : Token}
    (h : reading.Placed (front ++ (text ++ rest)) front)
    (hzone : (Scan.ofText front).zone = .outside) (hfound : token.Found text rest)
    (hstep : reading.Steps front.length token next) :
    next.Placed (front ++ (text ++ rest)) (front ++ text) := by
  have hstands : Zone.outside.StandsAt (front ++ (text ++ rest)) front.length text :=
    ⟨front, rest, (List.append_assoc ..).symm, rfl, hzone⟩
  have hnames : ∀ name ∈ reading.names, ∃ place < (front ++ text).length,
      Zone.outside.StandsAt (front ++ (text ++ rest)) place (Opener.capture (some name)).text := by
    intro name hname
    obtain ⟨place, hplace, hopening⟩ := h.names name hname
    refine ⟨place, ?_, hopening⟩
    rw [List.length_append]
    omega
  cases hstep with
  | bar | quantifier | closing => exact ⟨hnames, h.references, h.valid⟩
  | atom node =>
      unfold Reading.atom
      split
      · -- the atom is a reference by name, and its text says so
        refine ⟨hnames, List.forall_mem_cons.2 ⟨?_, h.references⟩,
          List.forall_mem_cons.2 ⟨hfound.wellFormed.2, h.valid⟩⟩
        have hspells : Node.Spells (.backreference (.name _)) text := hfound.spells
        cases hspells with
        | backreference htarget =>
            cases htarget with
            | name => exact hstands
      · exact ⟨hnames, h.references, h.valid⟩
  | opening enclosure _ =>
      refine ⟨List.forall_mem_append.2 ⟨?_, hnames⟩, h.references, h.valid⟩
      intro name hname
      have htext : text = enclosure.opener.text := hfound.spells
      -- only a named group has a name to place, and it stands in its opening
      match enclosure, hname with
      | .group (some ⟨_, some _⟩), hname =>
          obtain rfl := List.mem_singleton.1 hname
          refine ⟨front.length, ?_, htext ▸ hstands⟩
          simp [htext, Enclosure.opener, Opener.ofCapture, Opener.text]

theorem evidentAt_of_step {reading : Reading} {front text rest : List Char} {token : Token}
    {error : SyntaxError} (h : reading.Placed (front ++ (text ++ rest)) front)
    (hzone : (Scan.ofText front).zone = .outside) (hfound : token.Found text rest)
    (hstep : reading.step front.length token = .error error)
    (hplain : error.fault.isBracket = false) :
    error.fault.EvidentAt (front ++ (text ++ rest)) error.offset := by
  rcases step_eq_error hstep hplain with ⟨q, rfl, rfl⟩ | ⟨name, rfl, hname, rfl⟩
  · obtain ⟨count, hcount, htext⟩ := hfound.spells
    exact ⟨q.count, count, hcount, front, _, by rw [htext, List.append_assoc, List.append_assoc],
      rfl, hzone⟩
  · have htext : text = (Opener.capture (some name)).text := hfound.spells
    exact ⟨front.length, rfl, ⟨front, rest, by rw [htext, List.append_assoc], rfl, hzone⟩,
      h.names name hname⟩

theorem Fails.evidentAt {reading : Reading} {front rest : List Char} {c : Char}
    {error : SyntaxError} (h : reading.Fails front.length c rest error)
    (hzone : (Scan.ofText front).zone = .outside)
    (hplaced : reading.Placed (front ++ c :: rest) front) :
    error.offset ≤ (front ++ c :: rest).length ∧
      error.fault.EvidentAt (front ++ c :: rest) error.offset := by
  -- a fault of brackets promises nothing but its place
  cases hbracket : error.fault.isBracket with
  | true =>
      have hoffset : error.offset = front.length := by
        cases h with
        | read hread =>
            rcases Token.error_of_read hread hbracket with ⟨rfl, -⟩ | ⟨rfl, -⟩ <;> rfl
        | step hread hstep =>
            rcases error_of_step hstep hbracket with ⟨rfl, -⟩ | ⟨rfl, -⟩ <;> rfl
      refine ⟨?_, Fault.evidentAt_of_isBracket hbracket _ _⟩
      rw [hoffset, List.length_append]
      exact Nat.le_add_right _ _
  | false =>
      have hevident : error.fault.EvidentAt (front ++ c :: rest) error.offset := by
        cases h with
        | read hread => exact Token.evidentAt_of_read hzone hread hbracket
        | step hread hstep =>
            obtain ⟨text, back, rfl, rfl, hfound⟩ := Token.read_found hread
            exact evidentAt_of_step hplaced hzone hfound hstep hbracket
      exact ⟨hevident.le_length hbracket, hevident⟩

/-- Reading a pattern finds its names and references where they stand, and where it stops with an
error the pattern shows the fault. -/
theorem run_evident (pattern : List Char) :
    (∀ final, Reading.run {} 0 pattern = .ok final → final.Placed pattern pattern) ∧
      ∀ error, Reading.run {} 0 pattern = .error error →
        error.offset ≤ pattern.length ∧ error.fault.EvidentAt pattern error.offset := by
  have hstart : (Scan.ofText []).Follows {} ∧ ({} : Reading).Placed ([] ++ pattern) [] :=
    ⟨⟨rfl, rfl, Nat.zero_le _, Nat.zero_le _, rfl⟩, nofun, nofun, nofun⟩
  obtain ⟨hok, herror⟩ := run_invariant
    (P := fun reading front rest => (Scan.ofText front).Follows reading ∧
      reading.Placed (front ++ rest) front)
    (fun ⟨hfollows, hplaced⟩ hread hsteps => by
      rw [Scan.ofText_append, List.append_assoc]
      exact ⟨hfollows.step (Token.crosses_of_read hread) hsteps,
        hplaced.step hfollows.zone (Token.found_of_read hread) hsteps⟩)
    hstart
  refine ⟨fun final hrun => ?_, fun error hrun => ?_⟩
  · simpa using (hok final hrun).2
  · obtain ⟨reached, front, c, rest, hpattern, ⟨hfollows, hplaced⟩, hfails⟩ := herror error hrun
    obtain rfl : pattern = front ++ c :: rest := hpattern
    exact hfails.evidentAt hfollows.zone hplaced

end Reading

theorem Scan.lt_of_mem_stack {scan : Scan} {offset place : Nat} {s : List Char}
    (h : place ∈ (scan.through offset s).stack) :
    place ∈ scan.stack ∨ place < offset + s.length := by
  induction s generalizing scan offset with
  | nil => exact .inl h
  | cons c s ih =>
      rcases ih h with hmem | hlt
      · unfold Scan.step at hmem
        split at hmem
        · rcases List.mem_cons.1 hmem with rfl | hmem
          · exact .inr (Nat.lt_add_of_pos_right (Nat.succ_pos _))
          · exact .inl hmem
        · split at hmem
          · exact .inl (List.mem_of_mem_tail hmem)
          · exact .inl hmem
      · rw [List.length_cons]
        omega

/-- An error of a pattern gives a place in the pattern or at its end, and the pattern shows the
fault there. -/
theorem Regex.evident_of_ofPattern {pattern : String} {flags : Flags} {error : SyntaxError}
    (h : Regex.ofPattern pattern flags = .error error) :
    error.offset ≤ pattern.length ∧ error.fault.EvidentAt pattern.toList error.offset := by
  rw [← String.length_toList]
  obtain ⟨hplaced, herror⟩ := Reading.run_evident pattern.toList
  rcases eq_error_or_of_bind_eq_error h with hrun | ⟨final, hrun, hnext⟩
  · exact herror error hrun
  · have hfinish := eq_error_of_bind_eq_error (fun _ => ⟨_, rfl⟩) hnext
    unfold Reading.finish at hfinish
    split at hfinish
    · next group groups hgroups =>
      obtain rfl := Except.error.inj hfinish
      refine ⟨?_, trivial⟩
      -- the place of an open group was kept when its parenthesis was read
      have hfollows := (Reading.run_follows pattern.toList).1 final hrun
      have hmem : group.offset ∈ (Scan.ofText pattern.toList).stack := by
        simp [hfollows.stack, hgroups]
      rcases Scan.lt_of_mem_stack hmem with hstart | hlt
      · cases hstart
      · rw [Nat.zero_add] at hlt
        exact Nat.le_of_lt hlt
    · split at hfinish
      · next offset name hname =>
        obtain rfl := Except.error.inj hfinish
        have hmem := List.mem_of_find?_eq_some hname
        have hstands := (hplaced final hrun).references _ (List.mem_reverse.1 hmem)
        have hevident : Fault.EvidentAt pattern.toList offset (.unknownGroupName name) := hstands
        exact ⟨hevident.le_length rfl, hevident⟩
      · simp at hfinish

/-- In the class a dash, which is an item, stands in front of a range that goes down. -/
def Regex.descending : String :=
  "(?<a>.)[^-\\x7a-b]"

theorem Regex.evident_of_ofPattern_descending :
    Regex.ofPattern descending = .error ⟨10, .rangeOutOfOrder⟩ ∧ 10 ≤ descending.length ∧
      ∃ start rest, ItemAt descending.toList start 10 rest ∧ Falls start 10 rest := by
  have hread : Regex.ofPattern descending = .error ⟨10, .rangeOutOfOrder⟩ := by decide +kernel
  exact ⟨hread, Regex.evident_of_ofPattern hread⟩

end PatternTemplate
