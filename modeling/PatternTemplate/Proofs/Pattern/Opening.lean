import PatternTemplate.Proofs.Pattern.Atom

/-!
# Names, references and openings found by a descent

A name stands in front of its closing angle bracket, in a reference as in the opening of a group.
What a descent has met on its way is kept with the cursor: the places of the named references
(`Cursor.noting`), and the number and the names of the groups that capture (`Descent.opened`). That
is what the reader of tokens keeps as well (`Cursor.reading`).
-/

namespace PatternTemplate

open Text

namespace Cursor

def noting (cursor : Cursor) (offset : Nat) : Node → Cursor
  | .backreference (.name name) => { cursor with references := (offset, name) :: cursor.references }
  | _ => cursor

/-- What the reader of tokens knows of what the cursor has met. The places of a descent within its
groups are the levels of a reading. -/
def reading (cursor : Cursor) (level : Level) (groups : List OpenGroup) : Reading :=
  ⟨level, groups, cursor.captures, cursor.names, cursor.references⟩

theorem behind_required_map {α : Type} (cursor : Cursor) (error : SyntaxError)
    (found : Option (α × Nat)) :
    (cursor.advance 1).behind (required error found) =
      cursor.behind (required error (found.map fun (a, width) => (a, 1 + width))) := by
  cases found with
  | none => rfl
  | some found => simp only [required, Option.map_some, Option.elim_some, behind, advance_advance]

end Cursor

namespace Descent

variable {text s : List Char} {c : Char} {cursor : Cursor}

/-! ### Names and references -/

/-- The rest of a name in front of a closing angle bracket, with the part that has been read. -/
def nameFound (name s : List Char) : Option (String × Nat) :=
  match s.drop (s.takeWhile isNameChar).length with
  | '>' :: _ =>
    some (String.ofList (name ++ s.takeWhile isNameChar), (s.takeWhile isNameChar).length + 1)
  | _ => none

theorem nameFound_close (name s : List Char) :
    nameFound name ('>' :: s) = some (String.ofList name, 1) := by
  have hrun : ('>' :: s).takeWhile isNameChar = [] := List.takeWhile_cons_of_neg (by decide)
  unfold nameFound
  rw [hrun]
  simp

theorem nameFound_cons (hc : isNameChar c = true) (name s : List Char) :
    nameFound name (c :: s) =
      (nameFound (name ++ [c]) s).map fun (name, width) => (name, 1 + width) := by
  unfold nameFound
  rw [List.takeWhile_cons_of_pos hc, List.length_cons, List.drop_succ_cons]
  split
  · simp [Nat.add_comm 1]
  · rfl

theorem nameFound_of_not (hc : isNameChar c = false) (hclose : c ≠ '>') (name s : List Char) :
    nameFound name (c :: s) = none := by
  unfold nameFound
  rw [List.takeWhile_cons_of_neg (by simp [hc])]
  split
  · next rest hrest => exact absurd (List.cons.inj hrest).1 hclose
  · rfl

/-- A name that has been begun goes on with every character of a name; so many turns are enough. -/
theorem nameTurns_eq {turns : Nat} (hturns : s.length < turns) (h : cursor.At text s) (start : Nat)
    {name : List Char} (hname : name ≠ []) :
    nameTurns text start turns name cursor =
      cursor.behind (required ⟨start, .invalidGroupName⟩ (nameFound name s)) := by
  -- on the turns: each character of the name takes one
  induction turns generalizing s cursor name with
  | zero => exact absurd hturns (Nat.not_lt_zero _)
  | succ turns ih =>
      unfold nameTurns
      cases s with
      | nil => exact bind_of_ok (bump_nil h) _
      | cons c s =>
          rw [bind_of_ok (bump_cons h)]
          dsimp only
          by_cases hclose : c = '>'
          · subst hclose
            rw [if_pos ⟨rfl, hname⟩, nameFound_close]
            rfl
          · rw [if_neg fun hboth => hclose hboth.1]
            have hmore : nameTurns text start turns (name ++ [c]) (cursor.advance 1) = _ :=
              ih (by simpa using hturns) h.tail (by simp)
            by_cases hstart : isNameStart c = true
            · rw [if_pos hstart, hmore, nameFound_cons (isNameChar_of_isNameStart hstart)]
              exact Cursor.behind_required_map ..
            · rw [if_neg hstart]
              -- a digit goes on with a name, and does not begin one
              by_cases halnum : isAlphanumeric c = true
              · rw [if_pos ⟨halnum, hname⟩, hmore, nameFound_cons (by simp [isNameChar, halnum])]
                exact Cursor.behind_required_map ..
              · rw [if_neg fun hboth => halnum hboth.1,
                  nameFound_of_not (by simp [isNameChar, hstart, halnum]) hclose]
                rfl

theorem groupName?_of_start (hc : isNameStart c = true) (s : List Char) :
    groupName? (c :: s) = (nameFound [c] s).map fun (name, width) => (name, 1 + width) := by
  have hrun : (c :: s).takeWhile isNameChar = c :: s.takeWhile isNameChar :=
    List.takeWhile_cons_of_pos (isNameChar_of_isNameStart hc)
  unfold groupName? nameFound
  rw [hrun]
  simp only [List.length_cons, List.drop_succ_cons, List.singleton_append]
  split
  · next back hfirst hrest =>
    obtain ⟨rfl, rfl⟩ := List.cons.inj hfirst
    simp [hrest, hc, Nat.add_comm 1]
  · next hnot =>
    split
    · next hrest => exact (hnot _ _ _ rfl hrest).elim
    · rfl

theorem groupName?_of_not_start (hc : ¬ isNameStart c = true) (s : List Char) :
    groupName? (c :: s) = none := by
  rw [Option.eq_none_iff_forall_ne_some]
  rintro ⟨name, width⟩ hname
  obtain ⟨⟨first, more, hfirst, hstart, -⟩, rest, heq, -⟩ := groupName?_eq_some_iff.1 hname
  rw [hfirst] at heq
  exact hc ((List.cons.inj heq).1 ▸ hstart)

/-- A name begins with a letter, so no bracket closes it before it has begun. -/
theorem groupName_eq (h : cursor.At text s) :
    groupName text cursor =
      cursor.behind (required ⟨cursor.place, .invalidGroupName⟩ (groupName? s)) := by
  unfold groupName
  rw [bind_of_ok (place_eq cursor)]
  unfold nameTurns
  cases s with
  | nil => exact bind_of_ok (bump_nil h) _
  | cons c s =>
      rw [bind_of_ok (bump_cons h)]
      dsimp only
      rw [if_neg fun hboth => hboth.2 rfl]
      by_cases hstart : isNameStart c = true
      · have hturns : s.length < text.length := by
          rw [h.length_eq, List.length_cons]
          omega
        rw [if_pos hstart, nameTurns_eq hturns h.tail cursor.place (by simp),
          groupName?_of_start hstart]
        exact Cursor.behind_required_map ..
      · rw [if_neg hstart, if_neg fun hboth => hboth.2 rfl, groupName?_of_not_start hstart]
        rfl

/-- An atom that has been found, with the cursor behind it. The place of a named reference is kept
with its name. -/
def noted (cursor : Cursor) (offset : Nat) : Except SyntaxError (Node × Nat) →
    Except Stop (Node × Cursor)
  | .ok (node, width) => .ok (node, (cursor.advance width).noting offset node)
  | .error error => .error (.refused error)

theorem escapedAtom_number (h : cursor.At text (c :: s)) (hc : (c.isDigit && c != '0') = true)
    (start : Nat) :
    escapedAtom text start cursor =
      .ok (.backreference (.number (decimalNumber (leadingDigits (c :: s)))),
        cursor.advance (leadingDigits (c :: s)).length) := by
  have hdigit : c.isDigit = true := (Bool.and_eq_true _ _ ▸ hc).1
  have hdigits : leadingDigits (c :: s) ≠ [] := by
    simp [leadingDigits, hdigit]
  have hb : c ≠ 'b' := by rintro rfl; exact absurd hdigit (by decide)
  have hB : c ≠ 'B' := by rintro rfl; exact absurd hdigit (by decide)
  have hback : goTo text cursor.place (cursor.advance 1) = .ok ((), cursor) :=
    goTo_of_le h.le_length _
  unfold escapedAtom
  rw [bind_of_ok (bump_cons h)]
  dsimp only
  rw [if_neg hb, if_neg hB, if_pos hc, bind_of_ok (previous_succ rfl), bind_of_ok hback,
    bind_of_ok (number_some h hdigits)]
  rfl

theorem readEscape_name (offset : Nat) (s : List Char) :
    Token.readEscape offset ('k' :: '<' :: s) = (do
      let (name, width) ← required ⟨offset + 3, .invalidGroupName⟩ (groupName? s)
      return (.backreference (.name name), width + 2)) := by
  simp only [Token.readEscape]
  cases groupName? s with
  | none => rfl
  | some found => rfl

theorem escapedAtom_name (h : cursor.At text ('k' :: '<' :: s)) {start : Nat}
    (hplace : cursor.place = start + 1) :
    escapedAtom text start cursor =
      noted cursor start (Token.readEscape start ('k' :: '<' :: s)) := by
  have hname := groupName_eq h.tail.tail
  have hoffset : ((cursor.advance 1).advance 1).place = start + 3 := by
    rw [Cursor.advance_advance, Cursor.advance_place, hplace]
  rw [hoffset] at hname
  unfold escapedAtom
  rw [bind_of_ok (bump_cons h)]
  dsimp only
  rw [if_neg (by decide), if_neg (by decide), if_neg (by decide), bind_of_ok (peek_eq h.tail),
    if_pos ⟨rfl, rfl⟩, bind_of_ok (forward_cons h.tail), readEscape_name, bind_of_behind hname]
  cases groupName? s with
  | none => rfl
  | some found =>
      simp only [required, Option.elim_some, Cursor.advance_advance, Nat.add_comm (1 + 1)]
      rfl

theorem escapedAtom_letter (h : cursor.At text (c :: s)) (hb : c ≠ 'b') (hB : c ≠ 'B')
    (hk : ¬ (c = 'k' ∧ s.head? = some '<')) (hdigit : ¬ (c.isDigit && c != '0') = true)
    (start : Nat) :
    escapedAtom text start cursor =
      noted cursor start (do
        let (character, width) ← required ⟨start, .invalidEscape⟩ (escape? c s)
        return (.char character, width + 1)) := by
  have hbackspace : c = 'b' → false = true := fun hc => absurd hc hb
  unfold escapedAtom
  rw [bind_of_ok (bump_cons h)]
  dsimp only
  rw [if_neg hb, if_neg hB, if_neg hdigit, bind_of_ok (peek_eq h.tail), if_neg hk,
    bind_of_behind (escapedCharacter_eq h.tail start hbackspace)]
  cases escape? c s with
  | none => rfl
  | some found =>
      simp only [required, Option.elim_some, Cursor.advance_advance, Nat.add_comm 1]
      rfl

theorem escapedAtom_eq (h : cursor.At text s) {start : Nat} (hplace : cursor.place = start + 1) :
    escapedAtom text start cursor = noted cursor start (Token.readEscape start s) := by
  unfold Token.readEscape
  split
  · exact bind_of_ok (bump_nil h) _
  · exact bind_of_ok (bump_cons h) _
  · exact bind_of_ok (bump_cons h) _
  · exact escapedAtom_name h hplace
  · next letter rest hb hB hk =>
    split
    · next hdigit => exact escapedAtom_number h hdigit start
    · next hdigit =>
      rw [escapedAtom_letter h hb hB _ hdigit]
      · cases escape? letter rest with
        | none => rfl
        | some found => rfl
      · rintro ⟨rfl, hhead⟩
        obtain ⟨back, hback⟩ := List.head?_eq_some_iff.1 hhead
        exact hk back rfl hback

/-! ### Groups -/

/-- What the opening of a group at a place comes to: what the group will be, and the cursor behind
the opening, which has the number and the name of a group that captures. -/
def opened (cursor : Cursor) (start : Nat) (reading : Reading) :
    Except SyntaxError (Opener × Nat) → Except Stop (Enclosure × Cursor)
  | .ok (opener, width) =>
    match reading.declare start opener with
    | .ok (enclosure, counted) =>
      .ok (enclosure,
        { cursor.advance width with captures := counted.captures, names := counted.names })
    | .error error => .error (.refused error)
  | .error error => .error (.refused error)

section

variable {kind : AssertionKind} {others : List (List Char × AssertionKind)}

theorem beginning_append (cs : List Char) (h : cursor.At text (cs ++ s)) :
    beginning text ((cs, kind) :: others) cursor = .ok (some kind, cursor.advance cs.length) := by
  unfold beginning
  rw [bind_of_ok (eatAll_append cs h)]
  rfl

theorem beginning_skip {cs : List Char} (h : cursor.At text s) (hcs : ¬ cs <+: s) :
    beginning text ((cs, kind) :: others) cursor = beginning text others cursor := by
  rw [beginning, bind_of_ok (eatAll_of_absent h hcs)]
  rfl

theorem beginning_of_absent (h : cursor.At text s)
    (hothers : ∀ entry ∈ others, ¬ entry.1 <+: s) :
    beginning text others cursor = .ok (none, cursor) := by
  induction others with
  | nil => rfl
  | cons entry others ih =>
      rw [beginning_skip h (hothers entry List.mem_cons_self)]
      exact ih fun entry hentry => hothers entry (List.mem_cons_of_mem _ hentry)

end

theorem exists_of_lookaround {entry : List Char × AssertionKind}
    (hentry : entry ∈ lookarounds) (h : entry.1 <+: s) :
    ∃ rest, s = '?' :: '=' :: rest ∨ s = '?' :: '!' :: rest ∨ s = '?' :: '<' :: '=' :: rest ∨
      s = '?' :: '<' :: '!' :: rest := by
  obtain ⟨rest, rfl⟩ := h
  simp only [lookarounds, List.mem_cons, List.not_mem_nil, or_false] at hentry
  rcases hentry with rfl | rfl | rfl | rfl
  · exact ⟨rest, .inl rfl⟩
  · exact ⟨rest, .inr (.inl rfl)⟩
  · exact ⟨rest, .inr (.inr (.inl rfl))⟩
  · exact ⟨rest, .inr (.inr (.inr rfl))⟩

theorem enclosure_of_look {kind : AssertionKind} {next : Cursor}
    (h : beginning text lookarounds cursor = .ok (some kind, next)) :
    enclosure text cursor = .ok (.look kind, next) := by
  unfold enclosure
  rw [bind_of_ok h]
  rfl

theorem enclosure_of_not_look (h : cursor.At text s)
    (hlook : ∀ entry ∈ lookarounds, ¬ entry.1 <+: s) :
    enclosure text cursor = (do return .group (← capture text) : Descent Enclosure) cursor := by
  unfold enclosure
  rw [bind_of_ok (beginning_of_absent h hlook)]

theorem capture_plain (h : cursor.At text ('?' :: ':' :: s)) :
    capture text cursor = .ok (none, cursor.advance 2) := by
  unfold capture
  rw [bind_of_ok (eatAll_append ['?', ':'] h)]
  rfl

theorem capture_name (h : cursor.At text ('?' :: '<' :: s)) :
    capture text cursor =
      match groupName? s with
      | some (name, width) =>
        if name ∈ cursor.names then
          .error (.refused ⟨cursor.place + 2, .duplicateGroupName name⟩)
        else
          .ok (some ⟨cursor.captures + 1, some name⟩,
            { cursor.advance (width + 2) with
              captures := cursor.captures + 1, names := name :: cursor.names })
      | none => .error (.refused ⟨cursor.place + 2, .invalidGroupName⟩) := by
  have hopen : eatAll text ['?', '<'] cursor = .ok (true, cursor.advance 2) :=
    eatAll_append ['?', '<'] h
  have hname := groupName_eq h.tail.tail
  rw [Cursor.advance_advance, Cursor.advance_place] at hname
  unfold capture
  rw [bind_of_ok (eatAll_of_absent h (by simp))]
  simp only [Bool.false_eq_true, if_false]
  rw [bind_of_ok hopen]
  simp only [if_true]
  rw [bind_of_ok (place_eq (cursor.advance 2)), bind_of_behind hname]
  cases groupName? s with
  | none => rfl
  | some found =>
      obtain ⟨name, width⟩ := found
      simp only [required, Option.elim_some, Cursor.advance_advance, Nat.add_comm (1 + 1)]
      rw [bind_of_ok (get_eq (cursor.advance (width + 2)))]
      by_cases hmem : name ∈ cursor.names
      · rw [if_pos hmem]
        exact congrFun (if_pos hmem) _
      · rw [if_neg hmem]
        exact congrFun (if_neg hmem) _

theorem capture_eq_opened (h : cursor.At text ('?' :: '<' :: s)) {start : Nat}
    (hplace : cursor.place = start + 1) (level : Level) (groups : List OpenGroup) :
    (do return .group (← capture text) : Descent Enclosure) cursor =
      opened cursor start (cursor.reading level groups) (do
        let (name, width) ← required ⟨start + 3, .invalidGroupName⟩ (groupName? s)
        return (.capture (some name), width + 2)) := by
  have hcapture := capture_name h
  rw [hplace] at hcapture
  cases hread : groupName? s with
  | none =>
      rw [hread] at hcapture
      exact bind_of_error hcapture _
  | some found =>
      obtain ⟨name, width⟩ := found
      rw [hread] at hcapture
      dsimp only at hcapture
      change _ = opened cursor start (cursor.reading level groups)
        (.ok (.capture (some name), width + 2))
      by_cases hmem : name ∈ cursor.names
      · have hdeclare : (cursor.reading level groups).declare start (.capture (some name)) =
            .error ⟨start + 3, .duplicateGroupName name⟩ := if_pos hmem
        rw [if_pos hmem] at hcapture
        rw [bind_of_error hcapture, opened, hdeclare]
      · have hdeclare : (cursor.reading level groups).declare start (.capture (some name)) =
            .ok (.group (some ⟨cursor.captures + 1, some name⟩),
              { cursor.reading level groups with
                captures := cursor.captures + 1, names := name :: cursor.names }) := if_neg hmem
        rw [if_neg hmem] at hcapture
        rw [bind_of_ok hcapture, opened, hdeclare]
        rfl

theorem capture_mark (h : cursor.At text ('?' :: s)) (hplain : s.head? ≠ some ':')
    (hname : s.head? ≠ some '<') :
    capture text cursor = .error (.refused ⟨cursor.place, .invalidGroup⟩) := by
  have hnot : ∀ c : Char, s.head? ≠ some c → ¬ ['?', c] <+: '?' :: s := by
    rintro c hc ⟨back, heq⟩
    obtain rfl := (List.cons.inj heq).2
    exact hc rfl
  unfold capture
  rw [bind_of_ok (eatAll_of_absent h (hnot ':' hplain))]
  simp only [Bool.false_eq_true, if_false]
  rw [bind_of_ok (eatAll_of_absent h (hnot '<' hname))]
  simp only [Bool.false_eq_true, if_false]
  rw [bind_of_ok (peek_eq h)]
  rfl

theorem capture_number (h : cursor.At text s) (hmark : s.head? ≠ some '?') :
    capture text cursor =
      .ok (some ⟨cursor.captures + 1, none⟩, { cursor with captures := cursor.captures + 1 }) := by
  have hnot : ∀ c : Char, ¬ ['?', c] <+: s := by
    rintro c ⟨back, rfl⟩
    exact hmark rfl
  unfold capture
  rw [bind_of_ok (eatAll_of_absent h (hnot ':'))]
  simp only [Bool.false_eq_true, if_false]
  rw [bind_of_ok (eatAll_of_absent h (hnot '<'))]
  simp only [Bool.false_eq_true, if_false]
  rw [bind_of_ok (peek_eq h), if_neg hmark]
  rfl

theorem enclosure_eq (h : cursor.At text s) {start : Nat} (hplace : cursor.place = start + 1)
    (level : Level) (groups : List OpenGroup) :
    enclosure text cursor =
      opened cursor start (cursor.reading level groups) (Token.readOpening start s) := by
  unfold Token.readOpening
  split
  · exact enclosure_of_look (beginning_append ['?', '='] h)
  · apply enclosure_of_look
    rw [lookarounds, beginning_skip h (by simp)]
    exact beginning_append ['?', '!'] h
  · apply enclosure_of_look
    rw [lookarounds, beginning_skip h (by simp), beginning_skip h (by simp)]
    exact beginning_append ['?', '<', '='] h
  · apply enclosure_of_look
    rw [lookarounds, beginning_skip h (by simp), beginning_skip h (by simp),
      beginning_skip h (by simp)]
    exact beginning_append ['?', '<', '!'] h
  · rw [enclosure_of_not_look h (by simp [lookarounds]), bind_of_ok (capture_plain h)]
    rfl
  · next back hequals hbang =>
    rw [enclosure_of_not_look h, capture_eq_opened h hplace level groups]
    · cases groupName? back with
      | none => rfl
      | some found => rfl
    · rintro entry hentry hfront
      obtain ⟨rest, heq | heq | heq | heq⟩ := exists_of_lookaround hentry hfront
      all_goals simp_all
  · next back hequals hbang hlookbehind hnegative hplain hname =>
    have hcapture := capture_mark h (head?_ne_some hplain) (head?_ne_some hname)
    rw [enclosure_of_not_look h, bind_of_error hcapture, hplace]
    · rfl
    · rintro entry hentry hfront
      obtain ⟨rest, heq | heq | heq | heq⟩ := exists_of_lookaround hentry hfront
      all_goals simp_all
  · -- without a question mark the group captures by its number
    next hmark =>
    have hcapture := capture_number h (head?_ne_some hmark)
    rw [enclosure_of_not_look h, bind_of_ok hcapture]
    · rfl
    · rintro entry hentry hfront
      obtain ⟨rest, heq | heq | heq | heq⟩ := exists_of_lookaround hentry hfront
      all_goals exact hmark _ heq

end Descent

end PatternTemplate
