import PatternTemplate.Proofs.Pattern.Zone

/-!
# Errors of brackets found by a scan

Whether the brackets of a pattern match, and where they do not, can be told in one pass that knows
zones and keeps the places of the parentheses that are open (`Scan`). A reading and a scan of the
text in front of it agree: the parentheses of the scan are the groups of the reading
(`Scan.Follows`). So each error that concerns a bracket is at a place where the scan finds the same
fault (`Fault.SeenAt`), however much has been read in front of it and however deep the groups are
that stand there, and a pattern that is accepted has brackets that match
(`Regex.brackets_of_ofPattern`).
-/

namespace PatternTemplate

open Text

/-- What a pass through the brackets of a pattern has found. -/
structure Scan where
  zone : Zone := .outside
  /-- The places of the parentheses that are open, the last one first. -/
  stack : List Nat := []
  /-- The most parentheses that were open at once. -/
  height : Nat := 0
  /-- Whether a parenthesis was closed while none was open. -/
  stray : Bool := false
  deriving DecidableEq, Repr

namespace Scan

/-- The scan behind a character at the place `offset`. -/
def step (scan : Scan) (offset : Nat) (c : Char) : Scan :=
  let moved := { scan with zone := scan.zone.next offset c }
  if scan.zone = .outside ∧ c = '(' then
    { moved with
      stack := offset :: scan.stack
      height := max scan.height (scan.stack.length + 1) }
  else if scan.zone = .outside ∧ c = ')' then
    { moved with
      stack := scan.stack.tail
      stray := scan.stray || scan.stack.isEmpty }
  else moved

def through (scan : Scan) (offset : Nat) : List Char → Scan
  | [] => scan
  | c :: rest => (scan.step offset c).through (offset + 1) rest

def ofText (s : List Char) : Scan :=
  ({} : Scan).through 0 s

theorem through_append (scan : Scan) (offset : Nat) (front back : List Char) :
    scan.through offset (front ++ back) =
      (scan.through offset front).through (offset + front.length) back := by
  induction front generalizing scan offset with
  | nil => rfl
  | cons c front ih =>
      rw [List.cons_append, through, through, ih, List.length_cons, Nat.add_assoc, Nat.add_comm 1]

theorem ofText_append (front back : List Char) :
    ofText (front ++ back) = (ofText front).through front.length back := by
  rw [ofText, through_append, Nat.zero_add, ofText]

theorem through_of_passes {zone last : Zone} {offset : Nat} {s : List Char}
    (h : zone.Passes offset s last) {scan : Scan} (hzone : scan.zone = zone) :
    scan.through offset s = { scan with zone := last } := by
  induction h generalizing scan with
  | nil =>
      subst hzone
      rfl
  | cons hc _ ih =>
      subst hzone
      have hopen := fun h : scan.zone = .outside ∧ _ => (hc h.1).1 h.2
      have hclose := fun h : scan.zone = .outside ∧ _ => (hc h.1).2 h.2
      rw [through, step, if_neg hopen, if_neg hclose, ih rfl]

/-- The brackets that have been scanned match, and no more groups than allowed were open at once. -/
structure Balanced (scan : Scan) : Prop where
  zone : scan.zone = .outside
  stack : scan.stack = []
  height : scan.height ≤ nestingLimit
  stray : scan.stray = false

/-- A scan has found what a reading of the same text holds. -/
structure Follows (scan : Scan) (reading : Reading) : Prop where
  zone : scan.zone = .outside
  stack : scan.stack = reading.groups.map OpenGroup.offset
  room : reading.groups.length ≤ nestingLimit
  height : scan.height ≤ nestingLimit
  stray : scan.stray = false

theorem Follows.step {scan : Scan} {reading next : Reading} {offset : Nat} {token : Token}
    {text : List Char} (h : scan.Follows reading) (hcrosses : token.Crosses offset text)
    (hstep : reading.Steps offset token next) : (scan.through offset text).Follows next := by
  obtain ⟨hzone, hstack, hroom, hheight, hstray⟩ := h
  -- bars, atoms and quantifiers have no parenthesis that is one for a scan
  have hpasses : ∀ {kept : Reading}, Zone.outside.Passes offset text .outside →
      kept.groups = reading.groups → (scan.through offset text).Follows kept := by
    intro kept hpasses hgroups
    rw [through_of_passes hpasses hzone]
    exact ⟨rfl, hgroups ▸ hstack, hgroups ▸ hroom, hheight, hstray⟩
  cases hstep with
  | bar => exact hpasses hcrosses rfl
  | atom node => exact hpasses hcrosses (reading.atom_groups offset node)
  | quantifier q _ _ => exact hpasses hcrosses rfl
  | opening enclosure hopen =>
      obtain ⟨more, rfl, hmore⟩ := hcrosses
      have hnext : reading.groups.length + 1 ≤ nestingLimit := by
        have hne := hopen.room
        omega
      have hlength : scan.stack.length = reading.groups.length := by rw [hstack, List.length_map]
      rw [through, through_of_passes hmore (by simp [Scan.step, hzone, Zone.next])]
      refine ⟨rfl, ?_, hnext, ?_, ?_⟩
      · simp [Scan.step, hzone, hstack, Reading.opened]
      · simpa [Scan.step, hzone, hlength] using Nat.max_le.2 ⟨hheight, hnext⟩
      · simpa [Scan.step, hzone] using hstray
  | @closing group groups hgroups =>
      -- the scan closes what the reading closes, since both hold as many
      obtain rfl : text = [')'] := hcrosses
      rw [hgroups] at hstack hroom
      refine ⟨?_, ?_, Nat.le_of_succ_le hroom, ?_, ?_⟩
      · simp [through, Scan.step, hzone, Zone.next]
      · simp [through, Scan.step, hzone, hstack]
      · simpa [through, Scan.step, hzone] using hheight
      · simpa [through, Scan.step, hzone, hstack] using hstray

end Scan

/-! ### Faults of brackets -/

namespace Fault

/-- Tests for a fault of which a bracket or a backslash is the cause. -/
def isBracket : Fault → Bool
  | unterminatedGroup | unmatchedParen | unterminatedClass | trailingBackslash | nestingTooDeep =>
    true
  | _ => false

/-- The fault, if it is one of brackets, is at the place `offset` of the pattern for a scan as
well. -/
def SeenAt (pattern : List Char) (offset : Nat) : Fault → Prop
  | unmatchedParen =>
    pattern[offset]? = some ')' ∧ (Scan.ofText (pattern.take offset)).zone = .outside ∧
      (Scan.ofText (pattern.take offset)).stack = []
  | unterminatedGroup =>
    (Scan.ofText pattern).zone = .outside ∧ (Scan.ofText pattern).stack.head? = some offset
  | unterminatedClass => (Scan.ofText pattern).zone.classStart? = some offset
  | trailingBackslash =>
    offset + 1 = pattern.length ∧ pattern[offset]? = some '\\' ∧
      (Scan.ofText pattern).zone = .escaped offset
  | nestingTooDeep =>
    pattern[offset]? = some '(' ∧ (Scan.ofText (pattern.take offset)).zone = .outside ∧
      (Scan.ofText (pattern.take offset)).stack.length = nestingLimit
  | _ => True

theorem seenAt_of_not_isBracket {fault : Fault} (h : fault.isBracket = false)
    (pattern : List Char) (offset : Nat) : fault.SeenAt pattern offset := by
  cases fault <;> trivial

end Fault

/-! ### Classes without an end -/

/-- A scanner comes to the end of the text in the class whose bracket is at the place `start`. -/
def Zone.StaysInClass (zone : Zone) (offset : Nat) (s : List Char) (start : Nat) : Prop :=
  ∃ last, zone.Passes offset s last ∧ last.classStart? = some start

theorem Zone.StaysInClass.append {zone middle : Zone} {offset start : Nat} {front back : List Char}
    (hfront : zone.Passes offset front middle)
    (hback : middle.StaysInClass (offset + front.length) back start) :
    zone.StaysInClass offset (front ++ back) start := by
  obtain ⟨last, hpasses, hlast⟩ := hback
  exact ⟨last, hfront.append hpasses, hlast⟩

theorem classCharacter_unterminated {start offset : Nat} {c : Char} {s : List Char}
    {error : SyntaxError} (h : classCharacter start offset c s = .error error)
    (hbracket : error.fault.isBracket = true) :
    error = ⟨start, .unterminatedClass⟩ ∧ c = '\\' ∧ s = [] := by
  unfold classCharacter at h
  split at h
  · next hc =>
    split at h
    · exact ⟨(Except.error.inj h).symm, hc, rfl⟩
    · split at h
      · simp at h
      · obtain rfl := Except.error.inj h
        exact Bool.noConfusion hbracket
  · simp at h

theorem classSpan_not_isBracket {offset : Nat} {low high : Character} {error : SyntaxError}
    (h : classSpan offset low high = .error error) : error.fault.isBracket = false := by
  unfold classSpan at h
  split at h
  · split at h
    · obtain rfl := Except.error.inj h
      rfl
    · simp at h
  · simp at h

theorem classItem_unterminated {start offset : Nat} {c : Char} {s : List Char}
    {error : SyntaxError} (hc : c ≠ ']') (h : classItem start offset c s = .error error)
    (hbracket : error.fault.isBracket = true) :
    error = ⟨start, .unterminatedClass⟩ ∧
      ∀ place, (Zone.inClass start).StaysInClass place (c :: s) start := by
  have hbackslash : ∀ place, (Zone.inClass start).StaysInClass place ['\\'] start :=
    fun place => ⟨.classEscaped start, .cons_of_ne (by simp) (.nil _ _), rfl⟩
  rcases eq_error_or_of_bind_eq_error h with hread | ⟨⟨low, width⟩, hread, hnext⟩
  · obtain ⟨rfl, rfl, rfl⟩ := classCharacter_unterminated hread hbracket
    exact ⟨rfl, hbackslash⟩
  · obtain ⟨text, rest, rfl, rfl, hlow⟩ := classCharacter_passes hc hread
    simp only [List.drop_left] at hnext
    split at hnext
    · next d back =>
      split at hnext
      · simp [pure, Except.pure] at hnext
      · rcases eq_error_or_of_bind_eq_error hnext with hread' | ⟨⟨high, more⟩, -, hlast⟩
        · obtain ⟨rfl, rfl, rfl⟩ := classCharacter_unterminated hread' hbracket
          -- the second side of a range is cut short
          have hdash : ∀ place, (Zone.inClass start).Passes place ['-'] (.inClass start) :=
            fun place => .cons_of_ne (by simp) (.nil _ _)
          exact ⟨rfl, fun place => .append (hlow start place) (.append (hdash _) (hbackslash _))⟩
        · have hspan := eq_error_of_bind_eq_error (fun _ => ⟨_, rfl⟩) hlast
          rw [classSpan_not_isBracket hspan] at hbracket
          exact Bool.noConfusion hbracket
    · simp [pure, Except.pure] at hnext

theorem classItems_unterminated {start offset : Nat} {s : List Char} {error : SyntaxError}
    (h : classItems start offset s = .error error) (hbracket : error.fault.isBracket = true) :
    error = ⟨start, .unterminatedClass⟩ ∧
      ∀ place, (Zone.inClass start).StaysInClass place s start := by
  fun_induction classItems start offset s with
  | case1 =>
      exact ⟨(Except.error.inj h).symm, fun place => ⟨.inClass start, .nil _ _, rfl⟩⟩
  | case2 => simp at h
  | case3 offset c rest hc ih =>
      rcases eq_error_or_of_bind_eq_error h with hitem | ⟨⟨item, width⟩, hitem, hnext⟩
      · exact classItem_unterminated hc hitem hbracket
      · obtain ⟨text, back, rfl, rfl, hpasses⟩ := classItem_passes hc hitem
        have hothers := ih _ (eq_error_of_bind_eq_error (fun _ => ⟨_, rfl⟩) hnext)
        rw [List.drop_left] at hothers
        obtain ⟨herror, hstays⟩ := hothers
        exact ⟨herror, fun place => .append (hpasses start place) (hstays _)⟩

theorem characterClass_unterminated {start : Nat} {s : List Char} {error : SyntaxError}
    (h : characterClass start s = .error error) (hbracket : error.fault.isBracket = true) :
    error = ⟨start, .unterminatedClass⟩ ∧
      Zone.outside.StaysInClass start ('[' :: s) start := by
  have hopen : Zone.outside.Passes start ['['] (.inClass start) :=
    .cons (fun _ => by decide) (.nil _ _)
  unfold characterClass at h
  split at h
  · have hitems := eq_error_of_bind_eq_error (fun _ => ⟨_, rfl⟩) h
    obtain ⟨herror, hstays⟩ := classItems_unterminated hitems hbracket
    have hcaret : Zone.outside.Passes start ['[', '^'] (.inClass start) :=
      hopen.append (.cons_of_ne (by simp) (.nil _ _))
    exact ⟨herror, .append hcaret (hstays _)⟩
  · have hitems := eq_error_of_bind_eq_error (fun _ => ⟨_, rfl⟩) h
    obtain ⟨herror, hstays⟩ := classItems_unterminated hitems hbracket
    exact ⟨herror, .append hopen (hstays _)⟩

/-! ### The place of a fault -/

namespace Token

theorem readOpening_not_isBracket {offset : Nat} {s : List Char} {error : SyntaxError}
    (h : readOpening offset s = .error error) : error.fault.isBracket = false := by
  unfold readOpening at h
  split at h
  case h_6 =>
    split at h
    · simp at h
    · obtain rfl := Except.error.inj h
      rfl
  case h_7 =>
    obtain rfl := Except.error.inj h
    rfl
  all_goals simp at h

theorem readBrace_not_isBracket {offset : Nat} {s : List Char} {error : SyntaxError}
    (h : readBrace offset s = .error error) : error.fault.isBracket = false := by
  unfold readBrace at h
  split at h
  · simp at h
  · split at h
    · obtain rfl := Except.error.inj h
      rfl
    · simp at h

theorem readEscape_trailing {offset : Nat} {s : List Char} {error : SyntaxError}
    (h : readEscape offset s = .error error) (hbracket : error.fault.isBracket = true) :
    error = ⟨offset, .trailingBackslash⟩ ∧ s = [] := by
  unfold readEscape at h
  split at h
  case h_1 => exact ⟨(Except.error.inj h).symm, rfl⟩
  case h_4 =>
    split at h
    · simp at h
    · obtain rfl := Except.error.inj h
      exact Bool.noConfusion hbracket
  case h_5 =>
    split at h
    · simp at h
    · split at h
      · simp at h
      · obtain rfl := Except.error.inj h
        exact Bool.noConfusion hbracket
  all_goals simp at h

theorem error_of_read {offset : Nat} {c : Char} {s : List Char} {error : SyntaxError}
    (h : read offset c s = .error error) (hbracket : error.fault.isBracket = true) :
    error = ⟨offset, .unterminatedClass⟩ ∧ Zone.outside.StaysInClass offset (c :: s) offset ∨
      error = ⟨offset, .trailingBackslash⟩ ∧ c = '\\' ∧ s = [] := by
  unfold read at h
  split at h
  case h_2 =>
    have hopening := eq_error_of_bind_eq_error (fun _ => ⟨_, rfl⟩) h
    rw [readOpening_not_isBracket hopening] at hbracket
    exact Bool.noConfusion hbracket
  case h_7 =>
    rw [readBrace_not_isBracket h] at hbracket
    exact Bool.noConfusion hbracket
  case h_8 =>
    have hclass := eq_error_of_bind_eq_error (fun _ => ⟨_, rfl⟩) h
    exact .inl (characterClass_unterminated hclass hbracket)
  case h_9 =>
    have hescape := eq_error_of_bind_eq_error (fun _ => ⟨_, rfl⟩) h
    obtain ⟨herror, hs⟩ := readEscape_trailing hescape hbracket
    exact .inr ⟨herror, rfl, hs⟩
  all_goals simp at h

end Token

theorem Reading.quantify_not_isBracket {reading : Reading} {offset : Nat} {quantifier : Quantifier}
    {error : SyntaxError} (h : reading.quantify offset quantifier = .error error) :
    error.fault.isBracket = false := by
  unfold quantify at h
  split at h
  · split at h
    · simp at h
    · obtain rfl := Except.error.inj h
      rfl
  · obtain rfl := Except.error.inj h
    rfl

theorem Reading.declare_not_isBracket {reading : Reading} {offset : Nat} {opener : Opener}
    {error : SyntaxError} (h : reading.declare offset opener = .error error) :
    error.fault.isBracket = false := by
  unfold declare at h
  split at h
  case h_4 =>
    simp only at h
    split at h
    · obtain rfl := Except.error.inj h
      rfl
    · simp at h
  all_goals simp at h

theorem Reading.error_of_step {reading : Reading} {offset : Nat} {token : Token}
    {error : SyntaxError} (h : reading.step offset token = .error error)
    (hbracket : error.fault.isBracket = true) :
    error = ⟨offset, .unmatchedParen⟩ ∧ token = .closing ∧ reading.groups = [] ∨
      error = ⟨offset, .nestingTooDeep⟩ ∧ (∃ opener, token = .opening opener) ∧
        reading.groups.length = nestingLimit := by
  -- bars, atoms and quantifiers are never refused for a bracket
  cases token with
  | bar | atom node => simp [step] at h
  | quantifier q =>
      rw [quantify_not_isBracket h] at hbracket
      exact Bool.noConfusion hbracket
  | closing =>
      simp only [step, leave] at h
      split at h
      · next hgroups => exact .inl ⟨(Except.error.inj h).symm, rfl, hgroups⟩
      · simp at h
  | opening opener =>
      rcases eq_error_or_of_bind_eq_error h with hdeclare | ⟨⟨enclosure, counted⟩, hdeclare, hlast⟩
      · rw [declare_not_isBracket hdeclare] at hbracket
        exact Bool.noConfusion hbracket
      · obtain ⟨-, -, -, rfl⟩ := exists_of_declare hdeclare
        simp only at hlast
        split at hlast
        · next hfull => exact .inr ⟨(Except.error.inj hlast).symm, ⟨opener, rfl⟩, hfull⟩
        · simp [pure, Except.pure] at hlast

/-- Where a reading stops at a fault of brackets, a scan of the pattern sees the same fault. -/
theorem Scan.Follows.seenAt_of_fails {reading : Reading} {front rest : List Char} {c : Char}
    {error : SyntaxError} (h : (Scan.ofText front).Follows reading)
    (hfails : reading.Fails front.length c rest error) :
    error.fault.SeenAt (front ++ c :: rest) error.offset := by
  cases hbracket : error.fault.isBracket with
  | false => exact Fault.seenAt_of_not_isBracket hbracket _ _
  | true =>
      have hlength : (Scan.ofText front).stack.length = reading.groups.length := by
        rw [h.stack, List.length_map]
      cases hfails with
      | read hread =>
          -- there is no token: a class without an end or a backslash at the end
          rcases Token.error_of_read hread hbracket with
            ⟨rfl, last, hpasses, hlast⟩ | ⟨rfl, rfl, rfl⟩
          · change (Scan.ofText (front ++ c :: rest)).zone.classStart? = _
            rw [ofText_append, through_of_passes hpasses h.zone]
            exact hlast
          · refine ⟨by simp, by simp, ?_⟩
            rw [ofText_append]
            simp [through, Scan.step, h.zone, Zone.next]
      | step hread hstep =>
          -- the token is refused: it closes no group or opens one too many
          rcases Reading.error_of_step hstep hbracket with
            ⟨rfl, rfl, hgroups⟩ | ⟨rfl, ⟨opener, rfl⟩, hfull⟩
          · obtain ⟨text, back, rfl, rfl, hfound⟩ := Token.read_found hread
            obtain ⟨rfl, -⟩ := List.cons.inj hfound.spells
            refine ⟨by simp, ?_, ?_⟩
            · simpa using h.zone
            · simpa [hgroups] using h.stack
          · obtain ⟨text, back, rfl, rfl, hfound⟩ := Token.read_found hread
            obtain ⟨more, htext, -⟩ := Opener.exists_text_eq_cons hfound.wellFormed
            obtain ⟨rfl, -⟩ := List.cons.inj (hfound.spells.trans htext)
            refine ⟨by simp, ?_, ?_⟩
            · simpa using h.zone
            · simpa [hlength] using hfull

/-- A reading and a scan agree over all that can be read of a pattern. -/
theorem Reading.run_follows (pattern : List Char) :
    (∀ final, Reading.run {} 0 pattern = .ok final → (Scan.ofText pattern).Follows final) ∧
      ∀ error, Reading.run {} 0 pattern = .error error →
        error.fault.SeenAt pattern error.offset := by
  have hstart : (Scan.ofText []).Follows {} := ⟨rfl, rfl, Nat.zero_le _, Nat.zero_le _, rfl⟩
  obtain ⟨hok, herror⟩ := Reading.run_invariant
    (P := fun reading front _ => (Scan.ofText front).Follows reading)
    (fun h hread hsteps => by
      rw [Scan.ofText_append]
      exact h.step (Token.crosses_of_read hread) hsteps)
    hstart (s := pattern)
  refine ⟨hok, fun error hrun => ?_⟩
  obtain ⟨reached, front, c, rest, hpattern, hfollows, hfails⟩ := herror error hrun
  obtain rfl : pattern = front ++ c :: rest := hpattern
  exact hfollows.seenAt_of_fails hfails

/-- In a pattern that is accepted the brackets match. Where a pattern is refused for a fault of
brackets, a scan of the pattern sees this fault at the same place. -/
theorem Regex.brackets_of_ofPattern (pattern : String) (flags : Flags) :
    match Regex.ofPattern pattern flags with
    | .ok _ => (Scan.ofText pattern.toList).Balanced
    | .error error => error.fault.SeenAt pattern.toList error.offset := by
  obtain ⟨hok, herror⟩ := Reading.run_follows pattern.toList
  cases hresult : Regex.ofPattern pattern flags with
  | ok regex =>
      obtain ⟨final, hfinal, rfl⟩ := ofPattern_eq_ok_iff_complete.1 hresult
      have h := hok final hfinal.run
      exact ⟨h.zone, by rw [h.stack, hfinal.groups, List.map_nil], h.height, h.stray⟩
  | error error =>
      rcases eq_error_or_of_bind_eq_error hresult with hrun | ⟨final, hrun, hnext⟩
      · exact herror error hrun
      · have hfinish := eq_error_of_bind_eq_error (fun _ => ⟨_, rfl⟩) hnext
        have h := hok final hrun
        -- the text has been read and a group is open, or a reference has no group
        unfold Reading.finish at hfinish
        split at hfinish
        · next group groups hgroups =>
          obtain rfl := Except.error.inj hfinish
          exact ⟨h.zone, by rw [h.stack, hgroups, List.map_cons, List.head?_cons]⟩
        · split at hfinish
          · obtain rfl := Except.error.inj hfinish
            trivial
          · simp at hfinish

end PatternTemplate
