import PatternTemplate.Proofs.Pattern.Evidence
import PatternTemplate.Proofs.Pattern.Lookahead
import PatternTemplate.Proofs.Pattern.Numbering
import PatternTemplate.Proofs.Pattern.RoundTrip

/-!
# Named references and the groups they name

A named reference may stand in front of the group it names, in it or behind it, so the references of
a pattern are looked up when all of it has been read. What a reading keeps of them is what a scan
finds: a backslash outside of classes that has `k` and an angle bracket behind it
(`scannedReferences`), from left to right.

A reference to no group is therefore an error of the whole pattern. Everything else in the pattern
has been read by then, and all references in front of it name groups. A group of that name at the
end of the pattern is what the reference asks for: with it, either the pattern is accepted or the
error is one about another name and further to the right
(`Regex.ofPattern_append_of_unknownGroupName`).
-/

namespace PatternTemplate

open Text

/-! ### A scan of the references -/

def referenceName? (s : List Char) : Option String :=
  match s with
  | 'k' :: '<' :: rest => some (String.ofList (rest.takeWhile (· != '>')))
  | _ => none

/-- The places and names of the named references in a text at the place `offset`, from left to
right. -/
def Zone.references (zone : Zone) (offset : Nat) : List Char → List (Nat × String)
  | [] => []
  | c :: rest =>
    (if zone = outside ∧ c = '\\' then ((referenceName? rest).map (offset, ·)).toList else []) ++
      (zone.next offset c).references (offset + 1) rest

def scannedReferences (pattern : String) : List (Nat × String) :=
  Zone.outside.references 0 pattern.toList

namespace Zone

theorem references_cons_of_ne {zone : Zone} {c : Char} (h : zone = outside → c ≠ '\\')
    (offset : Nat) (rest : List Char) :
    zone.references offset (c :: rest) = (zone.next offset c).references (offset + 1) rest := by
  have hnot : ¬ (zone = outside ∧ c = '\\') := fun hescape => h hescape.1 hescape.2
  rw [references, if_neg hnot, List.nil_append]

theorem references_append_of_plain {text : List Char} (h : ∀ c ∈ text, c ≠ '\\' ∧ c ≠ '[')
    (offset : Nat) (rest : List Char) :
    outside.references offset (text ++ rest) =
      outside.references (offset + text.length) rest := by
  induction text generalizing offset with
  | nil => rfl
  | cons c text ih =>
      obtain ⟨⟨hbackslash, hbracket⟩, htext⟩ := List.forall_mem_cons.1 h
      have hnext : outside.next offset c = outside := by simp [next, hbackslash, hbracket]
      rw [List.cons_append, references_cons_of_ne fun _ => hbackslash, hnext, ih htext,
        List.length_cons, Nat.add_assoc, Nat.add_comm 1]

theorem references_append_of_not_isDelimiter {text : List Char}
    (h : ∀ c ∈ text, isDelimiter c = false) (offset : Nat) (rest : List Char) :
    outside.references offset (text ++ rest) =
      outside.references (offset + text.length) rest := by
  refine references_append_of_plain (fun c hc => ?_) offset rest
  constructor <;> rintro rfl <;> exact Bool.noConfusion (h _ hc)

theorem Passes.classStart? {zone last : Zone} {offset start : Nat} {s : List Char}
    (h : zone.Passes offset s last) (hlast : last.classStart? = some start)
    (hlt : start < offset) : zone.classStart? = some start := by
  -- a class whose bracket is in front has not been left in between
  induction h with
  | nil => exact hlast
  | @cons zone _ offset c s _ _ ih =>
      have hnext := ih hlast (Nat.lt_succ_of_lt hlt)
      cases zone with
      | outside =>
          simp only [next] at hnext
          split at hnext
          · cases hnext
          · split at hnext
            · obtain rfl := Option.some.inj hnext
              exact absurd hlt (Nat.lt_irrefl _)
            · cases hnext
      | escaped place => cases hnext
      | inClass place =>
          simp only [next] at hnext
          split at hnext
          · exact hnext
          · split at hnext
            · cases hnext
            · exact hnext
      | classEscaped place => exact hnext

theorem Passes.references_append {zone last : Zone} {offset start : Nat} {s : List Char}
    (h : zone.Passes offset s last) (hlast : last.classStart? = some start)
    (hlt : start < offset) (rest : List Char) :
    zone.references offset (s ++ rest) = last.references (offset + s.length) rest := by
  induction h with
  | nil => rfl
  | @cons zone _ offset c s hc h ih =>
      have hstart := (Passes.cons hc h).classStart? hlast hlt
      have hinside : zone = outside → c ≠ '\\' := by
        rintro rfl
        cases hstart
      rw [List.cons_append, references_cons_of_ne hinside, ih hlast (Nat.lt_succ_of_lt hlt),
        List.length_cons, Nat.add_assoc, Nat.add_comm 1]

theorem references_pairwise (zone : Zone) (offset : Nat) (s : List Char) :
    (zone.references offset s).Pairwise (·.1 < ·.1) ∧
      ∀ reference ∈ zone.references offset s, offset ≤ reference.1 := by
  induction s generalizing zone offset with
  | nil => exact ⟨.nil, nofun⟩
  | cons c s ih =>
      obtain ⟨hpairwise, hle⟩ := ih (zone.next offset c) (offset + 1)
      have hfirst : ∀ reference ∈ (if zone = outside ∧ c = '\\' then
          ((referenceName? s).map (offset, ·)).toList else []), reference.1 = offset := by
        split
        · cases referenceName? s <;> simp
        · simp
      rw [references, List.pairwise_append, List.forall_mem_append]
      refine ⟨⟨?_, hpairwise, ?_⟩, ?_, ?_⟩
      · split
        · cases referenceName? s <;> simp
        · exact .nil
      · intro reference hreference other hother
        rw [hfirst reference hreference]
        exact hle other hother
      · exact fun reference hreference => Nat.le_of_eq (hfirst reference hreference).symm
      · exact fun reference hreference => Nat.le_of_succ_le (hle reference hreference)

end Zone

/-! ### References of tokens -/

def Token.references (offset : Nat) : Token → List (Nat × String)
  | atom (.backreference (.name name)) => [(offset, name)]
  | _ => []

theorem IsGroupName.takeWhile_append {name : String} (h : IsGroupName name) (rest : List Char) :
    String.ofList ((name.toList ++ '>' :: rest).takeWhile (· != '>')) = name := by
  have hchars : ∀ c ∈ name.toList, (c != '>') = true := by
    intro c hc
    rw [bne_iff_ne]
    rintro rfl
    exact absurd (h.isNameChar '>' hc) (by decide)
  rw [takeWhile_append_of_stops hchars (by simp), String.ofList_toList]

theorem Token.referenceName?_of_readEscape {offset : Nat} {s : List Char} {node : Node}
    {width : Nat} (h : readEscape offset s = .ok (node, width)) (place : Nat) :
    ((referenceName? s).map (place, ·)).toList = (atom node).references place := by
  unfold readEscape at h
  split at h
  case h_1 => simp at h
  case h_2 | h_3 =>
    obtain ⟨rfl, -⟩ := Prod.mk.inj (Except.ok.inj h)
    rfl
  case h_4 back =>
    split at h
    · next name more hname =>
      obtain ⟨hvalid, rest, rfl, -⟩ := groupName?_eq_some_iff.1 hname
      obtain ⟨rfl, -⟩ := Prod.mk.inj (Except.ok.inj h)
      simp [referenceName?, hvalid.takeWhile_append, references]
    · simp at h
  case h_5 letter back _ _ hname =>
    have hnone : referenceName? (letter :: back) = none := by
      unfold referenceName?
      split
      · next rest heq =>
        obtain ⟨rfl, rfl⟩ := List.cons.inj heq
        exact (hname rest rfl rfl).elim
      · rfl
    rw [hnone]
    split at h
    · obtain ⟨rfl, -⟩ := Prod.mk.inj (Except.ok.inj h)
      rfl
    · split at h
      · obtain ⟨rfl, -⟩ := Prod.mk.inj (Except.ok.inj h)
        rfl
      · simp at h

theorem ClassRow.of_classItems {start offset : Nat} {s : List Char} {items : List Node}
    {width : Nat} (h : classItems start offset s = .ok (items, width)) :
    ∃ row rest, s = row ++ ']' :: rest ∧ width = (row ++ [']']).length ∧
      ClassRow start offset row (']' :: rest) := by
  fun_induction classItems start offset s generalizing items width with
  | case1 => simp at h
  | case2 offset rest =>
      obtain ⟨-, rfl⟩ := Prod.mk.inj (Except.ok.inj h)
      exact ⟨[], rest, rfl, rfl, .nil _ _⟩
  | case3 offset c rest hc ih =>
      obtain ⟨⟨item, width⟩, hitem, hnext⟩ := exists_of_bind_eq_ok h
      obtain ⟨⟨others, more⟩, hothers, hlast⟩ := exists_of_bind_eq_ok hnext
      obtain ⟨-, rfl⟩ := Prod.mk.inj (Except.ok.inj hlast)
      obtain ⟨text, back, rfl, rfl, -⟩ := classItem_passes hc hitem
      have hothers' := ih _ hothers
      rw [List.drop_left] at hothers'
      obtain ⟨row, rest, rfl, rfl, hrow⟩ := hothers'
      refine ⟨c :: text ++ row, rest, by simp, ?_, .cons hc hitem hrow⟩
      simp only [List.length_append, List.length_cons]
      omega

theorem characterClass_inside {start : Nat} {more rest : List Char} {node : Node}
    (h : characterClass start (more ++ rest) = .ok (node, more.length)) (place : Nat) :
    ∃ text, more = text ++ [']'] ∧
      (Zone.inClass place).Passes (place + 1) text (.inClass place) := by
  unfold characterClass at h
  split at h
  · next back hback =>
    obtain ⟨⟨items, width⟩, hitems, hlast⟩ := exists_of_bind_eq_ok h
    obtain ⟨row, tail, rfl, rfl, hrow⟩ := ClassRow.of_classItems hitems
    have hwidth := (Prod.mk.inj (Except.ok.inj hlast)).2
    have hmore : more ++ rest = '^' :: row ++ [']'] ++ tail := by simpa using hback
    obtain ⟨rfl, rfl⟩ := List.append_inj hmore (by simpa [Nat.add_comm] using hwidth.symm)
    exact ⟨'^' :: row, rfl, .cons_of_ne (by simp) (hrow.passes place _)⟩
  · obtain ⟨⟨items, width⟩, hitems, hlast⟩ := exists_of_bind_eq_ok h
    obtain ⟨row, tail, hs, rfl, hrow⟩ := ClassRow.of_classItems hitems
    have hwidth := (Prod.mk.inj (Except.ok.inj hlast)).2
    have hmore : more ++ rest = row ++ [']'] ++ tail := by simpa using hs
    obtain ⟨rfl, rfl⟩ := List.append_inj hmore hwidth.symm
    exact ⟨row, rfl, hrow.passes place _⟩

theorem characterClass_references {start : Nat} {more rest : List Char} {node : Node}
    (h : characterClass start (more ++ rest) = .ok (node, more.length)) (place : Nat) :
    Zone.outside.references place ('[' :: more ++ rest) =
      Zone.outside.references (place + ('[' :: more).length) rest := by
  obtain ⟨text, rfl, hpasses⟩ := characterClass_inside h place
  have hopen : Zone.outside.next place '[' = .inClass place := rfl
  rw [List.cons_append, Zone.references_cons_of_ne (fun _ => by decide), hopen, List.append_assoc,
    hpasses.references_append rfl (Nat.lt_succ_self _), List.singleton_append,
    Zone.references_cons_of_ne (by simp)]
  congr 1
  simp only [List.length_append, List.length_cons, List.length_nil]
  omega

theorem Token.readEscape_references {offset : Nat} {more rest : List Char} {node : Node}
    (h : readEscape offset (more ++ rest) = .ok (node, more.length)) (place : Nat) :
    Zone.outside.references place ('\\' :: more ++ rest) =
      (atom node).references place ++
        Zone.outside.references (place + ('\\' :: more).length) rest := by
  have hname := referenceName?_of_readEscape h place
  obtain ⟨letter, text, back, hs, hwidth, hmore⟩ := readEscape_not_isDelimiter h
  obtain ⟨rfl, rfl⟩ := List.append_inj hs hwidth
  have hescaped : Zone.outside.next place '\\' = .escaped place := rfl
  have hback : (Zone.escaped place).next (place + 1) letter = .outside := rfl
  rw [List.cons_append, Zone.references, if_pos ⟨rfl, rfl⟩, hname, hescaped, List.cons_append,
    Zone.references_cons_of_ne (by simp), hback, Zone.references_append_of_not_isDelimiter hmore]
  congr 2
  simp only [List.length_cons]
  omega

/-- A scan finds the reference that a token is, and goes on behind the token. -/
theorem Token.references_append {offset : Nat} {c : Char} {more rest : List Char} {token : Token}
    (h : read offset c (more ++ rest) = .ok (token, more.length)) :
    Zone.outside.references offset (c :: more ++ rest) =
      token.references offset ++
        Zone.outside.references (offset + (c :: more).length) rest := by
  have hfound := found_of_read h
  have hspells := hfound.spells
  cases token with
  | bar =>
      obtain ⟨rfl, rfl⟩ := List.cons.inj hspells
      exact Zone.references_append_of_plain (by simp) _ _
  | opening opener =>
      obtain ⟨text, htext, hmore⟩ := Opener.exists_text_eq_cons hfound.wellFormed
      obtain ⟨rfl, rfl⟩ := List.cons.inj (hspells.trans htext)
      change Zone.outside.references offset (['('] ++ (more ++ rest)) = _
      rw [Zone.references_append_of_plain (by simp),
        Zone.references_append_of_not_isDelimiter hmore, Nat.add_assoc, Nat.add_comm _ more.length]
      rfl
  | closing =>
      obtain ⟨rfl, rfl⟩ := List.cons.inj hspells
      exact Zone.references_append_of_plain (by simp) _ _
  | quantifier q =>
      exact Zone.references_append_of_not_isDelimiter hspells.not_isDelimiter _ _
  | atom node =>
      rcases atom_of_read h with ⟨rfl, hclass⟩ | ⟨rfl, hescape⟩ | ⟨hc, hwidth⟩
      · obtain ⟨text, back, -, -, -, negative, items, rfl, -⟩ := characterClass_spells hclass
        exact characterClass_references hclass offset
      · exact readEscape_references hescape offset
      · obtain rfl := List.eq_nil_of_length_eq_zero hwidth
        simp only [List.mem_cons, List.not_mem_nil, or_false, not_or] at hc
        obtain ⟨hbracket, hbackslash, -⟩ := hc
        -- a single character that is no backslash is no reference
        have hnone : (atom node).references offset = [] := by
          unfold references
          split
          · next name heq =>
            obtain rfl := Token.atom.inj heq
            cases hspells with
            | backreference htarget => cases htarget
          · rfl
        rw [hnone]
        exact Zone.references_append_of_plain (by simp [hbackslash, hbracket]) _ _

/-! ### References and names of readings -/

namespace Reading

/-- A step adds the reference that its token is. -/
theorem Steps.references {reading next : Reading} {offset : Nat} {token : Token}
    (h : reading.Steps offset token next) :
    next.references.reverse = reading.references.reverse ++ token.references offset := by
  cases h with
  | atom node =>
      unfold Reading.atom
      split
      · exact List.reverse_cons
      · next hother =>
        have hnone : (Token.atom node).references offset = [] := by
          unfold Token.references
          split
          · next name heq => exact (hother name (Token.atom.inj heq)).elim
          · rfl
        rw [hnone, List.append_nil]
  | bar | quantifier | opening | closing => exact (List.append_nil _).symm

theorem scannedReferences_of_run {pattern : String} {final : Reading}
    (h : Reading.run {} 0 pattern.toList = .ok final) :
    scannedReferences pattern = final.references.reverse := by
  have hstart : scannedReferences pattern = ({} : Reading).references.reverse ++
      Zone.outside.references ([] : List Char).length pattern.toList := rfl
  have hfinal := (run_invariant (P := fun reading front rest => scannedReferences pattern =
    reading.references.reverse ++ Zone.outside.references front.length rest)
    (fun hscan hread hsteps => by
      rw [hscan, Token.references_append hread, hsteps.references, List.append_assoc,
        List.length_append])
    hstart).1 final h
  rwa [Zone.references, List.append_nil] at hfinal

theorem mem_scannedNames_of_run {pattern : String} {final : Reading}
    (h : Reading.run {} 0 pattern.toList = .ok final) {name : String} :
    some name ∈ scannedNames pattern ↔ name ∈ final.names := by
  have hrun : Reading.run {} ([] : List Char).length pattern.toList = .ok final := h
  have hmem : name ∈ final.names ↔
      name ∈ (final.gather Node.capture?).filterMap Capture.name := by
    rw [(tallied_empty.run hrun).names, List.mem_reverse]
  rw [scannedNames_of_run h, hmem, List.mem_map, List.mem_filterMap]

theorem unresolved?_eq_some_iff {reading : Reading} {reference : Nat × String} :
    reading.unresolved? = some reference ↔
      reference.2 ∉ reading.names ∧ ∃ front back,
        reading.references.reverse = front ++ reference :: back ∧
          ∀ other ∈ front, other.2 ∈ reading.names := by
  rw [unresolved?, List.find?_eq_some_iff_append]
  simp

end Reading

/-! ### Errors about names -/

theorem Fault.name?_of_isBracket {fault : Fault} (h : fault.isBracket = true) :
    fault.name? = none := by
  cases fault <;> first | rfl | exact Bool.noConfusion h

theorem Token.name?_of_read {offset : Nat} {c : Char} {s : List Char} {error : SyntaxError}
    (h : read offset c s = .error error) : error.fault.name? = none := by
  cases hbracket : error.fault.isBracket with
  | true => exact Fault.name?_of_isBracket hbracket
  | false =>
      unfold read at h
      split at h
      case h_2 =>
        have hopening := eq_error_of_bind_eq_error (fun _ => ⟨_, rfl⟩) h
        rcases readOpening_eq_error hopening with ⟨_, -, rfl, -⟩ | ⟨_, -, rfl, -⟩ <;> rfl
      case h_7 =>
        obtain ⟨rfl, -⟩ := readBrace_eq_error h
        rfl
      case h_8 =>
        have hclass := eq_error_of_bind_eq_error (fun _ => ⟨_, rfl⟩) h
        obtain ⟨_, _, _, _, -, hc, -, -, hitem⟩ := characterClass_eq_error hclass hbracket
        rcases classItem_eq_error hc hitem hbracket with ⟨_, _, _, -, rfl, -⟩ | ⟨rfl, -⟩ <;> rfl
      case h_9 =>
        have hescape := eq_error_of_bind_eq_error (fun _ => ⟨_, rfl⟩) h
        rcases readEscape_eq_error hescape hbracket with ⟨_, -, rfl, -⟩ | ⟨_, -, rfl, -⟩ <;> rfl
      all_goals simp at h

namespace Reading

/-- No reading stops at a reference to an unknown group; the end of the pattern is waited for. -/
theorem Fails.fault_ne {reading : Reading} {offset : Nat} {c : Char} {s : List Char}
    {error : SyntaxError} (h : reading.Fails offset c s error) (name : String) :
    error.fault ≠ .unknownGroupName name := by
  intro hfault
  cases h with
  | read hread =>
      have hname := Token.name?_of_read hread
      rw [hfault] at hname
      cases hname
  | step _ hstep =>
      rcases step_eq_error hstep (by rw [hfault]; rfl) with ⟨_, -, rfl⟩ | ⟨_, -, -, rfl⟩
      · cases hfault
      · cases hfault

/-- Where a pattern is refused for a reference to an unknown group, all of it has been read, no
group is open, and the reference is the first one that names no group. -/
theorem exists_of_unknownGroupName {pattern name : String} {flags : Flags} {offset : Nat}
    (h : Regex.ofPattern pattern flags = .error ⟨offset, .unknownGroupName name⟩) :
    ∃ final : Reading, Reading.run {} 0 pattern.toList = .ok final ∧ final.groups = [] ∧
      final.unresolved? = some (offset, name) := by
  rcases eq_error_or_of_bind_eq_error h with hrun | ⟨final, hrun, hnext⟩
  · obtain ⟨-, herror⟩ := @run_invariant (fun _ _ _ => True) (fun _ _ _ => trivial) {} []
      pattern.toList trivial
    obtain ⟨_, _, _, _, -, -, hfails⟩ := herror _ hrun
    exact absurd rfl (hfails.fault_ne name)
  · have hfinish := eq_error_of_bind_eq_error (fun _ => ⟨_, rfl⟩) hnext
    refine ⟨final, hrun, ?_⟩
    unfold finish at hfinish
    split at hfinish
    · cases hfinish
    · next hgroups =>
      split at hfinish
      · next hunresolved =>
        cases hfinish
        exact ⟨hgroups, hunresolved⟩
      · cases hfinish

/-! ### A group behind a pattern -/

/-- A text is read in front of a parenthesis as it is read at the end. -/
theorem run_append_paren {p : Char} (hp : p ∈ parentheses) {final : Reading} {s : List Char}
    (h : Reading.run {} 0 s = .ok final) (t : List Char) :
    Reading.run {} 0 (s ++ p :: t) = final.run s.length (p :: t) := by
  have hstart : Reading.run {} 0 (s ++ p :: t) =
      ({} : Reading).run ([] : List Char).length (s ++ p :: t) := rfl
  exact (run_invariant (P := fun reading front rest => Reading.run {} 0 (s ++ p :: t) =
    reading.run front.length (rest ++ p :: t))
    (fun {reading next front more rest c token} hreads hread hsteps => by
      have hread' := Token.read_paren hp hread front.length t
      rw [List.append_assoc] at hread'
      rw [hreads, List.append_assoc, List.cons_append,
        run_cons_of_read hread' (step_eq_ok_iff.2 hsteps), List.drop_left, List.length_append,
        List.length_cons]
      congr 1
      omega)
    hstart).1 final h

/-- The reading behind an empty group of that name. -/
def named (reading : Reading) (offset : Nat) (name : String) : Reading :=
  let enclosure : Enclosure := .group (some ⟨reading.captures + 1, some name⟩)
  { reading.opened offset enclosure with
    level := reading.level.push (enclosure.node none)
    groups := reading.groups }

theorem run_append_named {final : Reading} {s : List Char} {name : String}
    (h : Reading.run {} 0 s = .ok final) (hgroups : final.groups = []) (hvalid : IsGroupName name)
    (hname : name ∉ final.names) :
    Reading.run {} 0 (s ++ ((Opener.capture (some name)).text ++ [')'])) =
      .ok (final.named s.length name) := by
  have hopening : (Token.opening (.capture (some name))).ReadFrom
      (Opener.capture (some name)).text [')'] :=
    @Token.readFrom_opening (.capture (some name)) hvalid _ trivial
  have hclosing : Token.closing.ReadFrom [')'] [] := ⟨')', [], rfl, fun _ => rfl⟩
  have hopen : final.CanOpen (.group (some ⟨final.captures + 1, some name⟩)) := by
    refine ⟨?_, ?_, by rw [hgroups]; decide⟩
    · rintro _ ⟨⟩
      rfl
    · rintro _ ⟨⟩
      exact hname
  rw [show (Opener.capture (some name)).text ++ [')'] =
      '(' :: ('?' :: '<' :: name.toList ++ ['>'] ++ [')']) from rfl,
    run_append_paren (by decide) h]
  change final.run s.length ((Opener.capture (some name)).text ++ [')']) = _
  rw [Level.run_of_readFrom hopening (.opening _ hopen), ← List.append_nil [')'],
    Level.run_of_readFrom hclosing (.closing rfl), run_nil]
  rfl

theorem lt_of_unresolved?_eq_some {reading : Reading} {first reference : Nat × String}
    (h : reading.unresolved? = some first)
    (hpairwise : reading.references.reverse.Pairwise (·.1 < ·.1))
    (hmem : reference ∈ reading.references) (hunknown : reference.2 ∉ reading.names) :
    reference = first ∨ first.1 < reference.1 := by
  obtain ⟨-, front, back, hreferences, hfront⟩ := unresolved?_eq_some_iff.1 h
  rw [hreferences, List.pairwise_append, List.pairwise_cons] at hpairwise
  rw [← List.mem_reverse, hreferences, List.mem_append, List.mem_cons] at hmem
  rcases hmem with hmem | hmem | hmem
  · exact absurd (hfront reference hmem) hunknown
  · exact .inl hmem
  · exact .inr (hpairwise.2.1.1 reference hmem)

theorem mem_references_of_unresolved? {reading : Reading} {reference : Nat × String}
    (h : reading.unresolved? = some reference) : reference ∈ reading.references := by
  obtain ⟨-, front, back, hreferences, -⟩ := unresolved?_eq_some_iff.1 h
  rw [← List.mem_reverse, hreferences]
  simp

/-- With a group of its name at the end a reference is no longer unknown, so an unknown one that is
left has another name and is further to the right. -/
theorem unresolved?_named {reading : Reading} {first other : Nat × String} {place : Nat}
    (h : reading.unresolved? = some first)
    (hpairwise : reading.references.reverse.Pairwise (·.1 < ·.1))
    (hother : (reading.named place first.2).unresolved? = some other) :
    other.2 ≠ first.2 ∧ first.1 < other.1 := by
  have hmem : other ∈ (reading.named place first.2).references :=
    mem_references_of_unresolved? hother
  have hunknown : other.2 ∉ first.2 :: reading.names := (unresolved?_eq_some_iff.1 hother).1
  rw [List.mem_cons, not_or] at hunknown
  refine ⟨hunknown.1, ?_⟩
  rcases lt_of_unresolved?_eq_some h hpairwise hmem hunknown.2 with rfl | hlt
  · exact absurd rfl hunknown.1
  · exact hlt

end Reading

/-- A pattern that has been read and in which no group is open is refused only for a reference to an
unknown group. -/
theorem Regex.ofPattern_of_run {pattern : String} {final : Reading}
    (hrun : Reading.run {} 0 pattern.toList = .ok final) (hgroups : final.groups = [])
    (flags : Flags) :
    Regex.ofPattern pattern flags =
      match final.unresolved? with
      | none => .ok ⟨final.level.node?, flags, final.captures⟩
      | some (offset, name) => .error ⟨offset, .unknownGroupName name⟩ := by
  unfold Regex.ofPattern
  rw [hrun]
  change (do return ⟨← final.finish, flags, final.captures⟩ : Except SyntaxError Regex) = _
  unfold Reading.finish
  rw [hgroups]
  cases final.unresolved? <;> rfl

/-- Where a pattern is refused for a reference to an unknown group, the reference stands there, no
group of the pattern has the name, and all references in front of it name groups of the pattern,
wherever these are. The pattern has been read to its end without another error. With a group of the
name behind it, the pattern is accepted or refused for another unknown name further to the right. -/
theorem Regex.ofPattern_append_of_unknownGroupName {pattern name : String} {flags : Flags}
    {offset : Nat}
    (h : Regex.ofPattern pattern flags = .error ⟨offset, .unknownGroupName name⟩) :
    Zone.outside.StandsAt pattern.toList offset ('\\' :: 'k' :: '<' :: name.toList ++ ['>']) ∧
      some name ∉ scannedNames pattern ∧
      (∀ reference ∈ scannedReferences pattern, reference.1 < offset →
        some reference.2 ∈ scannedNames pattern) ∧
      (∃ final, Reading.run {} 0 pattern.toList = .ok final ∧ final.groups = []) ∧
      ((∃ regex, Regex.ofPattern (pattern ++ "(?<" ++ name ++ ">)") flags = .ok regex) ∨
        ∃ later other, Regex.ofPattern (pattern ++ "(?<" ++ name ++ ">)") flags =
          .error ⟨later, .unknownGroupName other⟩ ∧ other ≠ name ∧ offset < later) := by
  obtain ⟨final, hrun, hgroups, hunresolved⟩ := Reading.exists_of_unknownGroupName h
  have hunknown := (Reading.unresolved?_eq_some_iff.1 hunresolved).1
  have hmem := Reading.mem_references_of_unresolved? hunresolved
  have hplaced := (Reading.run_evident pattern.toList).1 final hrun
  have hscan := Reading.scannedReferences_of_run hrun
  have hpairwise : final.references.reverse.Pairwise (·.1 < ·.1) :=
    hscan ▸ (Zone.references_pairwise .outside 0 pattern.toList).1
  refine ⟨hplaced.references (offset, name) hmem, ?_, ?_, ⟨final, hrun, hgroups⟩, ?_⟩
  · rwa [Reading.mem_scannedNames_of_run hrun]
  · intro reference hreference hlt
    rw [hscan, List.mem_reverse] at hreference
    rw [Reading.mem_scannedNames_of_run hrun]
    -- the reference at fault is the first of its kind, and places only grow
    by_contra hmissing
    rcases Reading.lt_of_unresolved?_eq_some hunresolved hpairwise hreference hmissing with
      rfl | hgt
    · exact Nat.lt_irrefl _ hlt
    · exact Nat.lt_asymm hgt hlt
  · have htext : (pattern ++ "(?<" ++ name ++ ">)").toList =
        pattern.toList ++ ((Opener.capture (some name)).text ++ [')']) := by
      simp [Opener.text]
    have hvalid : IsGroupName name := hplaced.valid (offset, name) hmem
    have hrun' := Reading.run_append_named hrun hgroups hvalid hunknown
    rw [← htext] at hrun'
    rw [ofPattern_of_run hrun' hgroups]
    cases hnamed : (final.named pattern.toList.length name).unresolved? with
    | none => exact .inl ⟨_, rfl⟩
    | some other =>
        exact .inr ⟨other.1, other.2, rfl, Reading.unresolved?_named hunresolved hpairwise hnamed⟩

def Regex.dangling : String :=
  "\\k<a>\\k<é>(?<a>\\k<b>)"

theorem Regex.ofPattern_append_of_unknownGroupName_dangling :
    Regex.ofPattern dangling = .error ⟨5, .unknownGroupName "é"⟩ ∧
      scannedNames dangling = [some "a"] ∧
      scannedReferences dangling = [(0, "a"), (5, "é"), (15, "b")] ∧
      ((∃ regex, Regex.ofPattern (dangling ++ "(?<" ++ "é" ++ ">)") = .ok regex) ∨
        ∃ later other, Regex.ofPattern (dangling ++ "(?<" ++ "é" ++ ">)") =
          .error ⟨later, .unknownGroupName other⟩ ∧ other ≠ "é" ∧ 5 < later) := by
  have hread : Regex.ofPattern dangling = .error ⟨5, .unknownGroupName "é"⟩ := by
    decide +kernel
  obtain ⟨-, -, -, -, hnamed⟩ := Regex.ofPattern_append_of_unknownGroupName hread
  exact ⟨hread, by decide +kernel, by decide +kernel, hnamed⟩

end PatternTemplate
