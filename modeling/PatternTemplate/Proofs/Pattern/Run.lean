import PatternTemplate.Proofs.Pattern.Lexeme

/-!
# What a step does to a reading

`Reading.Steps` lists what a token can do to a reading, one constructor for each kind of token, and
`Reading.step_eq_ok_iff` says that these are the steps that succeed. A property of readings that
every step keeps holds at the end of every run (`Reading.run_induction`); the property may speak
of the text read so far and of the text to come.
-/

namespace PatternTemplate

open Text

namespace Enclosure

def opener : Enclosure → Opener
  | group captured => Opener.ofCapture captured
  | look kind => .look kind

def capture? : Enclosure → Option Capture
  | group captured => captured
  | look _ => none

end Enclosure

namespace Reading

def opened (reading : Reading) (offset : Nat) (enclosure : Enclosure) : Reading where
  level := {}
  groups := ⟨offset, enclosure, reading.level⟩ :: reading.groups
  captures := reading.captures + enclosure.capture?.toList.length
  names := (enclosure.capture?.bind Capture.name).toList ++ reading.names
  references := reading.references

/-- The conditions under which an enclosure can be opened: its capture has the next number, its
name is new, and there is room for another group. -/
structure CanOpen (reading : Reading) (enclosure : Enclosure) : Prop where
  number : ∀ captured, enclosure.capture? = some captured →
    captured.number = reading.captures + 1
  name : ∀ name, enclosure.capture?.bind Capture.name = some name → name ∉ reading.names
  room : reading.groups.length ≠ nestingLimit

/-- What the tokens at a place do to a reading. -/
inductive Steps (reading : Reading) (offset : Nat) : Token → Reading → Prop
  | bar : Steps reading offset .bar { reading with level := reading.level.bar }
  | atom (node : Node) : Steps reading offset (.atom node) (reading.atom offset node)
  | quantifier {part : Node} {parts : List Node} (quantifier : Quantifier)
      (hparts : reading.level.parts = part :: parts) (hpart : part.isRepeatable = true) :
      Steps reading offset (.quantifier quantifier)
        { reading with level := ⟨reading.level.left, .repetition part quantifier :: parts⟩ }
  | opening (enclosure : Enclosure) (h : reading.CanOpen enclosure) :
      Steps reading offset (.opening enclosure.opener) (reading.opened offset enclosure)
  | closing {group : OpenGroup} {groups : List OpenGroup} (h : reading.groups = group :: groups) :
      Steps reading offset .closing
        { reading with
          level := group.outer.push (group.enclosure.node reading.level.node?), groups }

theorem atom_level (reading : Reading) (offset : Nat) (node : Node) :
    (reading.atom offset node).level = reading.level.push node := by
  unfold Reading.atom
  split <;> rfl

theorem atom_groups (reading : Reading) (offset : Nat) (node : Node) :
    (reading.atom offset node).groups = reading.groups := by
  unfold Reading.atom
  split <;> rfl

theorem exists_of_declare {reading counted : Reading} {offset : Nat} {opener : Opener}
    {enclosure : Enclosure} (h : reading.declare offset opener = .ok (enclosure, counted)) :
    enclosure.opener = opener ∧
      (∀ captured, enclosure.capture? = some captured →
        captured.number = reading.captures + 1) ∧
      (∀ name, enclosure.capture?.bind Capture.name = some name → name ∉ reading.names) ∧
      counted = { reading with
        captures := reading.captures + enclosure.capture?.toList.length
        names := (enclosure.capture?.bind Capture.name).toList ++ reading.names } := by
  unfold declare at h
  split at h
  · obtain ⟨rfl, rfl⟩ := Prod.mk.inj (Except.ok.inj h)
    exact ⟨rfl, nofun, nofun, rfl⟩
  · obtain ⟨rfl, rfl⟩ := Prod.mk.inj (Except.ok.inj h)
    exact ⟨rfl, nofun, nofun, rfl⟩
  · obtain ⟨rfl, rfl⟩ := Prod.mk.inj (Except.ok.inj h)
    exact ⟨rfl, by rintro _ ⟨⟩; rfl, nofun, rfl⟩
  · -- a named group is the one opening that can be refused
    next name =>
    simp only at h
    split at h
    · simp at h
    · next hnew =>
      obtain ⟨rfl, rfl⟩ := Prod.mk.inj (Except.ok.inj h)
      exact ⟨rfl, by rintro _ ⟨⟩; rfl, by rintro _ ⟨⟩; exact hnew, rfl⟩

theorem declare_of_canOpen {reading : Reading} {enclosure : Enclosure}
    (h : reading.CanOpen enclosure) (offset : Nat) :
    reading.declare offset enclosure.opener =
      .ok (enclosure, { reading with
        captures := reading.captures + enclosure.capture?.toList.length
        names := (enclosure.capture?.bind Capture.name).toList ++ reading.names }) := by
  match enclosure, h with
  | .look kind, _ => rfl
  | .group none, _ => rfl
  | .group (some ⟨number, none⟩), h =>
      obtain rfl : number = reading.captures + 1 := h.number _ rfl
      rfl
  | .group (some ⟨number, some name⟩), h =>
      obtain rfl : number = reading.captures + 1 := h.number _ rfl
      exact if_neg (h.name name rfl)

theorem enter_eq_ok_iff {reading next : Reading} {offset : Nat} {opener : Opener} :
    reading.enter offset opener = .ok next ↔
      ∃ enclosure : Enclosure, enclosure.opener = opener ∧ reading.CanOpen enclosure ∧
        next = reading.opened offset enclosure := by
  constructor
  · intro h
    obtain ⟨⟨enclosure, counted⟩, hdeclare, hlast⟩ := exists_of_bind_eq_ok h
    obtain ⟨hopener, hnumber, hname, rfl⟩ := exists_of_declare hdeclare
    simp only at hlast
    split at hlast
    · simp [throw, throwThe, MonadExceptOf.throw] at hlast
    · next hroom =>
      exact ⟨enclosure, hopener, ⟨hnumber, hname, hroom⟩, (Except.ok.inj hlast).symm⟩
  · rintro ⟨enclosure, rfl, h, rfl⟩
    unfold enter
    rw [declare_of_canOpen h]
    exact if_neg h.room

/-- The steps that succeed are those listed. -/
theorem step_eq_ok_iff {reading next : Reading} {offset : Nat} {token : Token} :
    reading.step offset token = .ok next ↔ reading.Steps offset token next := by
  constructor
  · intro h
    cases token with
    | bar =>
        obtain rfl := Except.ok.inj h
        exact .bar
    | atom node =>
        obtain rfl := Except.ok.inj h
        exact .atom node
    | quantifier q =>
        simp only [step, quantify] at h
        split at h
        · next part parts hparts =>
          split at h
          · next hpart =>
            obtain rfl := Except.ok.inj h
            exact .quantifier q hparts hpart
          · simp at h
        · simp at h
    | opening opener =>
        obtain ⟨enclosure, rfl, hopen, rfl⟩ := enter_eq_ok_iff.1 h
        exact .opening enclosure hopen
    | closing =>
        simp only [step, leave] at h
        split at h
        · simp at h
        · next group groups hgroups =>
          obtain rfl := Except.ok.inj h
          exact .closing hgroups
  · intro h
    cases h with
    | bar => rfl
    | atom node => rfl
    | quantifier q hparts hpart => simp [step, quantify, hparts, hpart]
    | opening enclosure hopen => exact enter_eq_ok_iff.2 ⟨enclosure, rfl, hopen, rfl⟩
    | closing hgroups => simp [step, leave, hgroups]

/-- Reading stops with an error at the character `c` in front of the text `s`: there is no token, or
a token that is refused. -/
inductive Fails (reading : Reading) (offset : Nat) (c : Char) (s : List Char)
    (error : SyntaxError) : Prop
  | read (h : Token.read offset c s = .error error)
  | step {token : Token} {width : Nat} (hread : Token.read offset c s = .ok (token, width))
      (hstep : reading.step offset token = .error error)

/-- A property that every step keeps holds at the end of a run that succeeds, and where a run that
fails comes to its error. -/
theorem run_invariant {P : Reading → List Char → List Char → Prop}
    (hstep : ∀ {reading next : Reading} {front more rest : List Char} {c : Char} {token : Token},
      P reading front (c :: more ++ rest) →
        Token.read front.length c (more ++ rest) = .ok (token, more.length) →
          reading.Steps front.length token next → P next (front ++ c :: more) rest)
    {reading : Reading} {front s : List Char} (hP : P reading front s) :
    (∀ final, reading.run front.length s = .ok final → P final (front ++ s) []) ∧
      ∀ error, reading.run front.length s = .error error →
        ∃ reached front' c rest, front ++ s = front' ++ c :: rest ∧
          P reached front' (c :: rest) ∧ reached.Fails front'.length c rest error := by
  generalize hoffset : front.length = offset
  -- the property is carried along the run, so the text in front grows with every token
  fun_induction run reading offset s generalizing front with
  | case1 =>
      refine ⟨?_, nofun⟩
      rintro final ⟨⟩
      rwa [List.append_nil]
  | case2 reading offset c rest error hread =>
      subst hoffset
      refine ⟨nofun, ?_⟩
      rintro _ ⟨⟩
      exact ⟨reading, front, c, rest, rfl, hP, .read hread⟩
  | case3 reading offset c rest token width hread error herror =>
      subst hoffset
      refine ⟨nofun, ?_⟩
      rintro _ ⟨⟩
      exact ⟨reading, front, c, rest, rfl, hP, .step hread herror⟩
  | case4 reading offset c s token width hread next hnext ih =>
      -- the token has been taken off the text as characters, which go in front
      obtain ⟨more, rest, rfl, rfl, -⟩ := Token.read_found hread
      subst hoffset
      rw [List.drop_left] at ih ⊢
      have hnext' := hstep hP hread (step_eq_ok_iff.1 hnext)
      have hlength : (front ++ c :: more).length = front.length + 1 + more.length := by
        simp only [List.length_append, List.length_cons]
        omega
      have hrun := ih hnext' hlength
      rwa [List.append_assoc] at hrun

/-- A property that every step keeps holds at the end of a run. -/
theorem run_induction {P : Reading → List Char → List Char → Prop}
    (hstep : ∀ {reading next : Reading} {front text rest : List Char} {token : Token},
      P reading front (text ++ rest) → token.Found text rest →
        reading.Steps front.length token next → P next (front ++ text) rest)
    {reading final : Reading} {offset : Nat} {front s : List Char}
    (h : reading.run offset s = .ok final) (hoffset : offset = front.length)
    (hP : P reading front s) : P final (front ++ s) [] := by
  subst hoffset
  refine (run_invariant (fun hP hread hsteps => ?_) hP).1 final h
  exact hstep hP (Token.found_of_read hread) hsteps

theorem unresolved?_eq_none_iff {reading : Reading} :
    reading.unresolved? = none ↔ ∀ reference ∈ reading.references, reference.2 ∈ reading.names := by
  simp [unresolved?]

theorem finish_eq_ok_iff {reading : Reading} {body : Option Node} :
    reading.finish = .ok body ↔
      reading.groups = [] ∧ (∀ reference ∈ reading.references, reference.2 ∈ reading.names) ∧
        body = reading.level.node? := by
  rw [← unresolved?_eq_none_iff]
  unfold finish
  split
  · next group groups hgroups => simp [hgroups]
  · next hgroups =>
    split
    · next offset name hname => simp [hname]
    · next hnone =>
      simp only [hgroups, hnone, true_and]
      exact ⟨fun h => (Except.ok.inj h).symm, fun h => h ▸ rfl⟩

/-- The reading of all of a text that is a pattern. -/
structure Complete (final : Reading) (s : List Char) : Prop where
  run : Reading.run {} 0 s = .ok final
  groups : final.groups = []
  resolved : ∀ reference ∈ final.references, reference.2 ∈ final.names

end Reading

theorem Regex.ofPattern_eq_ok_iff {pattern : String} {flags : Flags} {regex : Regex} :
    Regex.ofPattern pattern flags = .ok regex ↔
      ∃ final : Reading, Reading.run {} 0 pattern.toList = .ok final ∧
        final.finish = .ok regex.body ∧ regex.flags = flags ∧
          regex.captures = final.captures := by
  constructor
  · intro h
    obtain ⟨final, hrun, hnext⟩ := exists_of_bind_eq_ok h
    obtain ⟨body, hfinish, hlast⟩ := exists_of_bind_eq_ok hnext
    obtain rfl := Except.ok.inj hlast
    exact ⟨final, hrun, hfinish, rfl, rfl⟩
  · rintro ⟨final, hrun, hfinish, rfl, hcaptures⟩
    unfold Regex.ofPattern
    rw [hrun]
    change (do return ⟨← final.finish, regex.flags, final.captures⟩ : Except SyntaxError Regex) = _
    rw [hfinish, ← hcaptures]
    rfl

/-- A pattern is accepted if it has a complete reading, which gives its regular expression. -/
theorem Regex.ofPattern_eq_ok_iff_complete {pattern : String} {flags : Flags} {regex : Regex} :
    Regex.ofPattern pattern flags = .ok regex ↔
      ∃ final : Reading, final.Complete pattern.toList ∧
        regex = ⟨final.level.node?, flags, final.captures⟩ := by
  rw [Regex.ofPattern_eq_ok_iff]
  constructor
  · rintro ⟨final, hrun, hfinish, rfl, hcaptures⟩
    obtain ⟨hgroups, hresolved, hbody⟩ := Reading.finish_eq_ok_iff.1 hfinish
    exact ⟨final, ⟨hrun, hgroups, hresolved⟩, by rw [← hbody, ← hcaptures]⟩
  · rintro ⟨final, h, rfl⟩
    exact ⟨final, h.run, Reading.finish_eq_ok_iff.2 ⟨h.groups, h.resolved, rfl⟩, rfl, rfl⟩

end PatternTemplate
