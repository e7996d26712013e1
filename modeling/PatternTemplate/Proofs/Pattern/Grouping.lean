import PatternTemplate.Proofs.Pattern.Lookahead
import PatternTemplate.Proofs.Pattern.Marks
import PatternTemplate.Proofs.Pattern.Renumbering

/-!
# Patterns as groups of other patterns

A pattern may be put in parentheses and made a piece of another one. What stands in front of it is
there all the while it is read: open groups below its own, captures that are counted already, names
that are taken. A reading with all that in front of it is the reading by itself, `behind` another.
Steps go along with it as long as no name comes twice and the groups below leave enough room for
those above (`Reading.Fits`); both need to be known of the end only, since names and depth never
get less. And tokens at the end of the pattern are found again in front of the parenthesis. So a
pattern in a group adds its tree, renumbered, to what has been read (`Reading.run_group`).
-/

namespace PatternTemplate

/-! ### Room for groups -/

def OpenGroup.nestingList : List OpenGroup → Nat
  | [] => 0
  | group :: groups => max (group.outer.nesting + groups.length) (nestingList groups)

namespace Reading

/-- The nesting of what has been read, with a group that is open for one that will be closed. -/
def nesting (reading : Reading) : Nat :=
  max (reading.level.nesting + reading.groups.length) (OpenGroup.nestingList reading.groups)

theorem length_groups_le_nesting (reading : Reading) :
    reading.groups.length ≤ reading.nesting :=
  Nat.le_trans (Nat.le_add_left _ _) (Nat.le_max_left _ _)

theorem nesting_of_groups_eq_nil {reading : Reading} (h : reading.groups = []) :
    reading.nesting = Node.nestingOption reading.level.node? := by
  rw [nesting, h, Level.nestingOption_node?]
  exact Nat.max_zero _

theorem Steps.nesting_le {reading next : Reading} {offset : Nat} {token : Token}
    (h : reading.Steps offset token next) (hgroups : OpenGroup.ListWellFormed reading.groups) :
    reading.nesting ≤ next.nesting := by
  cases h with
  | bar =>
      rw [nesting, nesting, Level.nesting_bar]
  | atom node =>
      rw [nesting, nesting, atom_groups, atom_level, Level.nesting_push]
      omega
  | @quantifier part parts q hparts hpart =>
      have hlevel : reading.level = Level.push ⟨reading.level.left, parts⟩ part := by
        rw [Level.push, ← hparts]
      have hnext : (⟨reading.level.left, .repetition part q :: parts⟩ : Level) =
          Level.push ⟨reading.level.left, parts⟩ (.repetition part q) := rfl
      rw [nesting, nesting, hnext, Level.nesting_push, hlevel, Level.nesting_push]
      exact Nat.le_refl _
  | opening enclosure hopen =>
      simp only [nesting, opened, OpenGroup.nestingList]
      omega
  | @closing group groups hopen =>
      rw [hopen] at hgroups
      -- the group counts for one level, closed as it did while it was open
      have hnode := Enclosure.nesting_node hgroups.2.1 reading.level.node?
      rw [Level.nestingOption_node?] at hnode
      simp only [nesting, hopen, Level.nesting_push, hnode, OpenGroup.nestingList,
        List.length_cons]
      omega

theorem Steps.names_subset {reading next : Reading} {offset : Nat} {token : Token}
    (h : reading.Steps offset token next) : reading.names ⊆ next.names := by
  cases h with
  | atom node =>
      unfold Reading.atom
      split <;> exact fun _ h => h
  | opening enclosure hopen => exact List.subset_append_right _ _
  | bar | quantifier | closing => exact fun _ h => h

end Reading

/-! ### Readings behind others -/

def OpenGroup.behind (n offset : Nat) (group : OpenGroup) : OpenGroup :=
  ⟨offset + group.offset, group.enclosure.renumber n, group.outer.renumber n⟩

namespace Reading

/-- The reading of a text at the place `offset` of a pattern of which `base` has been read. The
groups that are open in `base` stay open. -/
def behind (base : Reading) (offset : Nat) (reading : Reading) : Reading where
  level := reading.level.renumber base.captures
  groups := reading.groups.map (OpenGroup.behind base.captures offset) ++ base.groups
  captures := reading.captures + base.captures
  names := reading.names ++ base.names
  references :=
    reading.references.map (fun reference => (offset + reference.1, reference.2)) ++ base.references

theorem behind_empty {base : Reading} (hlevel : base.level = {}) (offset : Nat) :
    base.behind offset {} = base := by
  obtain ⟨level, groups, captures, names, references⟩ := base
  obtain rfl : level = {} := hlevel
  simp [behind, Level.renumber]

theorem atom_behind (base reading : Reading) (k offset : Nat) {node : Node}
    (hatom : node.isAtom = true) (hw : node.WellFormed .part) :
    base.behind k (reading.atom offset node) = (base.behind k reading).atom (k + offset) node := by
  have hnode := Node.renumber_of_isAtom base.captures hatom hw
  unfold Reading.atom
  split
  · simp [behind, Level.push_renumber, hnode]
  · simp [behind, Level.push_renumber, hnode]

theorem opened_behind (base reading : Reading) (k offset : Nat) (enclosure : Enclosure) :
    base.behind k (reading.opened offset enclosure) =
      (base.behind k reading).opened (k + offset) (enclosure.renumber base.captures) := by
  have hlength : ((enclosure.renumber base.captures).capture?).toList.length =
      enclosure.capture?.toList.length := by
    rw [Enclosure.capture?_renumber]
    cases enclosure.capture? <;> rfl
  simp [behind, opened, OpenGroup.behind, Enclosure.name_renumber, hlength, Level.renumber,
    Nat.add_right_comm]

/-- There is room for what has been read behind `base`, and no name comes twice. -/
structure Fits (base reading : Reading) : Prop where
  room : reading.nesting + base.groups.length ≤ nestingLimit
  names : reading.names.Disjoint base.names

theorem Fits.of_steps {base reading next : Reading} {offset : Nat} {token : Token}
    (h : base.Fits next) (hstep : reading.Steps offset token next)
    (hgroups : OpenGroup.ListWellFormed reading.groups) : base.Fits reading where
  room := Nat.le_trans (Nat.add_le_add_right (hstep.nesting_le hgroups) _) h.room
  names := List.disjoint_of_subset_left hstep.names_subset h.names

theorem CanOpen.behind {base reading : Reading} {offset : Nat} {enclosure : Enclosure}
    (h : reading.CanOpen enclosure) (hfits : base.Fits (reading.opened offset enclosure))
    (k : Nat) : (base.behind k reading).CanOpen (enclosure.renumber base.captures) where
  number := by
    intro captured hcaptured
    rw [Enclosure.capture?_renumber, Option.map_eq_some_iff] at hcaptured
    obtain ⟨alone, halone, rfl⟩ := hcaptured
    have hnumber := h.number alone halone
    simp only [Capture.renumber, Reading.behind]
    omega
  name := by
    intro name hname
    rw [Enclosure.name_renumber] at hname
    have hmem : name ∈ (reading.opened offset enclosure).names := by simp [opened, hname]
    exact List.not_mem_append (h.name name hname) fun hbase => hfits.names hmem hbase
  room := by
    have hle := hfits.room
    have hgroups := (reading.opened offset enclosure).length_groups_le_nesting
    simp only [opened, Reading.behind, List.length_append, List.length_map,
      List.length_cons] at hle hgroups ⊢
    omega

/-- A step is the same behind `base`, if what is read fits there. -/
theorem Steps.behind {base reading next : Reading} {offset : Nat} {token : Token}
    (h : reading.Steps offset token next) (hw : token.WellFormed) (hfits : base.Fits next)
    (k : Nat) : (base.behind k reading).Steps (k + offset) token (base.behind k next) := by
  -- what is counted on from `base` are captures, and only openings have new ones
  cases h with
  | bar =>
      have hnext : base.behind k { reading with level := reading.level.bar } =
          { base.behind k reading with level := (base.behind k reading).level.bar } := by
        simp only [Reading.behind, Level.bar_renumber]
      rw [hnext]
      exact .bar
  | atom node =>
      rw [atom_behind base reading k offset hw.1 hw.2]
      exact .atom node
  | @quantifier part parts q hparts hpart =>
      have hparts' : (base.behind k reading).level.parts =
          part.renumber base.captures :: parts.map (Node.renumber base.captures) := by
        simp [Reading.behind, Level.renumber, hparts]
      exact .quantifier q hparts' (by rw [Node.isRepeatable_renumber, hpart])
  | opening enclosure hopen =>
      rw [opened_behind, ← enclosure.opener_renumber base.captures]
      exact .opening _ (hopen.behind hfits k)
  | @closing group groups hopen =>
      have hgroups' : (base.behind k reading).groups = group.behind base.captures k ::
          (groups.map (OpenGroup.behind base.captures k) ++ base.groups) := by
        simp [Reading.behind, hopen]
      have hnode : (group.behind base.captures k).enclosure.node
          (base.behind k reading).level.node? =
            (group.enclosure.node reading.level.node?).renumber base.captures := by
        rw [Reading.behind, Level.node?_renumber, OpenGroup.behind, Enclosure.node_renumber]
      have hnext := @Steps.closing _ (k + offset) _ _ hgroups'
      rw [hnode] at hnext
      exact hnext

/-- A run is the same behind `base` and in front of a closing parenthesis, if all that is read fits
there. -/
theorem run_behind {base final : Reading} {s : List Char} (hlevel : base.level = {})
    (hrun : Reading.run {} 0 s = .ok final) (hfits : base.Fits final) (k : Nat) (t : List Char) :
    base.run k (s ++ ')' :: t) = (base.behind k final).run (k + s.length) (')' :: t) := by
  have hstart : ({} : Reading).Shaped s ∧ (base.Fits {} →
      base.run k (s ++ ')' :: t) =
        (base.behind k {}).run (k + ([] : List Char).length) (s ++ ')' :: t)) := by
    refine ⟨shaped_empty s, fun _ => ?_⟩
    rw [behind_empty hlevel]
    rfl
  -- whether it fits is asked at each reading, since only that of the last one is known
  have hfinal := (run_invariant (P := fun reading front rest => reading.Shaped rest ∧
    (base.Fits reading → base.run k (s ++ ')' :: t) =
      (base.behind k reading).run (k + front.length) (rest ++ ')' :: t))) ?_ hstart).1 final hrun
  · exact hfinal.2 hfits
  · intro reading next front more rest c token ⟨hshaped, hreads⟩ hread hsteps
    have hfound := Token.found_of_read hread
    refine ⟨hshaped.step hfound hsteps, fun hnext => ?_⟩
    have hread' := Token.read_paren (by decide : ')' ∈ parentheses) hread (k + front.length) t
    have hsteps' := hsteps.behind hfound.wellFormed hnext k
    rw [hreads (hnext.of_steps hsteps hshaped.groups), List.append_assoc, List.cons_append]
    rw [List.append_assoc] at hread'
    rw [run_cons_of_read hread' (step_eq_ok_iff.2 hsteps'), List.drop_left, List.length_append,
      List.length_cons]
    congr 1
    omega

/-- The reading after a group without a capture, of which the parenthesis is at the place `offset`
and what is in it has the reading `body` by itself. -/
def grouped (reading : Reading) (offset : Nat) (body : Reading) : Reading :=
  let inner := reading.behind (offset + 3) body
  { inner with
    level := reading.level.push (.group none inner.level.node?)
    groups := reading.groups }

theorem grouped_level (reading : Reading) (offset : Nat) (body : Reading) :
    (reading.grouped offset body).level =
      reading.level.push (.group none (Node.renumberOption reading.captures body.level.node?)) := by
  rw [grouped, behind, Level.node?_renumber]

/-- A pattern in a group is read as it is by itself, behind what has been read. -/
theorem Complete.run_grouped {reading body : Reading} {s : List Char} (h : body.Complete s)
    (hroom : body.nesting + reading.groups.length < nestingLimit)
    (hnames : body.names.Disjoint reading.names) (k : Nat) (t : List Char) :
    reading.run k ('(' :: '?' :: ':' :: s ++ ')' :: t) =
      (reading.grouped k body).run (k + s.length + 4) t := by
  have hopen : reading.Steps k (.opening .plain) (reading.opened k (.group none)) :=
    .opening (.group none) ⟨nofun, nofun, by omega⟩
  have hfits : (reading.opened k (.group none)).Fits body := by
    refine ⟨?_, hnames⟩
    rw [opened, List.length_cons]
    omega
  have hread : Token.read k '(' ('?' :: ':' :: s ++ ')' :: t) = .ok (.opening .plain, 2) := rfl
  have hclose : ((reading.opened k (.group none)).behind (k + 3) body).Steps (k + 3 + s.length)
      .closing (reading.grouped k body) := by
    refine @Steps.closing _ _ ⟨k, .group none, reading.level⟩ _ ?_
    rw [behind, h.groups]
    rfl
  rw [List.cons_append, run_cons_of_read hread (step_eq_ok_iff.2 hopen)]
  -- the body is read behind the opening, as it is at the start of a pattern
  change (reading.opened k (.group none)).run (k + 3) (s ++ ')' :: t) = _
  rw [run_behind rfl h.run hfits, run_cons_of_read rfl (step_eq_ok_iff.2 hclose)]
  congr 1
  omega

theorem Complete.grouped_grouped {first second : Reading} {s t : List Char}
    (h : first.Complete s) (h' : second.Complete t) (hroom : first.nesting < nestingLimit)
    (hroom' : second.nesting < nestingLimit) (hnames : first.names.Disjoint second.names) :
    ((({} : Reading).grouped 0 first).grouped (s.length + 4) second).Complete
      ('(' :: '?' :: ':' :: s ++ ')' :: ('(' :: '?' :: ':' :: t ++ [')'])) where
  run := by
    have hnames' : second.names.Disjoint (({} : Reading).grouped 0 first).names := by
      simpa [grouped, behind] using List.disjoint_symm hnames
    have hfirst := @h.run_grouped {} _ _ hroom (List.disjoint_nil_right _) 0
    have hsecond := @h'.run_grouped (({} : Reading).grouped 0 first) _ _ hroom' hnames'
    rw [hfirst, Nat.zero_add, hsecond (s.length + 4), run_nil]
  groups := rfl
  resolved := by
    have hresolved := h.resolved
    have hresolved' := h'.resolved
    simp only [grouped, behind, List.append_nil, List.mem_append, List.mem_map]
    rintro _ (⟨reference, hreference, rfl⟩ | ⟨reference, hreference, rfl⟩)
    · exact .inl (hresolved' reference hreference)
    · exact .inr (hresolved reference hreference)

end Reading

/-- Two patterns that are accepted make a pattern when each is put in a group and the groups are put
one behind the other, if no name comes twice and no groups become nested too deeply. Its tree is the
row of the two groups. The captures of the second one are numbered on from those of the first one;
apart from that both trees are what they are by themselves. -/
theorem Regex.ofPattern_groups {p q : String} {flags : Flags} {rp rq : Regex}
    (hp : Regex.ofPattern p flags = .ok rp) (hq : Regex.ofPattern q flags = .ok rq)
    (hnames : rp.groupNames.Disjoint rq.groupNames)
    (hroom : Node.nestingOption rp.body < nestingLimit)
    (hroom' : Node.nestingOption rq.body < nestingLimit) :
    Regex.ofPattern ("(?:" ++ p ++ ")(?:" ++ q ++ ")") flags =
      .ok {
        body := some (.alternative
          [.group none rp.body, .group none (Node.renumberOption rp.captures rq.body)])
        flags
        captures := rp.captures + rq.captures } := by
  obtain ⟨first, hfirst, rfl⟩ := ofPattern_eq_ok_iff_complete.1 hp
  obtain ⟨second, hsecond, rfl⟩ := ofPattern_eq_ok_iff_complete.1 hq
  rw [hfirst.groupNames, hsecond.groupNames, List.disjoint_reverse_left,
    List.disjoint_reverse_right] at hnames
  rw [← Reading.nesting_of_groups_eq_nil hfirst.groups] at hroom
  rw [← Reading.nesting_of_groups_eq_nil hsecond.groups] at hroom'
  have hboth := hfirst.grouped_grouped hsecond hroom hroom' hnames
  rw [ofPattern_eq_ok_iff_complete]
  refine ⟨_, by simpa using hboth, ?_⟩
  have hcaptures : (({} : Reading).grouped 0 first).captures = first.captures := rfl
  rw [Reading.grouped_level, Reading.grouped_level, hcaptures, Node.renumberOption_zero]
  simp [Level.push, Level.node?, Reading.grouped, Reading.behind, Nat.add_comm]

/-- The regular expression of `(a)b{2`, whose brace is not closed and so is a character. -/
def Regex.unfinishedBounds : Regex where
  body := some (.alternative [.group (some ⟨1, none⟩) (some (.char (.simple 'a'))),
    .char (.simple 'b'), .char (.simple '{'), .char (.simple '2')])
  flags := {}
  captures := 1

/-- The regular expression of `\1(?<n>c)\u{4`, whose escape is not closed and so is its letter. -/
def Regex.unfinishedEscape : Regex where
  body := some (.alternative [.backreference (.number 1),
    .group (some ⟨1, some "n"⟩) (some (.char (.simple 'c'))),
    .char (.simple 'u'), .char (.simple '{'), .char (.simple '4')])
  flags := {}
  captures := 1

theorem Regex.ofPattern_groups_unfinished :
    Regex.ofPattern "(a)b\x7b2" = .ok unfinishedBounds ∧
      Regex.ofPattern "\\1(?<n>c)\\u\x7b4" = .ok unfinishedEscape ∧
        Regex.ofPattern ("(?:" ++ "(a)b\x7b2" ++ ")(?:" ++ "\\1(?<n>c)\\u\x7b4" ++ ")") =
          .ok {
            body := some (.alternative [.group none unfinishedBounds.body,
              .group none (Node.renumberOption 1 unfinishedEscape.body)])
            flags := {}
            captures := 2 } := by
  have hp : Regex.ofPattern "(a)b\x7b2" = .ok unfinishedBounds :=
    eq_ok_of_toOption_eq_some (by decide +kernel)
  have hq : Regex.ofPattern "\\1(?<n>c)\\u\x7b4" = .ok unfinishedEscape :=
    eq_ok_of_toOption_eq_some (by decide +kernel)
  have hnames : unfinishedBounds.groupNames.Disjoint unfinishedEscape.groupNames := by
    have hnone : unfinishedBounds.groupNames = [] := by decide +kernel
    rw [hnone]
    exact List.disjoint_nil_left _
  exact ⟨hp, hq, Regex.ofPattern_groups hp hq hnames (by decide) (by decide)⟩

end PatternTemplate
