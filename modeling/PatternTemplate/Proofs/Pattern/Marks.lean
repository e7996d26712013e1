import Mathlib.Data.List.Nodup
import PatternTemplate.Proofs.Pattern.Shape

/-!
# Captures and references of what has been read

A reading keeps a number of captures, a list of names and a list of named references beside the
pieces it has read. They are no more than what the pieces and the open groups say: the captures met
so far are numbered from one, their names are the names of the reading, and the named references are
those of the reading, all in document order (`Reading.Tallied`).

Both kinds of mark belong to a group that is still open already, whatever its body will be; that is
what `Node.IsMark` asks of a function that picks marks.
-/

namespace PatternTemplate

/-- A function picks marks if it finds none in a node that only joins others, and if what it finds
at a group or an assertion does not depend on the body. -/
structure Node.IsMark {α : Type} (f : Node → Option α) : Prop where
  char : ∀ c, f (.char c) = none
  classRange : ∀ low high, f (.classRange low high) = none
  repetition : ∀ body quantifier, f (.repetition body quantifier) = none
  alternative : ∀ parts, f (.alternative parts) = none
  disjunction : ∀ left right, f (.disjunction left right) = none
  enclosure : ∀ (enclosure : Enclosure) (body : Option Node),
    f (enclosure.node body) = f (enclosure.node none)

theorem Node.isMark_capture? : IsMark capture? where
  char _ := rfl
  classRange _ _ := rfl
  repetition _ _ := rfl
  alternative _ := rfl
  disjunction _ _ := rfl
  enclosure enclosure _ := by cases enclosure <;> rfl

theorem Node.isMark_referencedName? : IsMark referencedName? where
  char _ := rfl
  classRange _ _ := rfl
  repetition _ _ := rfl
  alternative _ := rfl
  disjunction _ _ := rfl
  enclosure enclosure _ := by cases enclosure <;> rfl

theorem Enclosure.capture?_node (enclosure : Enclosure) (body : Option Node) :
    (enclosure.node body).capture? = enclosure.capture? := by
  cases enclosure <;> rfl

section Gather

variable {α : Type} {f : Node → Option α}

theorem Node.gather_of_isAtom (hf : IsMark f) {node : Node} (h : node.isAtom = true)
    (hw : node.WellFormed .part) : gather f node = (f node).toList := by
  cases node with
  | characterClass negative items =>
      -- items are characters and ranges, which have no mark
      have hitems : ∀ items : List Node, (∀ item ∈ items, item.WellFormedItem) →
          gatherList f items = [] := by
        intro items hitems
        induction items with
        | nil => rfl
        | cons item items ih =>
            have hitem : gather f item = [] := by
              have hone := hitems item (by simp)
              cases item with
              | char c => simp [hf.char]
              | classRange low high => simp [hf.classRange]
              | _ => exact hone.elim
            rw [gatherList_cons, hitem, List.nil_append]
            exact ih fun other hother => hitems other (by simp [hother])
      rw [gather_characterClass, hitems items hw, List.append_nil]
  | assertion kind body =>
      have hkind : kind.isLook = false := by simpa [isAtom] using h
      obtain rfl : body = none := by simpa [WellFormed, hkind] using hw
      rw [gather_assertion, gatherOption_none, List.append_nil]
  | char => exact gather_char f _
  | classRange => exact gather_classRange f _ _
  | backreference => exact gather_backreference f _
  | _ => simp [isAtom] at h

theorem Node.gatherOption_ofParts (hf : IsMark f) (parts : List Node) :
    gatherOption f (ofParts parts) = gatherList f parts := by
  match parts with
  | [] => rfl
  | [part] => simp
  | first :: second :: parts => simp [hf.alternative]

theorem Enclosure.gather_node (hf : Node.IsMark f) (enclosure : Enclosure) (body : Option Node) :
    Node.gather f (enclosure.node body) =
      (f (enclosure.node none)).toList ++ Node.gatherOption f body := by
  rw [← hf.enclosure enclosure body]
  cases enclosure with
  | group captured => exact Node.gather_group f captured body
  | look kind => exact Node.gather_assertion f kind body

def Level.gather (f : Node → Option α) (level : Level) : List α :=
  Node.gatherOption f level.left.join ++ Node.gatherList f level.parts.reverse

theorem Level.gather_node? (hf : Node.IsMark f) (level : Level) :
    Node.gatherOption f level.node? = level.gather f := by
  obtain ⟨left, parts⟩ := level
  cases left with
  | none => simp [node?, gather, Node.gatherOption_ofParts hf]
  | some left => simp [node?, gather, Node.gatherOption_ofParts hf, hf.disjunction]

theorem Level.gather_push (level : Level) (part : Node) :
    (level.push part).gather f = level.gather f ++ Node.gather f part := by
  simp [gather, push]

theorem Level.gather_bar (hf : Node.IsMark f) (level : Level) :
    level.bar.gather f = level.gather f := by
  rw [← level.gather_node? hf]
  simp [gather, bar]

def OpenGroup.gatherList (f : Node → Option α) : List OpenGroup → List α
  | [] => []
  | group :: groups =>
    gatherList f groups ++ group.outer.gather f ++ (f (group.enclosure.node none)).toList

def Reading.gather (f : Node → Option α) (reading : Reading) : List α :=
  OpenGroup.gatherList f reading.groups ++ reading.level.gather f

theorem Reading.gather_bar (hf : Node.IsMark f) (reading : Reading) :
    Reading.gather f { reading with level := reading.level.bar } = reading.gather f := by
  rw [gather, gather, Level.gather_bar hf]

theorem Reading.gather_atom (reading : Reading) (offset : Nat) (node : Node) :
    (reading.atom offset node).gather f = reading.gather f ++ Node.gather f node := by
  rw [gather, gather, atom_level, atom_groups, Level.gather_push, List.append_assoc]

theorem Reading.gather_quantifier (hf : Node.IsMark f) {reading : Reading} {part : Node}
    {parts : List Node} (hparts : reading.level.parts = part :: parts) (quantifier : Quantifier) :
    Reading.gather f
        { reading with level := ⟨reading.level.left, .repetition part quantifier :: parts⟩ } =
      reading.gather f := by
  simp [gather, Level.gather, hparts, hf.repetition]

theorem Reading.gather_opened (reading : Reading) (offset : Nat) (enclosure : Enclosure) :
    (reading.opened offset enclosure).gather f =
      reading.gather f ++ (f (enclosure.node none)).toList := by
  simp [gather, opened, OpenGroup.gatherList, Level.gather]

theorem Reading.gather_closing (hf : Node.IsMark f) {reading : Reading} {group : OpenGroup}
    {groups : List OpenGroup} (hgroups : reading.groups = group :: groups) :
    Reading.gather f
        { reading with
          level := group.outer.push (group.enclosure.node reading.level.node?), groups } =
      reading.gather f := by
  simp only [gather, hgroups, OpenGroup.gatherList, Level.gather_push, Enclosure.gather_node hf,
    Level.gather_node? hf, List.append_assoc]

theorem Reading.gather_of_groups_eq_nil (hf : Node.IsMark f) {reading : Reading}
    (h : reading.groups = []) : reading.gather f = Node.gatherOption f reading.level.node? := by
  rw [gather, h, Level.gather_node? hf]
  rfl

end Gather

namespace Reading

theorem gather_capture?_atom (reading : Reading) (offset : Nat) {node : Node}
    (hatom : node.isAtom = true) (hw : node.WellFormed .part) :
    (reading.atom offset node).gather Node.capture? = reading.gather Node.capture? := by
  rw [gather_atom, Node.gather_of_isAtom Node.isMark_capture? hatom hw]
  cases node with
  | group => simp [Node.isAtom] at hatom
  | _ => exact List.append_nil _

theorem gather_capture?_opened (reading : Reading) (offset : Nat) (enclosure : Enclosure) :
    (reading.opened offset enclosure).gather Node.capture? =
      reading.gather Node.capture? ++ enclosure.capture?.toList := by
  rw [gather_opened, Enclosure.capture?_node]

/-- What a reading keeps beside the pieces is what the pieces say. -/
structure Tallied (reading : Reading) : Prop where
  numbers : (reading.gather Node.capture?).map Capture.number =
    List.range' 1 reading.captures
  names : (reading.gather Node.capture?).filterMap Capture.name = reading.names.reverse
  nodup : reading.names.Nodup
  references : reading.gather Node.referencedName? =
    (reading.references.map Prod.snd).reverse

theorem tallied_empty : ({} : Reading).Tallied :=
  ⟨rfl, rfl, .nil, rfl⟩

theorem Tallied.length_captures {reading : Reading} (h : reading.Tallied) :
    (reading.gather Node.capture?).length = reading.captures := by
  rw [← List.length_map Capture.number, h.numbers, List.length_range']

theorem Tallied.atom {reading : Reading} (h : reading.Tallied) (offset : Nat) {node : Node}
    (hatom : node.isAtom = true) (hw : node.WellFormed .part) :
    (reading.atom offset node).Tallied := by
  obtain ⟨hnumbers, hnames, hnodup, hreferences⟩ := h
  have hcaptures := reading.gather_capture?_atom offset hatom hw
  have hreferenced : (reading.atom offset node).gather Node.referencedName? =
      reading.gather Node.referencedName? ++ node.referencedName?.toList := by
    rw [gather_atom, Node.gather_of_isAtom Node.isMark_referencedName? hatom hw]
  cases node with
  | backreference target =>
      cases target with
      | name name =>
          refine ⟨hcaptures ▸ hnumbers, hcaptures ▸ hnames, hnodup, ?_⟩
          rw [hreferenced, hreferences]
          simp [Reading.atom, Node.referencedName?]
      | number n =>
          refine ⟨hcaptures ▸ hnumbers, hcaptures ▸ hnames, hnodup, ?_⟩
          rw [hreferenced, hreferences]
          exact List.append_nil _
  | _ =>
      refine ⟨hcaptures ▸ hnumbers, hcaptures ▸ hnames, hnodup, ?_⟩
      rw [hreferenced, hreferences]
      exact List.append_nil _

theorem Tallied.opened {reading : Reading} (h : reading.Tallied) (offset : Nat)
    {enclosure : Enclosure} (hopen : reading.CanOpen enclosure) :
    (reading.opened offset enclosure).Tallied := by
  obtain ⟨hnumbers, hnames, hnodup, hreferences⟩ := h
  have hcaptures := reading.gather_capture?_opened offset enclosure
  -- the enclosure is still open, so what is in it does not count yet
  have hreferenced : (reading.opened offset enclosure).gather Node.referencedName? =
      reading.gather Node.referencedName? := by
    rw [gather_opened]
    cases enclosure <;> exact List.append_nil _
  have hnumber := hopen.number
  have hname := hopen.name
  refine ⟨?_, ?_, ?_, hreferenced ▸ hreferences⟩
  · rw [hcaptures, List.map_append, hnumbers]
    unfold Reading.opened
    cases hcapture : enclosure.capture? with
    | none => simp
    | some captured => simp [hnumber captured hcapture, List.range'_concat, Nat.add_comm]
  · rw [hcaptures, List.filterMap_append, hnames]
    unfold Reading.opened
    cases hcapture : enclosure.capture? with
    | none => simp
    | some captured => cases hcaptured : captured.name <;> simp [hcaptured]
  · unfold Reading.opened
    cases hbind : enclosure.capture?.bind Capture.name with
    | none => exact hnodup
    | some name => exact List.nodup_cons.2 ⟨hname name hbind, hnodup⟩

theorem Tallied.step {reading next : Reading} {offset : Nat} {token : Token} (h : reading.Tallied)
    (hw : token.WellFormed) (hstep : reading.Steps offset token next) : next.Tallied := by
  -- bars, quantifiers and closings change neither the marks nor what is kept beside them
  have hkeep : ∀ {kept : Reading}, (∀ {α : Type} {f : Node → Option α}, Node.IsMark f →
      kept.gather f = reading.gather f) → kept.captures = reading.captures →
      kept.names = reading.names → kept.references = reading.references → kept.Tallied := by
    intro kept hgather hcaptures hnames hreferences
    obtain ⟨hnumbers, hnamed, hnodup, hreferenced⟩ := h
    rw [← hgather Node.isMark_capture?, ← hcaptures] at hnumbers
    rw [← hgather Node.isMark_capture?, ← hnames] at hnamed
    rw [← hgather Node.isMark_referencedName?, ← hreferences] at hreferenced
    exact ⟨hnumbers, hnamed, hnames ▸ hnodup, hreferenced⟩
  cases hstep with
  | bar => exact hkeep (fun hf => gather_bar hf reading) rfl rfl rfl
  | atom node => exact h.atom offset hw.1 hw.2
  | quantifier q hparts => exact hkeep (fun hf => gather_quantifier hf hparts q) rfl rfl rfl
  | opening enclosure hopen => exact h.opened offset hopen
  | closing hgroups => exact hkeep (fun hf => gather_closing hf hgroups) rfl rfl rfl

theorem Tallied.run {reading final : Reading} {front s : List Char} (h : reading.Tallied)
    (hrun : reading.run front.length s = .ok final) : final.Tallied := by
  refine run_induction (P := fun reading _ _ => reading.Tallied) ?_ hrun rfl h
  intro reading next front text rest token htallied hfound hsteps
  exact htallied.step hfound.wellFormed hsteps

theorem Complete.tallied {final : Reading} {s : List Char} (h : final.Complete s) :
    final.Tallied := by
  have hrun : Reading.run {} ([] : List Char).length s = .ok final := h.run
  exact tallied_empty.run hrun

theorem Complete.groupCaptures {final : Reading} {s : List Char} (h : final.Complete s)
    (flags : Flags) :
    Regex.groupCaptures ⟨final.level.node?, flags, final.captures⟩ =
      final.gather Node.capture? :=
  (gather_of_groups_eq_nil Node.isMark_capture? h.groups).symm

theorem Complete.groupNames {final : Reading} {s : List Char} (h : final.Complete s)
    (flags : Flags) :
    Regex.groupNames ⟨final.level.node?, flags, final.captures⟩ = final.names.reverse := by
  rw [Regex.groupNames, h.groupCaptures, h.tallied.names]

end Reading

/-- Every regular expression that a pattern denotes is well-formed. -/
theorem Regex.wellFormed_of_ofPattern {pattern : String} {flags : Flags} {regex : Regex}
    (h : Regex.ofPattern pattern flags = .ok regex) : regex.WellFormed := by
  obtain ⟨final, hrun, hfinish, -, hcaptures⟩ := Regex.ofPattern_eq_ok_iff.1 h
  obtain ⟨hgroups, hresolved, hbody⟩ := Reading.finish_eq_ok_iff.1 hfinish
  have hrun' : Reading.run {} ([] : List Char).length pattern.toList = .ok final := hrun
  have hshaped := (Reading.shaped_empty _).run hrun'
  have htallied := Reading.tallied_empty.run hrun'
  -- at the end no group is open, so the tree has all the marks of the reading
  have hgather : ∀ {α : Type} {f : Node → Option α}, Node.IsMark f →
      Node.gatherOption f regex.body = final.gather f := by
    intro α f hf
    rw [hbody, Reading.gather_of_groups_eq_nil hf hgroups]
  have hgroupNames : regex.groupNames = final.names.reverse := by
    rw [groupNames, groupCaptures, hgather Node.isMark_capture?, htallied.names]
  refine ⟨?_, ?_, ?_, ?_, ?_⟩
  · rw [hbody]
    exact hshaped.level.node?
  · rw [groupCaptures, hgather Node.isMark_capture?, htallied.numbers, hcaptures]
  · rw [hgroupNames]
    exact List.nodup_reverse.2 htallied.nodup
  · intro name hname
    rw [hgather Node.isMark_referencedName?, htallied.references, List.mem_reverse] at hname
    obtain ⟨reference, hreference, rfl⟩ := List.mem_map.1 hname
    rw [hgroupNames, List.mem_reverse]
    exact hresolved reference hreference
  · have hle := hshaped.level.nesting
    rw [hbody, Level.nestingOption_node?]
    omega

theorem Regex.wellFormed_of_ofPattern_echo :
    Regex.ofPattern "(?<n>a{2,2})|\\1\\k<n>[b-d]*?" = .ok echo ∧ echo.WellFormed := by
  have h : Regex.ofPattern "(?<n>a{2,2})|\\1\\k<n>[b-d]*?" = .ok echo :=
    eq_ok_of_toOption_eq_some (by decide +kernel)
  exact ⟨h, Regex.wellFormed_of_ofPattern h⟩

end PatternTemplate
