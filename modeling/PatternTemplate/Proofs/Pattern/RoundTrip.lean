import PatternTemplate.Proofs.Pattern.Marks
import PatternTemplate.Proofs.Pattern.Printing

/-!
# Reading what was printed

What is printed for a well-formed regular expression is read as this regular expression
(`Regex.ofPattern_print`). The tokens of a tree are read back one by one, since every printed piece
stops where it ends (`Node.StopsAt`), and each takes the reading to the level that holds the pieces
printed so far (`Level.Leads`). A group can be opened if its capture is the next one; that follows
from the captures that a reading has met and those to come being numbered in document order
(`Level.Allows`).
-/

namespace PatternTemplate

open Text

/-! ### Where printed pieces meet -/

namespace Node

/-- The text behind a part does not go on with a character that would belong to the part. -/
def StopsAt : Node → List Char → Prop
  | repetition _ quantifier, s => quantifier.greedy = true → Stops (· == '?') s
  | backreference (.number _), s => Stops Char.isDigit s
  | _, _ => True

structure RowStopsAt (s : List Char) : Prop where
  question : Stops (· == '?') s
  digit : Stops Char.isDigit s

theorem rowStopsAt_nil : RowStopsAt [] := ⟨stops_nil _, stops_nil _⟩

theorem rowStopsAt_bar (s : List Char) : RowStopsAt ('|' :: s) := ⟨by simp, by simp⟩

theorem rowStopsAt_closing (s : List Char) : RowStopsAt (')' :: s) := ⟨by simp, by simp⟩

theorem RowStopsAt.stopsAt {s : List Char} (h : RowStopsAt s) (node : Node) : node.StopsAt s := by
  match node with
  | repetition _ _ => exact fun _ => h.question
  | backreference (.number _) => exact h.digit
  | backreference (.name _) | char _ | group _ _ | alternative _ | disjunction _ _
  | assertion _ _ | characterClass _ _ | classRange _ _ => trivial

theorem stops_print {node : Node} (hw : node.WellFormed .part) (rest : List Char) :
    Stops (· == '?') (node.print ++ rest) ∧
      (node.startsWithDigit = false → Stops Char.isDigit (node.print ++ rest)) := by
  match node, hw with
  | .char character, hw =>
      have h := Character.readFrom_print hw
      rw [print]
      generalize character.print false = text at h
      cases h with
      | @bare c hc =>
          have hquestion : c ≠ '?' := by
            rintro rfl
            simp [specialCharacters] at hc
          simpa [startsWithDigit, Character.simple] using hquestion
      | dot h => simp
      | escape => simp
  | .group none _, _ | .group (some ⟨_, none⟩) _, _ | .group (some ⟨_, some _⟩) _, _ =>
      simp [print, Opener.ofCapture, Opener.text]
  | .repetition body quantifier, hw =>
      rw [print, List.append_assoc]
      -- a repetition begins with its body
      exact stops_print hw.2.2 _
  | .assertion kind body, _ =>
      cases kind <;> simp [print, AssertionKind.isLook, AssertionKind.opening]
  | .characterClass negative items, _ => simp [print]
  | .backreference (.number _), _ | .backreference (.name _), _ =>
      simp [print, Backreference.print]
  | .alternative parts, hw => exact absurd rfl hw.1
  | .disjunction left right, hw => exact Place.noConfusion hw.1

theorem stops_printList {parts : List Node} (hw : WellFormedList parts) {rest : List Char}
    (hrest : Stops (· == '?') rest) : Stops (· == '?') (printList parts ++ rest) := by
  cases parts with
  | nil => exact hrest
  | cons part parts =>
      rw [printList, List.append_assoc]
      exact (stops_print hw.1 _).1

theorem stops_printOption {place : Place} {body : Option Node} (hw : WellFormedOption place body)
    {rest : List Char} (hrest : Stops (· == '?') rest) :
    Stops (· == '?') (printOption body ++ rest) := by
  cases body with
  | none => exact hrest
  | some node =>
      rcases WellFormed.part_or hw with hpart | ⟨parts, rfl⟩ | ⟨left, right, rfl⟩
      · exact (stops_print hpart rest).1
      · exact stops_printList hw.2.2.2 hrest
      · rw [printOption, print, List.append_assoc]
        exact stops_printOption hw.2.1 (by simp)
termination_by sizeOf body

theorem stopsAt_printQuantifier {node : Node} (h : node.isRepeatable = true)
    (quantifier : Quantifier) (rest : List Char) :
    node.StopsAt (quantifier.print ++ rest) := by
  match node, h with
  | .backreference (.number _), _ =>
      obtain ⟨count, greedy⟩ := quantifier
      match count with
      | .star | .plus | .optional | .exact _ | .range _ none | .range _ (some _) =>
          simp [StopsAt, Quantifier.print, Quantifier.Count.print]
  | .repetition _ _, h => exact Bool.noConfusion h
  | .backreference (.name _), _ | .char _, _ | .group _ _, _ | .alternative _, _
  | .disjunction _ _, _ | .assertion _ _, _ | .characterClass _ _, _ | .classRange _ _, _ =>
      trivial

theorem stopsAt_printList {part : Node} {parts : List Node} (hw : WellFormedList parts)
    (hc : (part :: parts).IsChain Apart) {rest : List Char} (hrest : RowStopsAt rest) :
    part.StopsAt (printList parts ++ rest) := by
  cases parts with
  | nil => exact hrest.stopsAt part
  | cons next parts =>
      obtain ⟨hquestion, hdigit⟩ := stops_print hw.1 (printList parts ++ rest)
      have hapart := (List.isChain_cons_cons.1 hc).1
      rw [printList, List.append_assoc]
      match part, hapart with
      | .repetition _ _, _ => exact fun _ => hquestion
      | .backreference (.number _), hapart => exact hdigit (hapart rfl)
      | .backreference (.name _), _ | .char _, _ | .group _ _, _ | .alternative _, _
      | .disjunction _ _, _ | .assertion _ _, _ | .characterClass _ _, _ | .classRange _ _, _ =>
          trivial

end Node

/-! ### Captures to come -/

namespace Level

def captures (groups : List OpenGroup) (level : Level) : List Capture :=
  OpenGroup.gatherList Node.capture? groups ++ level.gather Node.capture?

/-- A level in open groups can be followed by these captures, with `height` groups in each other:
the captures go on with the numbers of those before, no name comes twice, and there is room for the
groups. -/
structure Allows (groups : List OpenGroup) (level : Level) (pending : List Capture)
    (height : Nat) : Prop where
  numbers : (level.captures groups ++ pending).map Capture.number =
    List.range' 1 (level.captures groups ++ pending).length
  names : ((level.captures groups ++ pending).filterMap Capture.name).Nodup
  room : groups.length + height ≤ nestingLimit

section Allows

variable {groups : List OpenGroup} {level next : Level} {front back : List Capture}
  {height lower : Nat}

theorem Allows.of_append (h : Allows groups level (front ++ back) height) (hle : lower ≤ height) :
    Allows groups level front lower := by
  have hnumbers := h.numbers
  have hnames := h.names
  rw [← List.append_assoc] at hnumbers hnames
  refine ⟨?_, ?_, Nat.le_trans (Nat.add_le_add_left hle _) h.room⟩
  · rw [List.map_append, List.length_append, ← List.range'_append_1] at hnumbers
    exact (List.append_inj hnumbers (by simp)).1
  · rw [List.filterMap_append] at hnames
    exact hnames.of_append_left

theorem Allows.of_captures (h : Allows groups level (front ++ back) height)
    (hnext : next.captures groups = level.captures groups ++ front) (hle : lower ≤ height) :
    Allows groups next back lower := by
  have hnumbers := h.numbers
  have hnames := h.names
  rw [← List.append_assoc, ← hnext] at hnumbers hnames
  exact ⟨hnumbers, hnames, Nat.le_trans (Nat.add_le_add_left hle _) h.room⟩

theorem Allows.opened {enclosure : Enclosure}
    (h : Allows groups level (enclosure.capture?.toList ++ back) (height + 1)) (offset : Nat) :
    Allows (⟨offset, enclosure, level⟩ :: groups) {} back height := by
  have hcaptures : ({} : Level).captures (⟨offset, enclosure, level⟩ :: groups) =
      level.captures groups ++ enclosure.capture?.toList := by
    simp [captures, OpenGroup.gatherList, Level.gather, Enclosure.capture?_node]
  have hnumbers := h.numbers
  have hnames := h.names
  have hroom := h.room
  rw [← List.append_assoc, ← hcaptures] at hnumbers hnames
  refine ⟨hnumbers, hnames, ?_⟩
  rw [List.length_cons]
  omega

/-- If the next capture is that of an enclosure, then a tallied reading can open it. -/
theorem Allows.canOpen {reading : Reading} {enclosure : Enclosure}
    (h : Allows reading.groups reading.level (enclosure.capture?.toList ++ back) (height + 1))
    (htallied : reading.Tallied) : reading.CanOpen enclosure := by
  have hone := h.of_append (Nat.le_refl (height + 1))
  have hcaptures : reading.level.captures reading.groups = reading.gather Node.capture? := rfl
  have hnumbers := hone.numbers
  have hnames := hone.names
  have hroom := h.room
  rw [hcaptures] at hnumbers hnames
  have hlength := htallied.length_captures
  refine ⟨?_, ?_, by omega⟩
  · intro captured hcaptured
    simpa [hcaptured, htallied.numbers, hlength, List.range'_concat, Nat.add_comm] using hnumbers
  · intro name hname hmem
    obtain ⟨captured, hcaptured, hcapture⟩ := Option.bind_eq_some_iff.1 hname
    rw [hcaptured, List.filterMap_append, htallied.names] at hnames
    have hnodup : (reading.names.reverse ++ [name]).Nodup := by simpa [hcapture] using hnames
    exact List.disjoint_of_nodup_append hnodup (List.mem_reverse.2 hmem) (by simp)

end Allows

end Level

theorem Token.opening_stopsAt {opener : Opener} {s : List Char} (hs : Stops (· == '?') s) :
    (opening opener).StopsAt s := by
  match opener with
  | .capture none => exact hs
  | .capture (some _) | .plain | .look _ => trivial

namespace Level

/-! ### Levels to which printed text leads -/

/-- In front of the rest, the text takes every tallied reading at a level of open groups to one at
the next level of these groups. -/
def Leads (groups : List OpenGroup) (level : Level) (text rest : List Char) (next : Level) : Prop :=
  ∀ (reading : Reading) (offset : Nat), reading.Tallied → reading.groups = groups →
    reading.level = level → ∃ later : Reading, later.Tallied ∧ later.groups = groups ∧
      later.level = next ∧ reading.run offset (text ++ rest) = later.run (offset + text.length) rest

section Leads

variable {groups : List OpenGroup} {level next last : Level} {rest : List Char}

theorem leads_nil : Leads groups level [] rest level := by
  intro reading offset htallied hgroups hlevel
  exact ⟨reading, htallied, hgroups, hlevel, rfl⟩

theorem Leads.trans {front back : List Char} (h : Leads groups level front (back ++ rest) next)
    (hnext : Leads groups next back rest last) : Leads groups level (front ++ back) rest last := by
  intro reading offset htallied hgroups hlevel
  obtain ⟨middle, htallied, hgroups, hlevel, hrun⟩ := h reading offset htallied hgroups hlevel
  obtain ⟨later, htallied, hgroups, hlevel, hrun'⟩ :=
    hnext middle (offset + front.length) htallied hgroups hlevel
  refine ⟨later, htallied, hgroups, hlevel, ?_⟩
  rw [List.append_assoc, hrun, hrun', List.length_append, Nat.add_assoc]

theorem run_of_readFrom {reading later : Reading} {token : Token} {text : List Char}
    {offset : Nat} (h : token.ReadFrom text rest) (hstep : reading.Steps offset token later) :
    reading.run offset (text ++ rest) = later.run (offset + text.length) rest := by
  obtain ⟨c, more, rfl, hread⟩ := h
  rw [List.cons_append, Reading.run_cons_of_read (hread offset) (Reading.step_eq_ok_iff.2 hstep),
    List.drop_left, List.length_cons, Nat.add_assoc, Nat.add_comm 1]

/-- A token leads to the level that it makes at once, if it neither opens nor closes a group. -/
theorem leads_token {token : Token} (hw : token.WellFormed) (hstops : token.StopsAt rest)
    (hstep : ∀ (reading : Reading) (offset : Nat), reading.level = level →
      ∃ later : Reading, reading.Steps offset token later ∧ later.groups = reading.groups ∧
        later.level = next) : Leads groups level token.print rest next := by
  intro reading offset htallied hgroups hlevel
  obtain ⟨later, hsteps, hsame, hlater⟩ := hstep reading offset hlevel
  exact ⟨later, htallied.step hw hsteps, hsame.trans hgroups, hlater,
    run_of_readFrom (Token.readFrom_print hw hstops) hsteps⟩

theorem leads_bar : Leads groups level ['|'] rest level.bar := by
  change Leads groups level (Token.print .bar) rest level.bar
  refine leads_token trivial trivial ?_
  rintro reading offset rfl
  exact ⟨_, .bar, rfl, rfl⟩

theorem leads_atom {node : Node} (hatom : node.isAtom = true) (hw : node.WellFormed .part)
    (hstops : node.StopsAt rest) : Leads groups level node.print rest (level.push node) := by
  have hstops' : (Token.atom node).StopsAt rest := by
    match node, hatom, hstops with
    | .backreference (.number _), _, hstops => exact hstops
    | .backreference (.name _), _, _ | .char _, _, _ | .assertion _ _, _, _
    | .characterClass _ _, _, _ => trivial
  change Leads groups level (Token.print (.atom node)) rest (level.push node)
  refine leads_token ⟨hatom, hw⟩ hstops' ?_
  rintro reading offset rfl
  exact ⟨_, .atom node, reading.atom_groups offset node, reading.atom_level offset node⟩

theorem leads_quantifier {part : Node} {quantifier : Quantifier}
    (hw : quantifier.count.WellFormed) (hpart : part.isRepeatable = true)
    (hstops : quantifier.greedy = true → Stops (· == '?') rest) :
    Leads groups (level.push part) quantifier.print rest
      (level.push (.repetition part quantifier)) := by
  change Leads groups (level.push part) (Token.print (.quantifier quantifier)) rest _
  refine leads_token hw hstops ?_
  intro reading offset hlevel
  have hparts : reading.level.parts = part :: level.parts := by rw [hlevel, push]
  refine ⟨_, .quantifier quantifier hparts hpart, rfl, ?_⟩
  rw [hlevel]
  rfl

/-- A body between an opening and a closing parenthesis is read as the enclosure of it. -/
theorem leads_enclosure {enclosure : Enclosure} {body : Option Node} {text : List Char}
    {pending : List Capture} {height : Nat} (hw : enclosure.opener.WellFormed)
    (hstops : (Token.opening enclosure.opener).StopsAt (text ++ ')' :: rest))
    (hallows : level.Allows groups (enclosure.capture?.toList ++ pending) (height + 1))
    (hbody : ∀ offset, ∃ inner : Level, inner.node? = body ∧
      Leads (⟨offset, enclosure, level⟩ :: groups) {} text (')' :: rest) inner) :
    Leads groups level (enclosure.opener.text ++ text ++ [')']) rest
      (level.push (enclosure.node body)) := by
  have hopening : (Token.opening enclosure.opener).ReadFrom enclosure.opener.text
      (text ++ ')' :: rest) := Token.readFrom_opening hw hstops
  have hclosing : Token.closing.ReadFrom [')'] rest := ⟨')', [], rfl, fun _ => rfl⟩
  have hclosed : Token.closing.WellFormed := trivial
  rintro reading offset htallied rfl rfl
  obtain ⟨inner, hinner, hleads⟩ := hbody offset
  have hopen : reading.CanOpen enclosure := hallows.canOpen htallied
  obtain ⟨last, htallied, hgroups, hlevel, hrun⟩ :=
    hleads _ (offset + enclosure.opener.text.length) (htallied.opened offset hopen) rfl rfl
  -- the body was read in one more group, which is the one that is closed now
  have hsteps := fun place => @Reading.Steps.closing last place _ _ hgroups
  refine ⟨_, htallied.step hclosed (hsteps 0), rfl, ?_, ?_⟩
  · rw [hlevel, hinner]
  · rw [List.append_assoc, List.append_assoc, List.singleton_append,
      run_of_readFrom hopening (.opening enclosure hopen), hrun, ← List.singleton_append,
      run_of_readFrom hclosing (hsteps _)]
    simp [Nat.add_assoc]

end Leads

/-! ### Trees -/

mutual

theorem leads_print {node : Node} (hw : node.WellFormed .part) {groups : List OpenGroup}
    {level : Level} {rest : List Char}
    (hallows : level.Allows groups (node.gather Node.capture?) node.nesting)
    (hstops : node.StopsAt rest) : Leads groups level node.print rest (level.push node) := by
  match node, hw, hallows, hstops with
  | .char _, hw, _, hstops | .characterClass _ _, hw, _, hstops
  | .backreference _, hw, _, hstops => exact leads_atom rfl hw hstops
  | .group capture body, ⟨hname, hw⟩, hallows, _ =>
      have hopener : (Enclosure.group capture).opener.WellFormed := by
        match capture, hname with
        | none, _ | some ⟨_, none⟩, _ => trivial
        | some ⟨_, some name⟩, hname => exact hname name rfl
      rw [Node.gather_group, Node.nesting] at hallows
      rw [Node.print]
      refine leads_enclosure hopener ?_ hallows fun offset => ?_
      · exact Token.opening_stopsAt (Node.stops_printOption hw (by simp))
      · exact leads_printOption hw (hallows.opened offset) (Node.rowStopsAt_closing rest)
  | .assertion kind body, hw, hallows, hstops =>
      rw [Node.gather_assertion, Node.nesting] at hallows
      cases hkind : kind.isLook with
      | true =>
          have hopener : (Enclosure.look kind).opener.WellFormed := hkind
          simp only [hkind, Bool.toNat_true] at hallows
          rw [Node.WellFormed, if_pos hkind] at hw
          rw [Node.print, if_pos hkind]
          refine leads_enclosure hopener trivial hallows fun offset => ?_
          exact leads_printOption hw (hallows.opened offset) (Node.rowStopsAt_closing rest)
      | false =>
          exact leads_atom (by simp [Node.isAtom, hkind]) hw hstops
  | .repetition body quantifier, ⟨hpart, hcount, hw⟩, hallows, hstops =>
      rw [Node.gather_repetition, Node.nesting] at hallows
      -- the body is read first, and the quantifier then applies to it
      have hbody := leads_print hw hallows (Node.stopsAt_printQuantifier hpart quantifier rest)
      exact hbody.trans (leads_quantifier hcount hpart hstops)
  | .alternative parts, hw, _, _ => exact absurd rfl hw.1
  | .disjunction left right, hw, _, _ => exact Node.Place.noConfusion hw.1
termination_by (sizeOf node, 0)

theorem leads_printList {parts : List Node} (hw : Node.WellFormedList parts)
    (hc : parts.IsChain Node.Apart) {groups : List OpenGroup} {level : Level} {rest : List Char}
    (hallows : level.Allows groups (Node.gatherList Node.capture? parts) (Node.nestingList parts))
    (hrest : Node.RowStopsAt rest) :
    Leads groups level (Node.printList parts) rest ⟨level.left, parts.reverse ++ level.parts⟩ := by
  cases parts with
  | nil => exact leads_nil
  | cons part parts =>
      have hstops := Node.stopsAt_printList hw.2 hc hrest
      rw [Node.gatherList_cons, Node.nestingList] at hallows
      have hnext : Level.Allows groups (level.push part) (Node.gatherList Node.capture? parts)
          (Node.nestingList parts) := by
        refine hallows.of_captures ?_ (Nat.le_max_right ..)
        rw [captures, captures, gather_push, List.append_assoc]
      have hothers := leads_printList hw.2 hc.tail hnext hrest
      rw [Node.printList, List.reverse_cons, List.append_assoc]
      exact (leads_print hw.1 (hallows.of_append (Nat.le_max_left ..)) hstops).trans hothers
termination_by (sizeOf parts, 0)

theorem leads_printBranch {body : Option Node} (hw : Node.WellFormedOption .branch body)
    {groups : List OpenGroup} {left : Option (Option Node)} {rest : List Char}
    (hallows : Level.Allows groups ⟨left, []⟩ (Node.gatherOption Node.capture? body)
      (Node.nestingOption body)) (hrest : Node.RowStopsAt rest) :
    ∃ parts, Node.ofParts parts.reverse = body ∧
      Leads groups ⟨left, []⟩ (Node.printOption body) rest ⟨left, parts⟩ := by
  cases body with
  | none => exact ⟨[], rfl, leads_nil⟩
  | some node =>
      rcases Node.WellFormed.part_or hw with hpart | ⟨parts, rfl⟩ | ⟨_, _, rfl⟩
      · exact ⟨[node], rfl, leads_print hpart hallows (hrest.stopsAt node)⟩
      · obtain ⟨-, hlength, hc, hparts⟩ := hw
        rw [Node.gatherOption_some, Node.gather_alternative, Node.nestingOption,
          Node.nesting] at hallows
        have hrow := leads_printList hparts hc hallows hrest
        rw [List.append_nil] at hrow
        refine ⟨parts.reverse, ?_, hrow⟩
        match parts, hlength with
        | first :: second :: parts, _ => rw [List.reverse_reverse, Node.ofParts_cons_cons]
      · exact Node.Place.noConfusion hw.1
termination_by (sizeOf body, 0)

theorem leads_printOption {body : Option Node} (hw : Node.WellFormedOption .body body)
    {groups : List OpenGroup} {rest : List Char}
    (hallows : Level.Allows groups {} (Node.gatherOption Node.capture? body)
      (Node.nestingOption body)) (hrest : Node.RowStopsAt rest) :
    ∃ level : Level, level.node? = body ∧
      Leads groups {} (Node.printOption body) rest level := by
  -- a body that is no choice is handed on whole, hence the second component of the measure
  rcases hw.branch_or with hbranch | ⟨left, right, rfl⟩
  · obtain ⟨parts, hparts, hleads⟩ := leads_printBranch hbranch hallows hrest
    exact ⟨⟨none, parts⟩, hparts, hleads⟩
  · obtain ⟨-, hleft, hright⟩ := hw
    rw [Node.gatherOption_some, Node.gather_disjunction, Node.isMark_capture?.disjunction,
      Option.toList_none, List.nil_append, Node.nestingOption, Node.nesting] at hallows
    obtain ⟨inner, hinner, hleads⟩ :=
      leads_printOption hleft (hallows.of_append (Nat.le_max_left ..))
        (Node.rowStopsAt_bar (Node.printOption right ++ rest))
    have hcaptures : inner.bar.captures groups =
        ({} : Level).captures groups ++ Node.gatherOption Node.capture? left := by
      rw [captures, gather_bar Node.isMark_capture?, ← inner.gather_node? Node.isMark_capture?,
        hinner]
      simp [captures, gather]
    have hbar : inner.bar = ⟨some left, []⟩ := by rw [bar, hinner]
    have hnext := hallows.of_captures hcaptures (Nat.le_max_right ..)
    rw [hbar] at hnext
    obtain ⟨parts, hparts, hleads'⟩ := leads_printBranch hright hnext hrest
    refine ⟨⟨some left, parts⟩, ?_, ?_⟩
    · rw [node?, hparts]
    · have hstep : Leads groups inner ['|'] (Node.printOption right ++ rest) ⟨some left, []⟩ :=
        hbar ▸ leads_bar
      exact hleads.trans (hstep.trans hleads')
termination_by (sizeOf body, 1)

end

end Level

/-- What is printed for a well-formed regular expression is read as this regular expression. -/
theorem Regex.ofPattern_print {regex : Regex} (hw : regex.WellFormed) :
    Regex.ofPattern regex.print regex.flags = .ok regex := by
  have hlength : regex.groupCaptures.length = regex.captures := by
    rw [← List.length_map Capture.number, hw.numbers, List.length_range']
  have hallows : Level.Allows [] {} regex.groupCaptures (Node.nestingOption regex.body) := by
    have hcaptures : ({} : Level).captures [] = [] := rfl
    refine ⟨?_, ?_, ?_⟩
    · rw [hcaptures, List.nil_append, hlength]
      exact hw.numbers
    · rw [hcaptures, List.nil_append]
      exact hw.names
    · rw [List.length_nil, Nat.zero_add]
      exact hw.nesting
  obtain ⟨level, hbody, hleads⟩ :=
    Level.leads_printOption hw.shape hallows Node.rowStopsAt_nil
  obtain ⟨final, htallied, hgroups, hlevel, hrun⟩ := hleads {} 0 Reading.tallied_empty rfl rfl
  -- the reading holds the whole tree, so its counts are those of the tree
  have hgather : ∀ {α : Type} {f : Node → Option α}, Node.IsMark f →
      final.gather f = Node.gatherOption f regex.body := by
    intro α f hf
    rw [Reading.gather_of_groups_eq_nil hf hgroups, hlevel, hbody]
  have hnames : regex.groupNames = final.names.reverse := by
    rw [groupNames, groupCaptures, ← hgather Node.isMark_capture?, htallied.names]
  have hcaptures : regex.captures = final.captures := by
    rw [← hlength, groupCaptures, ← hgather Node.isMark_capture?, htallied.length_captures]
  rw [Regex.ofPattern_eq_ok_iff]
  refine ⟨final, ?_, ?_, rfl, hcaptures⟩
  · rw [print, String.toList_ofList]
    rw [List.append_nil, Reading.run_nil] at hrun
    exact hrun
  · rw [Reading.finish_eq_ok_iff]
    refine ⟨hgroups, ?_, hlevel ▸ hbody.symm⟩
    intro reference hreference
    rw [← List.mem_reverse, ← hnames]
    refine hw.references _ ?_
    rw [← hgather Node.isMark_referencedName?, htallied.references, List.mem_reverse]
    exact List.mem_map_of_mem hreference

theorem Regex.ofPattern_print_echo :
    echo.WellFormed ∧ Regex.ofPattern echo.print echo.flags = .ok echo := by
  have hname : IsGroupName "n" := ⟨'n', [], rfl, by decide, by simp⟩
  have hchar : ∀ inClass c, (Character.simple c).WellFormed inClass := fun _ => .simple
  have hcount : Quantifier.Count.WellFormed (.exact 2) := by
    change 2 ≤ numberLimit
    decide
  have hclass : ∀ item ∈ [Node.classRange (.simple 'b') (.simple 'd')], item.WellFormedItem := by
    intro item hitem
    obtain rfl := List.mem_singleton.1 hitem
    exact ⟨hchar true 'b', hchar true 'd', 98, 100, rfl, rfl, by decide⟩
  have hw : echo.WellFormed := by
    refine ⟨⟨rfl, ⟨?_, rfl, hcount, hchar false 'a'⟩, by decide, by decide, ?_, ?_⟩, rfl,
      by decide, by decide, by decide⟩
    · rintro _ ⟨⟩
      exact hname
    · simp [Node.Apart, Node.isNumericReference, Node.startsWithDigit]
    · exact ⟨⟨Nat.le_refl 1, by decide⟩, hname, ⟨rfl, trivial, hclass⟩, trivial⟩
  exact ⟨hw, Regex.ofPattern_print hw⟩

end PatternTemplate
