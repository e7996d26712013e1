import PatternTemplate.Proofs.Pattern.Run

/-!
# The shape of what has been read

Every level of a reading holds pieces that can stand in a well-formed tree, and not more groups in
each other than its height leaves room for: a level in `k` open groups may have `nestingLimit - k`
of them (`Level.WellFormed`). One fact concerns the text to come. As long as a numeric reference is
the last piece, no digit follows (`Level.Settled`), since the reference would have taken it; so the
piece that comes next starts with no digit.
-/

namespace PatternTemplate

open Text

theorem Node.nesting_of_isAtom {node : Node} (h : node.isAtom = true)
    (hw : node.WellFormed .part) : node.nesting = 0 := by
  cases node with
  | characterClass negative items =>
      have hitems : ∀ items : List Node, (∀ item ∈ items, item.WellFormedItem) →
          nestingList items = 0 := by
        intro items hitems
        induction items with
        | nil => rfl
        | cons item items ih =>
            have hitem : item.nesting = 0 := by
              have hone := hitems item (by simp)
              cases item <;> first | rfl | exact hone.elim
            simp only [nestingList, hitem, Nat.zero_max]
            exact ih fun other hother => hitems other (by simp [hother])
      exact hitems items hw
  | assertion kind body =>
      have hkind : kind.isLook = false := by simpa [isAtom] using h
      obtain rfl : body = none := by simpa [WellFormed, hkind] using hw
      simp [nesting, nestingOption, hkind]
  | char | classRange | backreference => rfl
  | _ => simp [isAtom] at h

namespace Level

def nesting (level : Level) : Nat :=
  max (Node.nestingOption level.left.join) (Node.nestingList level.parts.reverse)

/-- What has been read at a level can stand in a well-formed tree, in `height` groups. -/
structure WellFormed (height : Nat) (level : Level) : Prop where
  left : ∀ body, level.left = some body → Node.WellFormedOption .body body
  parts : Node.WellFormedList level.parts.reverse
  apart : level.parts.IsChain fun second first => Node.Apart first second
  nesting : level.nesting + height ≤ nestingLimit

theorem wellFormed_empty {height : Nat} (h : height ≤ nestingLimit) :
    ({} : Level).WellFormed height where
  left := nofun
  parts := trivial
  apart := .nil
  nesting := by simpa [nesting, Node.nestingOption, Node.nestingList] using h

theorem nestingOption_node? (level : Level) : Node.nestingOption level.node? = level.nesting := by
  obtain ⟨left, parts⟩ := level
  cases left with
  | none => simp [node?, nesting, Node.nestingOption, Node.nestingOption_ofParts]
  | some left => simp [node?, nesting, Node.nestingOption, Node.nesting, Node.nestingOption_ofParts]

theorem nesting_bar (level : Level) : level.bar.nesting = level.nesting := by
  simp [nesting, bar, nestingOption_node?, Node.nestingList]

theorem nesting_push (level : Level) (part : Node) :
    (level.push part).nesting = max level.nesting part.nesting := by
  simp [nesting, push, Node.nestingList_append, Node.nestingList, Nat.max_assoc]

theorem WellFormed.node? {height : Nat} {level : Level} (h : level.WellFormed height) :
    Node.WellFormedOption .body level.node? := by
  have hright : Node.WellFormedOption .branch (Node.ofParts level.parts.reverse) :=
    Node.wellFormedOption_ofParts (List.isChain_reverse.2 h.apart) h.parts
  have hleft := h.left
  unfold Level.node?
  cases hl : level.left with
  | none => exact hright.of_branch
  | some left => exact ⟨rfl, hleft left hl, hright⟩

theorem WellFormed.bar {height : Nat} {level : Level} (h : level.WellFormed height) :
    level.bar.WellFormed height where
  left := by
    rintro _ ⟨⟩
    exact h.node?
  parts := trivial
  apart := .nil
  nesting := level.nesting_bar ▸ h.nesting

theorem WellFormed.push {height : Nat} {level : Level} {part : Node} (h : level.WellFormed height)
    (hpart : part.WellFormed .part)
    (hlast : ∀ last, level.parts.head? = some last → Node.Apart last part)
    (hroom : part.nesting + height ≤ nestingLimit) : (level.push part).WellFormed height where
  left := h.left
  parts := by
    rw [Level.push, List.reverse_cons, Node.wellFormedList_iff]
    intro node hnode
    rcases List.mem_append.1 hnode with hnode | hnode
    · exact Node.wellFormedList_iff.1 h.parts node hnode
    · exact List.mem_singleton.1 hnode ▸ hpart
  apart := List.isChain_cons.2 ⟨hlast, h.apart⟩
  nesting := by
    have hle := h.nesting
    rw [level.nesting_push]
    omega

theorem WellFormed.of_push {height : Nat} {level : Level} {part : Node}
    (h : (level.push part).WellFormed height) :
    level.WellFormed height ∧ part.WellFormed .part ∧
      (∀ last, level.parts.head? = some last → Node.Apart last part) ∧
        part.nesting + height ≤ nestingLimit := by
  have hparts : ∀ node ∈ level.parts.reverse ++ [part], node.WellFormed .part := by
    have hall := Node.wellFormedList_iff.1 h.parts
    rwa [Level.push, List.reverse_cons] at hall
  obtain ⟨hlast, hchain⟩ := List.isChain_cons.1 h.apart
  have hle := h.nesting
  rw [level.nesting_push] at hle
  refine ⟨⟨h.left, ?_, hchain, ?_⟩, ?_, hlast, ?_⟩
  · rw [Node.wellFormedList_iff]
    intro node hnode
    exact hparts node (List.mem_append_left _ hnode)
  · omega
  · exact hparts part (by simp)
  · omega

/-- A numeric reference that is the last piece of a level is not continued by the text. -/
def Settled (level : Level) (rest : List Char) : Prop :=
  ∀ last, level.parts.head? = some last → last.isNumericReference = true →
    Stops Char.isDigit rest

end Level

theorem Enclosure.node_wellFormed {enclosure : Enclosure} {body : Option Node}
    (hw : enclosure.opener.WellFormed) (h : Node.WellFormedOption .body body) :
    (enclosure.node body).WellFormed .part := by
  match enclosure with
  | .group none => exact ⟨nofun, h⟩
  | .group (some ⟨_, none⟩) => exact ⟨nofun, h⟩
  | .group (some ⟨_, some name⟩) =>
      refine ⟨?_, h⟩
      rintro _ ⟨⟩
      exact hw
  | .look kind =>
      have hkind : kind.isLook = true := hw
      simpa [Enclosure.node, Node.WellFormed, hkind] using h

theorem Enclosure.nesting_node {enclosure : Enclosure} (hw : enclosure.opener.WellFormed)
    (body : Option Node) :
    (enclosure.node body).nesting = Node.nestingOption body + 1 := by
  cases enclosure with
  | group captured => rfl
  | look kind =>
      have hkind : kind.isLook = true := hw
      simp [Enclosure.node, Node.nesting, hkind]

/-- A group or an assertion shows no digit of its own, so it can follow every piece. -/
theorem Enclosure.apart_node (enclosure : Enclosure) (first : Node) (body : Option Node) :
    Node.Apart first (enclosure.node body) := by
  intro _
  cases enclosure <;> rfl

def OpenGroup.ListWellFormed : List OpenGroup → Prop
  | [] => True
  | group :: groups =>
    group.outer.WellFormed groups.length ∧ group.enclosure.opener.WellFormed ∧
      ListWellFormed groups

namespace Reading

/-- What has been read can stand in a well-formed tree. -/
structure Shaped (reading : Reading) (rest : List Char) : Prop where
  level : reading.level.WellFormed reading.groups.length
  groups : OpenGroup.ListWellFormed reading.groups
  settled : reading.level.Settled rest

theorem Shaped.step {reading next : Reading} {offset : Nat} {token : Token}
    {text rest : List Char} (h : reading.Shaped (text ++ rest)) (hfound : token.Found text rest)
    (hstep : reading.Steps offset token next) : next.Shaped rest := by
  obtain ⟨hlevel, hgroups, hsettled⟩ := h
  cases hstep with
  | bar => exact ⟨hlevel.bar, hgroups, nofun⟩
  | atom node =>
      obtain ⟨hatom, hw⟩ := hfound.wellFormed
      have hroom : node.nesting + reading.groups.length ≤ nestingLimit := by
        have hle := hlevel.nesting
        rw [Node.nesting_of_isAtom hatom hw]
        omega
      have hlast : ∀ last, reading.level.parts.head? = some last → Node.Apart last node := by
        -- a digit here would have belonged to the reference in front of it
        intro last hhead hnumeric
        by_contra hstarts
        rw [Bool.not_eq_false] at hstarts
        refine hfound.digit node rfl hstarts ?_
        intro c hc
        refine hsettled last hhead hnumeric c ?_
        rw [List.head?_append, hc, Option.some_or]
      refine ⟨?_, ?_, ?_⟩
      · rw [atom_level, atom_groups]
        exact hlevel.push hw hlast hroom
      · rw [atom_groups]
        exact hgroups
      · rw [atom_level]
        rintro last ⟨⟩ hnumeric
        have hstops := hfound.stops
        match node, hnumeric with
        | .backreference (.number n), _ => exact hstops
  | @quantifier part parts q hparts hpart =>
      -- the repetition takes the place of its body, so it is apart from what is in front
      have hpushed : (Level.push ⟨reading.level.left, parts⟩ part).WellFormed
          reading.groups.length := by
        unfold Level.push
        rwa [← hparts]
      obtain ⟨hfront, hw, hlast, hroom⟩ := hpushed.of_push
      refine ⟨hfront.push ⟨hpart, hfound.wellFormed, hw⟩ hlast hroom, hgroups, ?_⟩
      rintro last ⟨⟩ hnumeric
      exact Bool.noConfusion hnumeric
  | opening enclosure hopen =>
      have hheight : reading.groups.length + 1 ≤ nestingLimit := by
        have hle := hlevel.nesting
        have hroom := hopen.room
        omega
      exact ⟨Level.wellFormed_empty hheight, ⟨hlevel, hfound.wellFormed, hgroups⟩, nofun⟩
  | @closing group groups hopen =>
      rw [hopen] at hgroups hlevel
      obtain ⟨houter, hopener, hgroups⟩ := hgroups
      have hroom : (group.enclosure.node reading.level.node?).nesting + groups.length ≤
          nestingLimit := by
        have hle := hlevel.nesting
        rw [Enclosure.nesting_node hopener, Level.nestingOption_node?]
        rw [List.length_cons] at hle
        omega
      refine ⟨houter.push (Enclosure.node_wellFormed hopener hlevel.node?)
        (fun last _ => group.enclosure.apart_node last _) hroom, hgroups, ?_⟩
      rintro last ⟨⟩ hnumeric
      cases henclosure : group.enclosure <;> rw [henclosure] at hnumeric <;>
        exact Bool.noConfusion hnumeric

theorem shaped_empty (rest : List Char) : ({} : Reading).Shaped rest where
  level := Level.wellFormed_empty (Nat.zero_le _)
  groups := trivial
  settled := nofun

theorem Shaped.run {reading final : Reading} {front s : List Char} (h : reading.Shaped s)
    (hrun : reading.run front.length s = .ok final) : final.Shaped [] := by
  refine run_induction (P := fun reading _ rest => reading.Shaped rest) ?_ hrun rfl h
  intro reading next front text rest token hshaped hfound hsteps
  exact hshaped.step hfound hsteps

end Reading

theorem Regex.wellFormedOption_of_ofPattern {pattern : String} {flags : Flags} {regex : Regex}
    (h : Regex.ofPattern pattern flags = .ok regex) : Node.WellFormedOption .body regex.body := by
  obtain ⟨final, hcomplete, rfl⟩ := Regex.ofPattern_eq_ok_iff_complete.1 h
  have hrun : Reading.run {} ([] : List Char).length pattern.toList = .ok final := hcomplete.run
  exact ((Reading.shaped_empty _).run hrun).level.node?

end PatternTemplate
