import PatternTemplate.Proofs.Pattern.Run

/-!
# A pattern spells the tree it denotes

While a pattern is read, the text so far is cut into the openings of the groups that are still
open, each behind the text of the level it stands in, and the text of the innermost level
(`Reading.Spells`). Every step adds the text of its token at the end and keeps the cut. At the end
no group is open, so all of the pattern spells the tree.
-/

namespace PatternTemplate

namespace Level

/-- The text spells what has been read at a level. -/
def Spells (level : Level) (s : List Char) : Prop :=
  match level.left with
  | none => Node.SpellsList level.parts.reverse s
  | some left =>
    ∃ t u, s = t ++ '|' :: u ∧ Node.SpellsOption left t ∧ Node.SpellsList level.parts.reverse u

theorem spells_empty : ({} : Level).Spells [] :=
  .nil

theorem Spells.node? {level : Level} {s : List Char} (h : level.Spells s) :
    Node.SpellsOption level.node? s := by
  obtain ⟨left, parts⟩ := level
  cases left with
  | none => exact Node.SpellsList.ofParts h
  | some left =>
      obtain ⟨t, u, rfl, hleft, hparts⟩ := h
      exact .some (.disjunction hleft hparts.ofParts)

theorem Spells.bar {level : Level} {s : List Char} (h : level.Spells s) :
    level.bar.Spells (s ++ ['|']) :=
  ⟨s, [], rfl, h.node?, .nil⟩

/-- The text of a level ends with the text of its last part. -/
theorem spells_push_iff {level : Level} {part : Node} {s : List Char} :
    (level.push part).Spells s ↔ ∃ t u, s = t ++ u ∧ level.Spells t ∧ part.Spells u := by
  obtain ⟨left, parts⟩ := level
  unfold push Spells
  simp only [List.reverse_cons, Node.spellsList_append_iff, Node.spellsList_singleton_iff]
  cases left with
  | none => exact Iff.rfl
  | some left =>
      constructor
      · rintro ⟨t, _, rfl, hleft, u, v, rfl, hfront, hpart⟩
        exact ⟨t ++ '|' :: u, v, by simp, ⟨t, u, rfl, hleft, hfront⟩, hpart⟩
      · rintro ⟨_, v, rfl, ⟨t, u, rfl, hleft, hfront⟩, hpart⟩
        exact ⟨t, u ++ v, by simp, hleft, u, v, rfl, hfront, hpart⟩

end Level

theorem Enclosure.node_spells {enclosure : Enclosure} {body : Option Node} {s : List Char}
    (hw : enclosure.opener.WellFormed) (h : Node.SpellsOption body s) :
    (enclosure.node body).Spells (enclosure.opener.text ++ s ++ [')']) := by
  cases enclosure with
  | group captured => exact .group h
  | look kind => exact .look hw h

/-- The text spells the open groups, each of them as far as its opening parenthesis goes. -/
def OpenGroup.ListSpells : List OpenGroup → List Char → Prop
  | [], s => s = []
  | group :: groups, s =>
    ∃ t u, s = t ++ u ++ group.enclosure.opener.text ∧ ListSpells groups t ∧
      group.outer.Spells u ∧ group.enclosure.opener.WellFormed

namespace Reading

/-- The text spells what has been read. -/
def Spells (reading : Reading) (s : List Char) : Prop :=
  ∃ t u, s = t ++ u ∧ OpenGroup.ListSpells reading.groups t ∧ reading.level.Spells u

theorem Spells.step {reading next : Reading} {offset : Nat} {token : Token}
    {s text rest : List Char} (h : reading.Spells s) (hfound : token.Found text rest)
    (hstep : reading.Steps offset token next) : next.Spells (s ++ text) := by
  obtain ⟨t, u, rfl, hgroups, hlevel⟩ := h
  have htext := hfound.spells
  have hw := hfound.wellFormed
  cases hstep with
  | bar =>
      obtain rfl : text = ['|'] := htext
      exact ⟨t, u ++ ['|'], by simp, hgroups, hlevel.bar⟩
  | atom node =>
      refine ⟨t, u ++ text, by simp, ?_, ?_⟩
      · rw [atom_groups]
        exact hgroups
      · rw [atom_level]
        exact Level.spells_push_iff.2 ⟨u, text, rfl, hlevel, htext⟩
  | @quantifier part parts q hparts hpart =>
      -- the text of the repeated part is the end of the text of the level
      have hpushed : (Level.push ⟨reading.level.left, parts⟩ part).Spells u := by
        unfold Level.push
        rwa [← hparts]
      obtain ⟨v, w, rfl, hfront, hlast⟩ := Level.spells_push_iff.1 hpushed
      refine ⟨t, v ++ (w ++ text), by simp, hgroups, ?_⟩
      exact Level.spells_push_iff.2 ⟨v, w ++ text, rfl, hfront, .repetition hlast htext⟩
  | opening enclosure hopen =>
      obtain rfl : text = enclosure.opener.text := htext
      exact ⟨t ++ u ++ enclosure.opener.text, [], by simp, ⟨t, u, rfl, hgroups, hlevel, hw⟩,
        Level.spells_empty⟩
  | @closing group groups hopen =>
      obtain rfl : text = [')'] := htext
      rw [hopen] at hgroups
      obtain ⟨v, w, rfl, hgroups, houter, hopener⟩ := hgroups
      have hnode := Enclosure.node_spells hopener hlevel.node?
      refine ⟨v, w ++ (group.enclosure.opener.text ++ u ++ [')']), by simp, hgroups, ?_⟩
      exact Level.spells_push_iff.2 ⟨w, _, rfl, houter, hnode⟩

theorem Spells.run {reading final : Reading} {front s : List Char} (h : reading.Spells front)
    (hrun : reading.run front.length s = .ok final) : final.Spells (front ++ s) := by
  refine run_induction (P := fun reading front _ => reading.Spells front) ?_ hrun rfl h
  intro reading next front text rest token hspells hfound hsteps
  exact hspells.step hfound hsteps

end Reading

/-- A pattern that is accepted is a spelling of the tree that it denotes. -/
theorem Regex.spells_of_ofPattern {pattern : String} {flags : Flags} {regex : Regex}
    (h : Regex.ofPattern pattern flags = .ok regex) :
    Node.SpellsOption regex.body pattern.toList := by
  obtain ⟨final, hrun, hfinish, -, -⟩ := Regex.ofPattern_eq_ok_iff.1 h
  obtain ⟨hgroups, -, hbody⟩ := Reading.finish_eq_ok_iff.1 hfinish
  have hstart : ({} : Reading).Spells [] := ⟨[], [], rfl, rfl, Level.spells_empty⟩
  obtain ⟨t, u, htext, hopen, hlevel⟩ := hstart.run hrun
  rw [hgroups] at hopen
  obtain rfl : t = [] := hopen
  rw [hbody, ← List.nil_append pattern.toList, htext]
  exact hlevel.node?

theorem Regex.spells_of_ofPattern_echo :
    Regex.ofPattern "(?<n>\\a{2,2})|\\1\\k<n>[b-d]*?" = .ok echo ∧
      Node.SpellsOption echo.body "(?<n>\\a{2,2})|\\1\\k<n>[b-d]*?".toList := by
  have h : Regex.ofPattern "(?<n>\\a{2,2})|\\1\\k<n>[b-d]*?" = .ok echo :=
    eq_ok_of_toOption_eq_some (by decide +kernel)
  exact ⟨h, Regex.spells_of_ofPattern h⟩

end PatternTemplate
