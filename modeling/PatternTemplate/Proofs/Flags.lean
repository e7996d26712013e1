import PatternTemplate.Flags

/-!
# Which strings are sets of flags

A string is a set of flags if each of its letters stands for a flag and none occurs again
(`FlagRow`). Its order does not matter: the set holds the flags of the letters read so far
(`Flags.Holds`), which is what every letter keeps, and displaying the set sorts the letters. A
string that is no such row is refused at the letter at which it stops being one, so nothing behind
that letter counts.
-/

namespace PatternTemplate

def Flag.alphabet : List Char :=
  ['d', 'g', 'i', 'm', 's', 'u', 'v', 'y']

theorem Flag.map_letter_all : all.map letter = alphabet := rfl

theorem Flag.mem_alphabet_iff {c : Char} : c ∈ alphabet ↔ ∃ f, letter f = c := by
  rw [← map_letter_all, List.mem_map]
  constructor
  · rintro ⟨f, -, hf⟩
    exact ⟨f, hf⟩
  · rintro ⟨f, hf⟩
    exact ⟨f, mem_all f, hf⟩

theorem Flag.ofLetter?_eq_none_iff {c : Char} : ofLetter? c = none ↔ c ∉ alphabet := by
  simp [Option.eq_none_iff_forall_ne_some, ofLetter?_eq_some_iff, mem_alphabet_iff]

/-- Letters of flags, none of them twice. -/
structure FlagRow (cs : List Char) : Prop where
  mem_alphabet : ∀ c ∈ cs, c ∈ Flag.alphabet
  nodup : cs.Nodup

/-- The error for the letter `c` behind the letters `front`: it stands for no flag, or it occurs
again. -/
inductive FlagError.Refuses (front : List Char) (c : Char) : FlagError → Prop
  | invalid (h : c ∉ Flag.alphabet) : Refuses front c (.invalid c)
  | duplicate (h : c ∈ front) : Refuses front c (.duplicate c)

namespace FlagRow

theorem nil : FlagRow [] where
  mem_alphabet := by simp
  nodup := List.nodup_nil

theorem append_singleton {front : List Char} {c : Char} (h : FlagRow front)
    (hc : c ∈ Flag.alphabet) (hnew : c ∉ front) : FlagRow (front ++ [c]) where
  mem_alphabet d hd := by
    rcases List.mem_append.1 hd with hd | hd
    · exact h.mem_alphabet d hd
    · rwa [List.mem_singleton.1 hd]
  nodup := by
    rw [List.nodup_append]
    refine ⟨h.nodup, List.pairwise_singleton _ _, ?_⟩
    intro a ha b hb hab
    rw [List.mem_singleton.1 hb] at hab
    exact hnew (hab ▸ ha)

theorem of_append {front back : List Char} (h : FlagRow (front ++ back)) : FlagRow front where
  mem_alphabet c hc := h.mem_alphabet c (List.mem_append_left back hc)
  nodup := (List.nodup_append.1 h.nodup).1

theorem perm {cs ds : List Char} (h : FlagRow cs) (hperm : ds.Perm cs) : FlagRow ds where
  mem_alphabet c hc := h.mem_alphabet c (hperm.mem_iff.1 hc)
  nodup := hperm.nodup_iff.2 h.nodup

/-- Letters either go on being a row or stop at a first letter that is refused. -/
theorem append_or {front : List Char} (h : FlagRow front) (cs : List Char) :
    FlagRow (front ++ cs) ∨
      ∃ before c after error, cs = before ++ c :: after ∧ FlagRow (front ++ before) ∧
        FlagError.Refuses (front ++ before) c error := by
  induction cs generalizing front with
  | nil =>
      left
      rwa [List.append_nil]
  | cons c cs ih =>
      have hfront : FlagRow (front ++ []) := by rwa [List.append_nil]
      by_cases hc : c ∈ Flag.alphabet
      · by_cases hnew : c ∈ front
        · exact .inr ⟨[], c, cs, .duplicate c, rfl, hfront,
            .duplicate (List.mem_append_left [] hnew)⟩
        · rcases ih (h.append_singleton hc hnew) with hrow | ⟨before, d, after, error, hcs, hrow, hd⟩
          · left
            rwa [List.append_cons]
          · right
            refine ⟨c :: before, d, after, error, congrArg (c :: ·) hcs, ?_, ?_⟩
            · rwa [List.append_cons]
            · rwa [List.append_cons]
      · exact .inr ⟨[], c, cs, .invalid c, rfl, hfront, .invalid hc⟩

end FlagRow

namespace Flags

def Holds (flags : Flags) (cs : List Char) : Prop :=
  ∀ f, flags.contains f = true ↔ f.letter ∈ cs

theorem holds_empty : ({} : Flags).Holds [] := by
  intro f
  simp

theorem Holds.insert {flags : Flags} {front : List Char} (h : flags.Holds front) (f : Flag) :
    (flags.insert f).Holds (front ++ [f.letter]) := by
  intro g
  have hletter : g.letter = f.letter ↔ f = g :=
    ⟨fun heq => (Flag.letter_injective heq).symm, fun heq => heq ▸ rfl⟩
  simp [h g, hletter, or_comm]

theorem Holds.eq_of_mem_iff {s t : Flags} {cs ds : List Char} (hs : s.Holds cs) (ht : t.Holds ds)
    (h : ∀ c, c ∈ cs ↔ c ∈ ds) : s = t := by
  apply ext_contains
  intro f
  rw [Bool.eq_iff_iff, hs f, ht f]
  exact h f.letter

/-- The letters in front are in the set when the next one is looked at. -/
theorem exists_addLetters_append {flags : Flags} {front : List Char} (h : flags.Holds front)
    (before : List Char) (hrow : FlagRow (front ++ before)) :
    ∃ next : Flags, next.Holds (front ++ before) ∧
      ∀ rest, flags.addLetters (before ++ rest) = next.addLetters rest := by
  induction before generalizing flags front with
  | nil => exact ⟨flags, by rwa [List.append_nil], fun rest => rfl⟩
  | cons c before ih =>
      rw [List.append_cons] at hrow ⊢
      have hc : c ∈ Flag.alphabet := hrow.mem_alphabet c (by simp)
      obtain ⟨f, rfl⟩ := Flag.mem_alphabet_iff.1 hc
      have hnew : flags.contains f = false := by
        rw [Bool.eq_false_iff, ne_eq, h f]
        intro hmem
        have hnodup := (List.nodup_append.1 hrow.of_append.nodup).2.2
        exact hnodup _ hmem _ (List.mem_singleton.2 rfl) rfl
      obtain ⟨next, hnext, hadd⟩ := ih (h.insert f) hrow
      refine ⟨next, hnext, fun rest => ?_⟩
      rw [← hadd rest, List.cons_append, addLetters]
      simp [hnew]

theorem addLetters_of_refuses {flags : Flags} {front : List Char} (h : flags.Holds front)
    {c : Char} {error : FlagError} (hrefuses : error.Refuses front c) (hrow : FlagRow front)
    (back : List Char) : flags.addLetters (c :: back) = .error error := by
  cases hrefuses with
  | invalid hc => rw [addLetters, Flag.ofLetter?_eq_none_iff.2 hc]
  | duplicate hmem =>
      obtain ⟨f, rfl⟩ := Flag.mem_alphabet_iff.1 (hrow.mem_alphabet c hmem)
      rw [addLetters, Flag.ofLetter?_letter]
      exact if_pos ((h f).2 hmem)

theorem exists_parse_of_row {s : String} (h : FlagRow s.toList) :
    ∃ flags, parse s = .ok flags ∧ flags.Holds s.toList := by
  obtain ⟨flags, hflags, hadd⟩ := exists_addLetters_append holds_empty s.toList h
  refine ⟨flags, ?_, hflags⟩
  have hall := hadd []
  rwa [List.append_nil] at hall

theorem parse_of_refuses {s : String} {front back : List Char} {c : Char} {error : FlagError}
    (hs : s.toList = front ++ c :: back) (hrow : FlagRow front)
    (hrefuses : error.Refuses front c) : parse s = .error error := by
  obtain ⟨flags, hflags, hadd⟩ := exists_addLetters_append holds_empty front hrow
  rw [parse, hs, hadd]
  exact addLetters_of_refuses hflags hrefuses hrow back

theorem row_or_refuses (s : String) :
    FlagRow s.toList ∨ ∃ front c back error, s.toList = front ++ c :: back ∧ FlagRow front ∧
      FlagError.Refuses front c error :=
  FlagRow.nil.append_or s.toList

theorem row_of_parse {s : String} {flags : Flags} (h : parse s = .ok flags) :
    FlagRow s.toList ∧ flags.Holds s.toList := by
  rcases row_or_refuses s with hrow | ⟨front, c, back, error, hs, hrow, hrefuses⟩
  · obtain ⟨read, hread, hholds⟩ := exists_parse_of_row hrow
    rw [hread] at h
    exact ⟨hrow, Except.ok.inj h ▸ hholds⟩
  · rw [parse_of_refuses hs hrow hrefuses] at h
    cases h

/-- The letters of a set are those of the row it was read from, in the order of display. -/
theorem Holds.letters_perm {flags : Flags} {cs : List Char} (h : flags.Holds cs)
    (hrow : FlagRow cs) : flags.letters.Perm cs := by
  have hnodup : flags.letters.Nodup :=
    (List.filter_sublist.map Flag.letter).nodup (by decide : Flag.alphabet.Nodup)
  rw [List.perm_ext_iff_of_nodup hnodup hrow.nodup]
  intro c
  unfold letters
  rw [List.mem_map]
  constructor
  · rintro ⟨f, hf, rfl⟩
    exact (h f).1 (List.mem_filter.1 hf).2
  · intro hc
    obtain ⟨f, rfl⟩ := Flag.mem_alphabet_iff.1 (hrow.mem_alphabet c hc)
    exact ⟨f, List.mem_filter.2 ⟨Flag.mem_all f, (h f).2 hc⟩, rfl⟩

/-- A string is a set of flags exactly if all its letters stand for flags and none occurs twice. The
set is displayed by the same letters in their order, which is read as the same set, and so is every
other arrangement of them. Any other string is refused for its leftmost letter that stands for no
flag or has occurred already, and the error says which of the two it is. -/
theorem parse_letters (s : String) :
    ((∃ flags, parse s = .ok flags) ↔ (∀ c ∈ s.toList, c ∈ Flag.alphabet) ∧ s.toList.Nodup) ∧
    (∀ flags, parse s = .ok flags →
      flags.display.toList.Sublist Flag.alphabet ∧ flags.display.toList.Perm s.toList ∧
        parse flags.display = .ok flags ∧
        ∀ t : String, t.toList.Perm s.toList → parse t = .ok flags) ∧
    (∀ error, parse s = .error error ↔
      ∃ front c back, s.toList = front ++ c :: back ∧
        (∀ d ∈ front, d ∈ Flag.alphabet) ∧ front.Nodup ∧
          ((c ∉ Flag.alphabet ∧ error = .invalid c) ∨ (c ∈ front ∧ error = .duplicate c))) := by
  refine ⟨?_, ?_, ?_⟩
  · constructor
    · rintro ⟨flags, h⟩
      exact ⟨(row_of_parse h).1.mem_alphabet, (row_of_parse h).1.nodup⟩
    · rintro ⟨hmem, hnodup⟩
      obtain ⟨flags, h, -⟩ := exists_parse_of_row (s := s) ⟨hmem, hnodup⟩
      exact ⟨flags, h⟩
  · intro flags h
    obtain ⟨hrow, hholds⟩ := row_of_parse h
    -- the set depends on which letters there are, not on their order
    have hperm : ∀ t : String, t.toList.Perm s.toList → parse t = .ok flags := by
      intro t ht
      obtain ⟨read, hread, hsame⟩ := exists_parse_of_row (hrow.perm ht)
      rw [hread, hsame.eq_of_mem_iff hholds fun c => ht.mem_iff]
    have hdisplay : flags.display.toList = flags.letters := String.toList_ofList
    have hletters : flags.display.toList.Perm s.toList := hdisplay ▸ hholds.letters_perm hrow
    refine ⟨?_, hletters, hperm _ hletters, hperm⟩
    rw [hdisplay]
    exact List.filter_sublist.map Flag.letter
  · intro error
    constructor
    · intro h
      rcases row_or_refuses s with hrow | ⟨front, c, back, first, hs, hrow, hrefuses⟩
      · obtain ⟨flags, hflags, -⟩ := exists_parse_of_row hrow
        rw [hflags] at h
        cases h
      · rw [parse_of_refuses hs hrow hrefuses] at h
        obtain rfl := Except.error.inj h
        refine ⟨front, c, back, hs, hrow.mem_alphabet, hrow.nodup, ?_⟩
        cases hrefuses with
        | invalid hc => exact .inl ⟨hc, rfl⟩
        | duplicate hmem => exact .inr ⟨hmem, rfl⟩
    · rintro ⟨front, c, back, hs, hmem, hnodup, ⟨hc, rfl⟩ | ⟨hagain, rfl⟩⟩
      · exact parse_of_refuses hs ⟨hmem, hnodup⟩ (.invalid hc)
      · exact parse_of_refuses hs ⟨hmem, hnodup⟩ (.duplicate hagain)

theorem parse_letters_shuffled :
    parse "yig" = .ok { global := true, ignoreCase := true, sticky := true } ∧
      parse "giy" = .ok { global := true, ignoreCase := true, sticky := true } ∧
        parse "gigx" = .error (.duplicate 'g') ∧ parse "gixg" = .error (.invalid 'x') := by
  have hread : parse "yig" = .ok { global := true, ignoreCase := true, sticky := true } := rfl
  have hperm : "giy".toList.Perm "yig".toList := by decide
  obtain ⟨-, hrow, -⟩ := parse_letters "yig"
  obtain ⟨-, -, -, hany⟩ := hrow _ hread
  obtain ⟨-, -, hagain⟩ := parse_letters "gigx"
  obtain ⟨-, -, hunknown⟩ := parse_letters "gixg"
  refine ⟨hread, hany _ hperm, ?_, ?_⟩
  · exact (hagain _).2 ⟨['g', 'i'], 'g', ['x'], rfl, by simp [Flag.alphabet], by simp,
      .inr ⟨by simp, rfl⟩⟩
  · exact (hunknown _).2 ⟨['g', 'i'], 'x', ['g'], rfl, by simp [Flag.alphabet], by simp,
      .inl ⟨by simp [Flag.alphabet], rfl⟩⟩

end Flags

end PatternTemplate
