/-!
# Taking the markup out of a text

A text with tags in double braces is flat, and whoever reads it has to find the tags in it.
`Text.withoutMarkup?` does this in the obvious way: it looks for the next place where a tag starts
and for the next one where a tag ends, drops the tag if it is a marker and keeps its inside if it is
a placeholder. Nothing in the text says where a piece of it ends. So what counts is that no tag
starts in a text, whatever comes behind it (`Text.Untagged`), and that the inside of a tag does not
end the tag early (`Text.withoutMarkup?_tag`).
-/

namespace PatternTemplate

namespace Text

def tagStart : List Char := ['{', '{']

def tagEnd : List Char := ['}', '}']

/-- What is in front of the first place of a mark in a text, and what is behind it. -/
def cut? (mark : List Char) : List Char → Option (List Char × List Char)
  | [] => none
  | c :: s =>
    if mark.isPrefixOf (c :: s) then some ([], (c :: s).drop mark.length)
    else (cut? mark s).map fun (front, behind) => (c :: front, behind)

theorem eq_append_of_cut? {mark s front behind : List Char} (h : cut? mark s = some (front, behind)) :
    s = front ++ (mark ++ behind) := by
  induction s generalizing front with
  | nil => cases h
  | cons c s ih =>
      rw [cut?] at h
      split at h
      · next hprefix =>
        cases h
        exact (List.prefix_iff_eq_append.1 (List.isPrefixOf_iff_prefix.1 hprefix)).symm
      · obtain ⟨⟨others, rest⟩, hcut, hpair⟩ := Option.map_eq_some_iff.1 h
        cases hpair
        rw [ih hcut, List.cons_append]

theorem length_lt_of_cut? {mark s front behind : List Char} (hmark : mark ≠ [])
    (h : cut? mark s = some (front, behind)) : behind.length < s.length := by
  have hpos := List.length_pos_iff.2 hmark
  rw [eq_append_of_cut? h, List.length_append, List.length_append]
  omega

/-- What a tag shows: markers show nothing, and placeholders what is in them. -/
def shownTag : List Char → List Char
  | '#' :: _ | '/' :: _ => []
  | tag => tag

/-- A text without its markup: what is outside of tags, and what the tags show. There is none if a
tag does not end. -/
def withoutMarkup? (s : List Char) : Option (List Char) :=
  match hstart : cut? tagStart s with
  | none => some s
  | some (front, behind) =>
    match hend : cut? tagEnd behind with
    | none => none
    | some (tag, rest) =>
      have : rest.length < s.length :=
        Nat.lt_trans (length_lt_of_cut? (List.cons_ne_nil _ _) hend)
          (length_lt_of_cut? (List.cons_ne_nil _ _) hstart)
      (withoutMarkup? rest).map fun others => front ++ shownTag tag ++ others
termination_by s.length

theorem withoutMarkup?_of_none {s : List Char} (h : cut? tagStart s = none) :
    withoutMarkup? s = some s := by
  rw [withoutMarkup?]
  split
  · rfl
  · next hstart => exact absurd (h.symm.trans hstart) nofun

theorem withoutMarkup?_of_some {s front behind : List Char}
    (h : cut? tagStart s = some (front, behind)) :
    withoutMarkup? s = (cut? tagEnd behind).bind fun (tag, rest) =>
      (withoutMarkup? rest).map fun others => front ++ shownTag tag ++ others := by
  rw [withoutMarkup?]
  split
  · next hstart => exact absurd (h.symm.trans hstart) nofun
  · next hstart =>
    rw [h] at hstart
    cases hstart
    split
    · next hend => simp [hend]
    · next hend => simp [hend]

/-! ### Texts without tags -/

/-- No tag begins in the text, whatever comes behind it. -/
def Untagged (s : List Char) : Prop :=
  ∀ rest : List Char, cut? tagStart (s ++ rest) =
    (cut? tagStart rest).map fun (front, behind) => (s ++ front, behind)

theorem untagged_nil : Untagged [] := by
  intro rest
  simp

theorem Untagged.cons_of_ne {c : Char} {s : List Char} (hc : c ≠ '{') (h : Untagged s) :
    Untagged (c :: s) := by
  intro rest
  have hprefix : tagStart.isPrefixOf (c :: (s ++ rest)) = false := by
    rw [tagStart, List.isPrefixOf_cons_cons, beq_false_of_ne hc.symm, Bool.false_and]
  rw [List.cons_append, cut?, hprefix, if_neg Bool.false_ne_true, h rest, Option.map_map]
  rfl

/-- A single brace begins no tag. -/
theorem Untagged.brace_cons {c : Char} {s : List Char} (hc : c ≠ '{') (h : Untagged (c :: s)) :
    Untagged ('{' :: c :: s) := by
  intro rest
  have hprefix : tagStart.isPrefixOf ('{' :: c :: (s ++ rest)) = false := by
    rw [tagStart, List.isPrefixOf_cons_cons, List.isPrefixOf_cons_cons, beq_false_of_ne hc.symm,
      Bool.false_and, Bool.and_false]
  have hcut := h rest
  rw [List.cons_append] at hcut
  rw [List.cons_append, List.cons_append, cut?, hprefix, if_neg Bool.false_ne_true, hcut,
    Option.map_map]
  rfl

theorem untagged_of_not_mem {s : List Char} (h : '{' ∉ s) : Untagged s := by
  induction s with
  | nil => exact untagged_nil
  | cons c s ih =>
      rw [List.mem_cons, not_or] at h
      exact (ih h.2).cons_of_ne (Ne.symm h.1)

theorem Untagged.withoutMarkup?_append {s : List Char} (h : Untagged s) (rest : List Char) :
    withoutMarkup? (s ++ rest) = (withoutMarkup? rest).map (s ++ ·) := by
  have hstart := h rest
  cases hrest : cut? tagStart rest with
  | none =>
      rw [hrest] at hstart
      rw [withoutMarkup?_of_none hrest, withoutMarkup?_of_none hstart]
      rfl
  | some parts =>
      rw [hrest] at hstart
      rw [withoutMarkup?_of_some hrest, withoutMarkup?_of_some hstart]
      cases cut? tagEnd parts.2 <;> simp [Function.comp_def]

/-! ### Tags -/

/-- As the inside of a tag, the text does not end the tag early and makes no marker of it. -/
def IsTagName (name : List Char) : Prop :=
  '}' ∉ name ∧ '#' ∉ name ∧ '/' ∉ name

theorem isTagName_of_forall {p : Char → Bool} (hp : ['}', '#', '/'].all (fun c => !p c) = true)
    {name : List Char} (h : ∀ c ∈ name, p c = true) : IsTagName name := by
  have hnot : ∀ c ∈ ['}', '#', '/'], c ∉ name := by
    intro c hc hmem
    have hmark := List.all_eq_true.1 hp c hc
    rw [h c hmem] at hmark
    exact Bool.noConfusion hmark
  exact ⟨hnot _ (by simp), hnot _ (by simp), hnot _ (by simp)⟩

theorem cut?_tagEnd_append {name : List Char} (h : '}' ∉ name) (rest : List Char) :
    cut? tagEnd (name ++ (tagEnd ++ rest)) = some (name, rest) := by
  induction name with
  | nil => rfl
  | cons c name ih =>
      rw [List.mem_cons, not_or] at h
      have hprefix : tagEnd.isPrefixOf (c :: (name ++ (tagEnd ++ rest))) = false := by
        rw [tagEnd, List.isPrefixOf_cons_cons, beq_false_of_ne h.1, Bool.false_and]
      rw [List.cons_append, cut?, hprefix, if_neg Bool.false_ne_true, ih h.2]
      rfl

theorem withoutMarkup?_tag {tag : List Char} (h : '}' ∉ tag) (rest : List Char) :
    withoutMarkup? (tagStart ++ (tag ++ (tagEnd ++ rest))) =
      (withoutMarkup? rest).map (shownTag tag ++ ·) := by
  have hstart : cut? tagStart (tagStart ++ (tag ++ (tagEnd ++ rest))) =
      some ([], tag ++ (tagEnd ++ rest)) := rfl
  rw [withoutMarkup?_of_some hstart, cut?_tagEnd_append h rest]
  rfl

theorem IsTagName.shownTag_eq {name : List Char} (h : IsTagName name) : shownTag name = name := by
  obtain ⟨-, hopening, hclosing⟩ := h
  unfold shownTag
  split
  · simp at hopening
  · simp at hclosing
  · rfl

end Text

end PatternTemplate
