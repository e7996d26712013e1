import PatternTemplate.Proofs.Pattern.Marks
import PatternTemplate.Proofs.Template.Visible

/-!
# Identities of groups

Names and numbers share one space of identities. They keep apart in it: names are distinct since a
second group of a name is refused, numbers are distinct since groups with a name are counted as
well, and no name is a number since no name starts with a digit (`Capture.identity_ne`). So the
capturing groups of a pattern have distinct identities. All characters of an identity can stand in a
name, which no character of the markup can, so a placeholder shows one identity and leads back to
one group (`Regex.identities_of_ofPattern`).
-/

namespace PatternTemplate

open Text

/-! ### Digits and names -/

theorem toNat_lt_of_isDigit {c : Char} (h : c.isDigit = true) : c.toNat < 0x80 := by
  simp only [Char.isDigit, Bool.and_eq_true, decide_eq_true_eq] at h
  have hle : c.toNat ≤ '9'.toNat := h.2
  exact Nat.lt_of_le_of_lt hle (by decide)

theorem isNameChar_of_isDigit {c : Char} (h : c.isDigit = true) : isNameChar c = true := by
  simp [isNameChar, isAlphanumeric_of_ascii (toNat_lt_of_isDigit h), Char.isAlphanum, h]

theorem isDigit_eq_false_of_isNameStart {c : Char} (h : isNameStart c = true) :
    c.isDigit = false := by
  rw [Bool.eq_false_iff]
  intro hdigit
  rw [isNameStart, isAlphabetic_of_ascii (toNat_lt_of_isDigit hdigit), Bool.or_eq_true,
    Bool.or_eq_true, beq_iff_eq, beq_iff_eq] at h
  rcases h with (hletter | rfl) | rfl
  · -- both ranges of letters stand after the digits
    have hnine : c.toNat ≤ '9'.toNat := (Char.isDigit_iff_toNat.1 hdigit).2
    rcases (Bool.or_eq_true _ _).mp hletter with hupper | hlower
    · have hfrom : 'A'.toNat ≤ c.toNat := (of_decide_eq_true hupper).1
      exact absurd (hfrom.trans hnine) (by decide)
    · have hfrom : 'a'.toNat ≤ c.toNat :=
        of_decide_eq_true ((Bool.and_eq_true _ _).mp hlower).1
      exact absurd (hfrom.trans hnine) (by decide)
  · exact absurd hdigit (by decide)
  · exact absurd hdigit (by decide)

theorem IsGroupName.ne_toDigits {name : String} (h : IsGroupName name) (n : Nat) :
    name.toList ≠ Nat.toDigits 10 n := by
  obtain ⟨first, more, hname, hstart, -⟩ := h
  intro heq
  have hmem : first ∈ Nat.toDigits 10 n := by
    rw [← heq, hname]
    exact List.mem_cons_self
  exact absurd (isDigit_of_mem_toDigits hmem) (by simp [isDigit_eq_false_of_isNameStart hstart])

/-! ### Identities -/

namespace Capture

/-- A name of the group, if it has one, is one that a pattern can hold. -/
def WellNamed (capture : Capture) : Prop :=
  ∀ name, capture.name = some name → IsGroupName name

theorem toList_identity (capture : Capture) :
    capture.identity.toList =
      (capture.name.map String.toList).getD (Nat.toDigits 10 capture.number) := by
  unfold identity
  cases capture.name <;> simp

variable {capture other : Capture}

theorem WellNamed.toList_identity_ne_nil (h : capture.WellNamed) :
    capture.identity.toList ≠ [] := by
  rw [toList_identity]
  cases hname : capture.name with
  | some name =>
      obtain ⟨first, more, hlist, -⟩ := h name hname
      simp [hlist]
  | none => exact Nat.toDigits_ne_nil

theorem WellNamed.forall_isNameChar (h : capture.WellNamed) :
    ∀ c ∈ capture.identity.toList, isNameChar c = true := by
  rw [toList_identity]
  cases hname : capture.name with
  | some name => exact (h name hname).isNameChar
  | none => exact fun c hc => isNameChar_of_isDigit (isDigit_of_mem_toDigits hc)

theorem WellNamed.not_mem_identity (h : capture.WellNamed) {c : Char}
    (hc : isNameChar c = false) : c ∉ capture.identity.toList :=
  fun hmem => absurd (h.forall_isNameChar c hmem) (by simp [hc])

/-- Groups with different numbers and without a name in common have different identities. -/
theorem identity_ne (h : capture.WellNamed) (h' : other.WellNamed)
    (hnumber : capture.number ≠ other.number)
    (hname : ∀ name, capture.name = some name → other.name ≠ some name) :
    capture.identity ≠ other.identity := by
  intro heq
  have hlist := congrArg String.toList heq
  rw [toList_identity, toList_identity] at hlist
  -- a name is no number, so names are compared with names and numbers with numbers
  cases hfirst : capture.name with
  | some name =>
      cases hsecond : other.name with
      | some name' =>
          rw [hfirst, hsecond] at hlist
          obtain rfl : name = name' := String.toList_injective hlist
          exact hname name hfirst hsecond
      | none =>
          rw [hfirst, hsecond] at hlist
          exact (h name hfirst).ne_toDigits other.number hlist
  | none =>
      cases hsecond : other.name with
      | some name =>
          rw [hfirst, hsecond] at hlist
          exact (h' name hsecond).ne_toDigits capture.number hlist.symm
      | none =>
          rw [hfirst, hsecond] at hlist
          exact hnumber (toDigits_injective hlist)

end Capture

theorem Piece.text_hole_injective {mode : Mode} {identity other : String}
    (h : (hole identity).text mode = (hole other).text mode) : identity = other := by
  cases mode with
  | mustache =>
      have hlist := congrArg String.toList h
      exact String.toList_injective (by simpa [Piece.text, Mode.tag] using hlist)
  | plain => exact h

/-! ### The groups of a tree -/

theorem Node.WellFormedOption.wellNamed {body : Option Node} (h : WellFormedOption .body body) :
    ∀ capture ∈ gatherOption capture? body, capture.WellNamed := by
  intro capture hcapture
  cases body with
  | none => cases hcapture
  | some root =>
      obtain ⟨node, hnode, hgroup⟩ := List.mem_filterMap.1 hcapture
      cases node with
      | group captured inner =>
          obtain rfl : captured = some capture := hgroup
          rcases WellFormed.of_mem_walk h hnode with ⟨place, hshape⟩ | hitem
          · exact hshape.1
          · exact hitem.elim
      | _ => cases hgroup

theorem nodup_identities {captures : List Capture} (hnamed : ∀ capture ∈ captures, capture.WellNamed)
    (hnumbers : (captures.map Capture.number).Nodup)
    (hnames : (captures.filterMap Capture.name).Nodup) :
    (captures.map Capture.identity).Nodup := by
  rw [List.Nodup, List.pairwise_map] at hnumbers ⊢
  rw [List.Nodup, List.pairwise_filterMap] at hnames
  refine (hnumbers.and hnames).imp_of_mem ?_
  rintro capture other hcapture hother ⟨hnumber, hname⟩
  refine Capture.identity_ne (hnamed capture hcapture) (hnamed other hother) hnumber ?_
  exact fun name hfirst hsecond => hname name hfirst name hsecond rfl

/-- A hole of a template is the place of a capturing group. -/
theorem Regex.exists_of_hole_mem_pieces {regex : Regex} {identity : String}
    (h : .hole identity ∈ regex.pieces false) :
    ∃ capture ∈ regex.groupCaptures, capture.identity = identity := by
  have hrepeats := regex.remains_outline.1.shows.repeats
  rw [← Regex.leaves_eq, ← Regex.filter_isLeaf_pieces] at hrepeats
  have hvisible : .hole identity ∈ regex.leaves Node.isOpen :=
    hrepeats.subset (List.mem_filter.2 ⟨h, rfl⟩)
  obtain ⟨node, hnode, hleaf⟩ := List.mem_filterMap.1 hvisible
  cases hbody : regex.body with
  | none => simp [hbody] at hnode
  | some body =>
      rw [hbody] at hnode
      cases node with
      | group captured inner =>
          cases captured with
          | none => cases hleaf
          | some capture =>
              refine ⟨capture, ?_, Piece.hole.inj (Option.some.inj hleaf)⟩
              rw [groupCaptures, hbody]
              exact List.mem_filterMap.2 ⟨_, Node.mem_walk_of_mem_walk hnode, rfl⟩
      | _ => cases hleaf

/-- The capturing groups of a pattern have distinct identities, none of which is empty, has a brace
in it or could be taken for a marker. So placeholders of a template that read the same, in either
mode, are the places of one and the same group. -/
theorem Regex.identities_of_ofPattern {pattern : String} {flags : Flags} {regex : Regex}
    (h : Regex.ofPattern pattern flags = .ok regex) :
    (regex.groupCaptures.map Capture.identity).Nodup ∧
      (∀ capture ∈ regex.groupCaptures, capture.identity ≠ "" ∧
        '{' ∉ capture.identity.toList ∧ '}' ∉ capture.identity.toList ∧
          capture.identity.toList.head? ≠ some '#' ∧ capture.identity.toList.head? ≠ some '/') ∧
      ∀ mode identity other, .hole identity ∈ regex.pieces false →
        .hole other ∈ regex.pieces false →
          (Piece.hole identity).text mode = (Piece.hole other).text mode →
            ∃! i : Nat, regex.groupCaptures[i]?.map Capture.identity = some identity ∧
              regex.groupCaptures[i]?.map Capture.identity = some other := by
  have hnamed := (Regex.wellFormedOption_of_ofPattern h).wellNamed
  have hnodup : (regex.groupCaptures.map Capture.identity).Nodup := by
    obtain ⟨final, hfinal, rfl⟩ := ofPattern_eq_ok_iff_complete.1 h
    have htallied := hfinal.tallied
    rw [hfinal.groupCaptures]
    refine nodup_identities ?_ ?_ ?_
    · rw [← hfinal.groupCaptures]
      exact hnamed
    · rw [htallied.numbers]
      exact List.nodup_range'
    · rw [htallied.names]
      exact List.nodup_reverse.2 htallied.nodup
  refine ⟨hnodup, ?_, ?_⟩
  · intro capture hcapture
    have hwritten : capture.WellNamed := hnamed capture hcapture
    have hhead : ∀ c, isNameChar c = false → capture.identity.toList.head? ≠ some c :=
      fun c hc hfirst => hwritten.not_mem_identity hc (List.mem_of_head? hfirst)
    refine ⟨?_, hwritten.not_mem_identity (by decide), hwritten.not_mem_identity (by decide),
      hhead _ (by decide), hhead _ (by decide)⟩
    intro hempty
    exact hwritten.toList_identity_ne_nil (by rw [hempty]; rfl)
  · intro mode identity other hhole _ htext
    -- the same text is the same identity, and identities are distinct along the captures
    obtain rfl := Piece.text_hole_injective htext
    obtain ⟨capture, hcapture, rfl⟩ := exists_of_hole_mem_pieces hhole
    obtain ⟨i, hi⟩ := List.mem_iff_getElem?.1 (List.mem_map_of_mem hcapture)
    simp only [← List.getElem?_map, and_self]
    refine ⟨i, hi, fun j hj => ?_⟩
    exact (List.getElem?_inj (List.getElem?_eq_some_iff.1 hj).1 hnodup).1 (hj.trans hi.symm)

/-- A group with a name, one with a number, and one with a name that is shown twice. -/
def Regex.mixed : Regex where
  body := some <| .alternative [
    .group (some ⟨1, some "a"⟩) (some (.char (.simple 'x'))),
    .group (some ⟨2, none⟩) none,
    .repetition (.group (some ⟨3, some "$1"⟩) none) ⟨.exact 2, true⟩]
  flags := {}
  captures := 3

theorem Regex.identities_of_ofPattern_mixed :
    Regex.ofPattern "(?<a>x)()(?<$1>)\x7b2\x7d" = .ok mixed ∧
      mixed.groupCaptures.map Capture.identity = ["a", "2", "$1"] ∧ ["a", "2", "$1"].Nodup ∧
        mixed.pieces false = [.hole "a", .hole "2", .hole "$1", .hole "$1"] ∧
          ∃! i : Nat, mixed.groupCaptures[i]?.map Capture.identity = some "$1" ∧
            mixed.groupCaptures[i]?.map Capture.identity = some "$1" := by
  have hread : Regex.ofPattern "(?<a>x)()(?<$1>)\x7b2\x7d" = .ok mixed :=
    eq_ok_of_toOption_eq_some (by decide +kernel)
  have hidentities : mixed.groupCaptures.map Capture.identity = ["a", "2", "$1"] := by
    decide +kernel
  have hpieces : mixed.pieces false = [.hole "a", .hole "2", .hole "$1", .hole "$1"] := by
    decide +kernel
  obtain ⟨hnodup, -, hplace⟩ := Regex.identities_of_ofPattern hread
  rw [hidentities] at hnodup
  have hhole : .hole "$1" ∈ mixed.pieces false := by simp [hpieces]
  exact ⟨hread, hidentities, hnodup, hpieces, hplace .plain "$1" "$1" hhole hhole rfl⟩

end PatternTemplate
