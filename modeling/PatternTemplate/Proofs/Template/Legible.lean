import PatternTemplate.Proofs.Pattern.Shape
import PatternTemplate.Proofs.Template.Section
import PatternTemplate.Proofs.Template.Visible
import PatternTemplate.Proofs.Text.Markup

/-!
# Reading a template without its markup

A template in the Mustache mode is its pieces one behind the other, and the text does not say where
one of them ends. It can be read piece by piece if no tag starts in a literal, whatever comes
behind, and no tag ends within a placeholder or a marker (`Piece.Legible`). Then what is left
without the markup is the plain template.

The pieces of a pattern are legible unless it has an opening brace that stands for itself. A name
has no brace in it and nothing that makes a marker of a tag, and in the written form of a character
an opening brace stands in front of a digit. What holds of all characters and groups that are
visible holds of the pieces, since the template shows nothing else and each section has a
placeholder of its identity.
-/

namespace PatternTemplate

open Text

/-! ### Names and characters -/

theorem Capture.isTagName_identity {capture : Capture}
    (h : ∀ name, capture.name = some name → IsGroupName name) :
    IsTagName capture.identity.toList := by
  unfold identity
  cases hname : capture.name with
  | some name => exact isTagName_of_forall (by decide) (h name hname).isNameChar
  | none =>
      have hdigits : ∀ c ∈ Nat.toDigits 10 capture.number, c.isDigit = true :=
        fun c => isDigit_of_mem_toDigits
      have hidentity : (toString capture.number).toList = Nat.toDigits 10 capture.number := by
        simp
      simpa [hidentity] using isTagName_of_forall (by decide) hdigits

/-- No tag starts in the written form of a character, if the character is no opening brace that
stands for itself. -/
theorem Character.WellFormed.untagged {c : Character} (h : c.WellFormed false)
    (hbrace : c.kind = .simple → c.text ≠ "\x7b") : Untagged c.text.toList := by
  have hdigits : ∀ digits : List Char, (∀ d ∈ digits, isHexDigit d = true) → '{' ∉ digits :=
    fun digits hd hmem => absurd (hd _ hmem) (by decide)
  cases h with
  | simple c =>
      have hc : c ≠ '{' := by
        rintro rfl
        exact hbrace rfl rfl
      simpa [Character.simple] using untagged_nil.cons_of_ne hc
  | dot => exact untagged_of_not_mem (by decide)
  | @classLetter letter hletter =>
      have hne : letter ≠ '{' := by
        rintro rfl
        revert hletter
        decide
      exact untagged_of_not_mem (by simpa [symbolic] using hne.symm)
  | @letterCode letter code hletter =>
      have hne : letter ≠ '{' := by
        rintro rfl
        simp [letterCodes] at hletter
      exact untagged_of_not_mem (by simpa [symbolic] using hne.symm)
  | backspace h => cases h
  | @control letter hletter =>
      have hne : letter ≠ '{' := by
        rintro rfl
        revert hletter
        decide
      exact untagged_of_not_mem (by simpa using hne.symm)
  | @hex digits hlen hd | @unicode digits hlen hd =>
      exact untagged_of_not_mem (by simpa using hdigits digits hd)
  | @braced digits hne hd hle =>
      obtain ⟨first, others, rfl⟩ := List.exists_cons_of_ne_nil hne
      -- the brace of a code point has a digit behind it, so it is no tag
      have hrest : Untagged (first :: (others ++ ['}'])) :=
        untagged_of_not_mem (by simpa using hdigits (first :: others) hd)
      have hfirst : first ≠ '{' := by
        rintro rfl
        exact hdigits _ hd List.mem_cons_self
      have hbraced := hrest.brace_cons hfirst
      simpa using (hbraced.cons_of_ne (by decide : 'u' ≠ '{')).cons_of_ne (by decide : '\\' ≠ '{')

/-! ### Pieces -/

namespace Piece

/-- The piece can be read back from a text that it is a part of. -/
def Legible : Piece → Prop
  | literal c => Untagged c.text.toList
  | hole identity | opening identity | closing identity => IsTagName identity.toList

/-- Without its markup, a legible piece in the Mustache mode is the piece in the plain mode. -/
theorem Legible.withoutMarkup?_append {piece : Piece} (h : piece.Legible) (rest : List Char) :
    withoutMarkup? ((piece.text .mustache).toList ++ rest) =
      (withoutMarkup? rest).map ((piece.text .plain).toList ++ ·) := by
  cases piece with
  | literal c => exact Untagged.withoutMarkup?_append h rest
  | hole identity =>
      have htag := withoutMarkup?_tag h.1 rest
      rw [IsTagName.shownTag_eq h] at htag
      simpa [text, Mode.tag, tagStart, tagEnd] using htag
  | opening identity =>
      have hmark : '}' ∉ '#' :: identity.toList := by simpa using h.1
      simpa [text, Mode.tag, tagStart, tagEnd, shownTag] using withoutMarkup?_tag hmark rest
  | closing identity =>
      have hmark : '}' ∉ '/' :: identity.toList := by simpa using h.1
      simpa [text, Mode.tag, tagStart, tagEnd, shownTag] using withoutMarkup?_tag hmark rest

theorem withoutMarkup?_join {pieces : List Piece} (h : ∀ piece ∈ pieces, piece.Legible) :
    withoutMarkup? (String.join (pieces.map (text .mustache))).toList =
      some (String.join (pieces.map (text .plain))).toList := by
  induction pieces with
  | nil => exact withoutMarkup?_of_none rfl
  | cons piece pieces ih =>
      rw [List.forall_mem_cons] at h
      have hpiece := h.1.withoutMarkup?_append (String.join (pieces.map (text .mustache))).toList
      rw [ih h.2] at hpiece
      simpa using hpiece

namespace Nested

variable {pieces : List Piece} {own : List String}

theorem hole_mem_of_mem (h : Nested pieces own) :
    ∀ identity ∈ own, Piece.hole identity ∈ pieces := by
  induction h with
  | nil => simp
  | literal _ ih =>
      intro identity hmem
      exact List.mem_cons_of_mem _ (ih identity hmem)
  | hole _ ih =>
      rw [List.forall_mem_cons]
      refine ⟨List.mem_cons_self, fun identity hmem => ?_⟩
      exact List.mem_cons_of_mem _ (ih identity hmem)
  | enclosed _ _ _ _ ih =>
      intro identity hmem
      exact List.mem_cons_of_mem _
        (List.mem_append_right _ (List.mem_cons_of_mem _ (ih identity hmem)))

theorem legible (h : Nested pieces own)
    (hleaf : ∀ piece ∈ pieces, piece.isLeaf = true → piece.Legible) :
    ∀ piece ∈ pieces, piece.Legible := by
  induction h with
  | nil => simp
  | literal _ ih | hole _ ih =>
      rw [List.forall_mem_cons] at hleaf ⊢
      exact ⟨hleaf.1 rfl, ih hleaf.2⟩
  | @enclosed identity inner pieces within own hinner hmem _ ihinner ih =>
      simp only [List.forall_mem_cons, List.forall_mem_append] at hleaf ⊢
      obtain ⟨-, hinnerLeaf, -, hpiecesLeaf⟩ := hleaf
      have hlegible := ihinner hinnerLeaf
      have hidentity : IsTagName identity.toList :=
        hlegible (.hole identity) (hinner.hole_mem_of_mem identity hmem)
      exact ⟨hidentity, hlegible, hidentity, ih hpiecesLeaf⟩

end Nested

end Piece

/-! ### Patterns -/

namespace Node

/-- A node that is open hands its shape on to the nodes directly below it, since it is no class. -/
theorem WellFormed.of_mem_children_of_isOpen {place : Place} {node child : Node}
    (h : WellFormed place node) (hopen : node.isOpen = true) (hchild : child ∈ node.children) :
    ∃ place, WellFormed place child := by
  rcases h.of_mem_children hchild with hshape | ⟨⟨negative, items, rfl⟩, -⟩
  · exact hshape
  · cases hopen

def Braceless (node : Node) : Prop :=
  ∀ c, .char c ∈ node.walk (fun _ => true) → c.kind = .simple → c.text ≠ "\x7b"

theorem Braceless.of_mem_children {node child : Node} (h : node.Braceless)
    (hchild : child ∈ node.children) : child.Braceless :=
  fun c hc => h c (walk_subset_of_mem_children rfl hchild hc)

theorem WellFormed.legible_leaf {place : Place} {node : Node} (h : WellFormed place node)
    (hbrace : node.Braceless) {piece : Piece} (hleaf : node.leaf? = some piece) :
    piece.Legible := by
  cases node with
  | char c =>
      cases hleaf
      exact Character.WellFormed.untagged h (hbrace c (mem_walk_self _ _))
  | group capture body =>
      cases capture with
      | none => cases hleaf
      | some capture =>
          cases hleaf
          exact Capture.isTagName_identity h.1
  | _ => cases hleaf

end Node

theorem Regex.legible_pieces {regex : Regex} (h : Node.WellFormedOption .body regex.body)
    (hbrace : ∀ node ∈ regex.body, node.Braceless) :
    ∀ piece ∈ regex.pieces false, piece.Legible := by
  obtain ⟨own, hnested⟩ := regex.exists_nested_pieces false
  refine hnested.legible fun piece hpiece hleaf => ?_
  have hrepeats := regex.remains_outline.1.shows.repeats
  rw [← Regex.leaves_eq, ← Regex.filter_isLeaf_pieces] at hrepeats
  have hvisible : piece ∈ regex.leaves Node.isOpen :=
    hrepeats.subset (List.mem_filter.2 ⟨hpiece, hleaf⟩)
  obtain ⟨node, hnode, hpiece⟩ := List.mem_filterMap.1 hvisible
  cases hbody : regex.body with
  | none => simp [hbody] at hnode
  | some body =>
      rw [hbody] at h hnode
      have hall : ∀ other ∈ body.walk Node.isOpen,
          (∃ place, other.WellFormed place) ∧ other.Braceless := by
        refine Node.forall_mem_walk ?_ ⟨⟨.body, h⟩, hbrace body hbody⟩
        rintro other ⟨⟨place, hshape⟩, hother⟩ hopen child hchild
        exact ⟨hshape.of_mem_children_of_isOpen hopen hchild, hother.of_mem_children hchild⟩
      obtain ⟨⟨place, hshape⟩, hother⟩ := hall node hnode
      exact hshape.legible_leaf hother hpiece

/-- A template in the Mustache mode can be read back: if the pattern has no opening brace that
stands for itself, each tag that starts in the template ends, and without the markup the template is
the one in the plain mode. -/
theorem Regex.convert_withoutMarkup? {pattern : String} {regex : Regex}
    (h : Regex.ofPattern pattern = .ok regex)
    (hbrace : ∀ c, .char c ∈ Node.walkOption (fun _ => true) regex.body →
      c.kind = .simple → c.text ≠ "\x7b") :
    ∃ marked bare : String, convert pattern .mustache = .ok marked ∧
      convert pattern .plain = .ok bare ∧ withoutMarkup? marked.toList = some bare.toList := by
  have hconvert : ∀ mode, convert pattern mode = .ok (regex.render mode) := by
    intro mode
    rw [convert, h]
    rfl
  refine ⟨_, _, hconvert .mustache, hconvert .plain, ?_⟩
  have hlegible : ∀ piece ∈ regex.pieces false, piece.Legible := by
    apply Regex.legible_pieces (Regex.wellFormedOption_of_ofPattern h)
    intro body hbody c hc
    rw [Option.mem_def.1 hbody] at hbrace
    exact hbrace c hc
  rw [regex.render_eq_join, regex.render_eq_join]
  exact Piece.withoutMarkup?_join hlegible

def Regex.braced : Regex where
  body := some <| .alternative [
    .char ⟨"\\u\x7b7b\x7d", .unicode, some 0x7b⟩,
    .repetition (.group (some ⟨1, some "é"⟩) (some (.char (.symbolic "." none)))) ⟨.plus, true⟩,
    .char (.simple '}')]
  flags := {}
  captures := 1

theorem Regex.convert_withoutMarkup?_braced :
    Regex.ofPattern "\\u\x7b7b\x7d(?<é>.)+\x7d" = .ok braced ∧
      (∀ c, .char c ∈ Node.walkOption (fun _ => true) braced.body →
        c.kind = .simple → c.text ≠ "\x7b") ∧
      convert "\\u\x7b7b\x7d(?<é>.)+\x7d" .mustache =
        .ok "\\u\x7b7b\x7d\x7b\x7bé\x7d\x7d\x7d" ∧
      withoutMarkup? "\\u\x7b7b\x7d\x7b\x7bé\x7d\x7d\x7d".toList =
        some "\\u\x7b7b\x7dé\x7d".toList := by
  have hread : Regex.ofPattern "\\u\x7b7b\x7d(?<é>.)+\x7d" = .ok braced :=
    eq_ok_of_toOption_eq_some (by decide +kernel)
  have hbrace : ∀ c, .char c ∈ Node.walkOption (fun _ => true) braced.body →
      c.kind = .simple → c.text ≠ "\x7b" := by
    simp [braced, Node.walk, Character.simple, Character.symbolic]
  have hmarked : convert "\\u\x7b7b\x7d(?<é>.)+\x7d" .mustache =
      .ok "\\u\x7b7b\x7d\x7b\x7bé\x7d\x7d\x7d" :=
    eq_ok_of_toOption_eq_some (by decide +kernel)
  have hbare : convert "\\u\x7b7b\x7d(?<é>.)+\x7d" .plain = .ok "\\u\x7b7b\x7dé\x7d" :=
    eq_ok_of_toOption_eq_some (by decide +kernel)
  obtain ⟨marked, bare, hmarked', hbare', hread'⟩ := Regex.convert_withoutMarkup? hread hbrace
  rw [hmarked] at hmarked'
  rw [hbare] at hbare'
  cases hmarked'
  cases hbare'
  exact ⟨hread, hbrace, hmarked, hread'⟩

end PatternTemplate
