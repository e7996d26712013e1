import PatternTemplate.Proofs.Template.Piece
import PatternTemplate.Proofs.Template.Remains

/-!
# Sections are nested and never empty

Between the two ends of a section there is always a placeholder of the group that the section
depends on, and it belongs to no section in between. The heading of a row is taken from the parts
that the pattern has, before any of them is outlined. That group leaves a hole among what remains of
the parts, whatever becomes of the other ones, and a row is copied with both ends of its section or
not at all. So the ends that a template has are nested like brackets, each two of them with the same
identity, and none of them without a hole (`Piece.Nested`).
-/

namespace PatternTemplate

namespace Piece

/-- The ends of sections among the pieces match like brackets, and each section has a hole of its
identity that is in no section within it. The list holds the identities of the holes that are in no
section at all. -/
inductive Nested : List Piece → List String → Prop
  | nil : Nested [] []
  | literal {c : Character} {pieces : List Piece} {own : List String} (h : Nested pieces own) :
      Nested (.literal c :: pieces) own
  | hole {identity : String} {pieces : List Piece} {own : List String} (h : Nested pieces own) :
      Nested (.hole identity :: pieces) (identity :: own)
  | enclosed {identity : String} {inner pieces : List Piece} {within own : List String}
      (hinner : Nested inner within) (hmem : identity ∈ within) (h : Nested pieces own) :
      Nested (.opening identity :: (inner ++ .closing identity :: pieces)) own

namespace Nested

variable {front back pieces : List Piece} {own others : List String}

theorem append (hfront : Nested front own) (hback : Nested back others) :
    Nested (front ++ back) (own ++ others) := by
  induction hfront with
  | nil => exact hback
  | literal _ ih => exact .literal ih
  | hole _ ih => exact .hole ih
  | enclosed hinner hmem _ _ ih => simpa using Nested.enclosed hinner hmem ih

theorem enclose {identity : String} (h : Nested pieces own) (hmem : identity ∈ own) :
    Nested (Piece.enclose (some identity) pieces) [] :=
  .enclosed h hmem .nil

/-- Each section has two ends, and for each of them there is a hole that belongs to no other section
and is not one of those outside. -/
theorem countP_isMarker_le (h : Nested pieces own) :
    pieces.countP isMarker + 2 * own.length ≤ 2 * pieces.countP isHole := by
  induction h with
  | nil => simp
  | literal _ ih => simpa [isMarker, isHole] using ih
  | hole _ ih =>
      simp [List.countP_cons, isMarker, isHole]
      omega
  | enclosed _ hmem _ ihinner ih =>
      have hpos := List.length_pos_of_mem hmem
      simp [List.countP_cons, isMarker, isHole]
      omega

end Nested

end Piece

namespace Outline

open Piece

theorem exists_of_heading? {parts : List Node} {identity : String}
    (h : heading? parts = some identity) :
    ∃ node ∈ parts, ∃ capture, node.capture? = some capture ∧ capture.identity = identity := by
  obtain ⟨capture, hfind, hidentity⟩ := Option.map_eq_some_iff.1 h
  obtain ⟨node, hnode, hcapture⟩ := List.exists_of_findSome?_eq_some hfind
  exact ⟨node, hnode, capture, hcapture, hidentity⟩

/-- What remains of some nodes has nested sections, and a hole outside of all of them for each
capturing group among the nodes. -/
theorem Remains.nested (inClasses : Bool) {nodes : List Node} {noted : List Event}
    {outlines : List Outline} (h : Remains nodes noted outlines) :
    ∃ own, Nested (piecesList inClasses outlines) own ∧
      ∀ node ∈ nodes, ∀ capture, node.capture? = some capture → capture.identity ∈ own := by
  induction h with
  | nil => exact ⟨[], .nil, by simp⟩
  | append _ _ ihfront ihback =>
      obtain ⟨own, hfront, hown⟩ := ihfront
      obtain ⟨others, hback, hothers⟩ := ihback
      refine ⟨own ++ others, ?_, ?_⟩
      · rw [piecesList_append]
        exact hfront.append hback
      · intro node hnode capture hcapture
        rw [List.mem_append] at hnode ⊢
        exact hnode.imp (hown node · capture hcapture) (hothers node · capture hcapture)
  | char c => exact ⟨[], .literal .nil, by simp [Node.capture?]⟩
  | backreference target => exact ⟨[], .nil, by simp [Node.capture?]⟩
  | @nothing node hstrip =>
      refine ⟨[], .nil, ?_⟩
      cases node <;> simp_all [Node.strip?, Node.capture?]
  | characterClass _ ih =>
      obtain ⟨own, hitems, -⟩ := ih
      cases inClasses with
      | false => exact ⟨[], .nil, by simp [Node.capture?]⟩
      | true => exact ⟨own, by simpa [pieces] using hitems, by simp [Node.capture?]⟩
  | hole capture body => exact ⟨[capture.identity], .hole .nil, by simp [Node.capture?]⟩
  | group _ ih =>
      obtain ⟨own, hbody, -⟩ := ih
      exact ⟨own, by simpa [pieces] using hbody, by simp [Node.capture?]⟩
  | expanded _ _ ih =>
      obtain ⟨own, hcopies, -⟩ := ih
      exact ⟨own, by simpa [pieces] using hcopies, by simp [Node.capture?]⟩
  | kept _ _ _ ih | unfixed _ _ ih =>
      obtain ⟨own, hbody, -⟩ := ih
      exact ⟨own, by simpa using hbody, by simp [Node.capture?]⟩
  | row _ ih =>
      obtain ⟨own, hparts, -⟩ := ih
      exact ⟨own, by simpa [pieces] using hparts, by simp [Node.capture?]⟩
  | headed hheading _ ih =>
      obtain ⟨own, hparts, hown⟩ := ih
      obtain ⟨node, hnode, capture, hcapture, rfl⟩ := exists_of_heading? hheading
      have hmem := hown node hnode capture hcapture
      exact ⟨[], by simpa [pieces] using hparts.enclose hmem, by simp [Node.capture?]⟩
  | disjunction _ ih =>
      obtain ⟨own, hrows, -⟩ := ih
      exact ⟨own, by simpa [pieces] using hrows, by simp [Node.capture?]⟩

end Outline

theorem Piece.map_character?_mustache (pieces : List Piece) :
    (pieces.filterMap (character? .mustache)).map some = pieces.map (character? .mustache) := by
  induction pieces with
  | nil => rfl
  | cons piece pieces ih => cases piece <;> simpa [character?, Mode.markers?] using ih

theorem Regex.exists_nested_pieces (inClasses : Bool) (regex : Regex) :
    ∃ own, Piece.Nested (regex.pieces inClasses) own := by
  obtain ⟨own, hnested, -⟩ := regex.remains_outline.1.nested inClasses
  rw [Outline.piecesList_toList] at hnested
  exact ⟨own, hnested⟩

/-- In the Mustache mode the characters of a template are the literals, placeholders and markers
that its pieces stand for, one for each piece. Their sections are nested, and each has a placeholder
of its identity outside of the sections within it. -/
theorem Regex.reduce_mustache_nested (inClasses : Bool) (regex : Regex) :
    ((regex.reduce .mustache).characters inClasses).map some =
        (regex.pieces inClasses).map (Piece.character? .mustache) ∧
      ∃ own, Piece.Nested (regex.pieces inClasses) own := by
  refine ⟨?_, regex.exists_nested_pieces inClasses⟩
  rw [Regex.characters_reduce, Piece.map_character?_mustache]

end PatternTemplate
