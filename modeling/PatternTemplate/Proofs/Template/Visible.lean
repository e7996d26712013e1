import Mathlib.Data.List.Forall2
import PatternTemplate.Proofs.Template.Leaf
import PatternTemplate.Proofs.Template.Remains

/-!
# What a template must show

A character or a capturing group of a pattern is visible unless something around it hides it: an
assertion, a class, another capturing group, or a repetition of no times. A template shows all that
is visible, in the order of the pattern, and shows nothing else. It may write a run of visible
leaves several times, and the copies may differ, since what is repeated in one of them may be kept
in another (`Piece.Repeats`). With copies left or not, a repetition that is kept is shown once.
-/

namespace PatternTemplate

namespace Piece

/-- The shown pieces are the visible ones from left to right, with runs of them written once more
behind themselves. -/
inductive Repeats : List Piece → List Piece → Prop
  | refl (pieces : List Piece) : Repeats pieces pieces
  | append {front back shown more : List Piece} (hfront : Repeats front shown)
      (hback : Repeats back more) : Repeats (front ++ back) (shown ++ more)
  | again {run shown more : List Piece} (h : Repeats run shown) (hmore : Repeats run more) :
      Repeats run (shown ++ more)

namespace Repeats

variable {visible shown run : List Piece}

theorem sublist (h : Repeats visible shown) : visible.Sublist shown := by
  induction h with
  | refl pieces => exact List.Sublist.refl pieces
  | append _ _ ihfront ihback => exact ihfront.append ihback
  | again _ _ ih _ => exact ih.trans (List.sublist_append_left _ _)

theorem subset (h : Repeats visible shown) : shown ⊆ visible := by
  induction h with
  | refl pieces => exact List.Subset.refl pieces
  | append _ _ ihfront ihback =>
      exact List.append_subset.2 ⟨List.subset_append_of_subset_left _ ihfront,
        List.subset_append_of_subset_right _ ihback⟩
  | again _ _ ih ihmore => exact List.append_subset.2 ⟨ih, ihmore⟩

theorem flatten {copies : List (List Piece)} (hne : copies ≠ [])
    (h : ∀ copy ∈ copies, Repeats run copy) : Repeats run copies.flatten := by
  induction copies with
  | nil => contradiction
  | cons copy copies ih =>
      rw [List.forall_mem_cons] at h
      rw [List.flatten_cons]
      by_cases hlast : copies = []
      · subst hlast
        rw [List.flatten_nil, List.append_nil]
        exact h.1
      · exact h.1.again (ih hlast h.2)

end Repeats

end Piece

namespace Node

def isOpen : Node → Bool
  | assertion _ _ | characterClass _ _ | group (some _) _ => false
  | repetition _ quantifier => quantifier.count != .exact 0
  | _ => true

theorem leaves_isOpen_repetition (body : Node) {quantifier : Quantifier}
    (h : quantifier.count ≠ .exact 0) :
    leaves isOpen [.repetition body quantifier] = leaves isOpen [body] := by
  simp [leaves_singleton isOpen (.repetition body quantifier), leaf?, children, isOpen, h]

end Node

namespace Outline

open Node Piece

/-- Each node shows a part of what the outlines show, and the parts are shown in order. -/
def Shows (nodes : List Node) (outlines : List Outline) : Prop :=
  ∃ parts, List.Forall₂ (fun node part => Repeats (Node.leaves isOpen [node]) part) nodes parts ∧
    parts.flatten = leaves false outlines

section Shows

variable {nodes front back : List Node} {outlines more : List Outline} {node : Node}

theorem Shows.single (h : Repeats (Node.leaves isOpen [node]) (leaves false outlines)) :
    Shows [node] outlines :=
  ⟨[leaves false outlines], .cons h .nil, by simp⟩

theorem Shows.append (hfront : Shows front outlines) (hback : Shows back more) :
    Shows (front ++ back) (outlines ++ more) := by
  obtain ⟨parts, hparts, hflatten⟩ := hfront
  obtain ⟨others, hothers, hflatten'⟩ := hback
  refine ⟨parts ++ others, List.rel_append hparts hothers, ?_⟩
  rw [List.flatten_append, hflatten, hflatten', leaves_append]

theorem Shows.repeats (h : Shows nodes outlines) :
    Repeats (Node.leaves isOpen nodes) (leaves false outlines) := by
  obtain ⟨parts, hparts, hflatten⟩ := h
  rw [← hflatten]
  clear hflatten
  induction hparts with
  | nil => exact .refl []
  | @cons node part nodes parts hpart _ ih =>
      rw [Node.leaves_cons, List.flatten_cons]
      exact hpart.append ih

theorem Shows.repeats_of_replicate {n : Nat} (hn : n ≠ 0)
    (h : Shows (List.replicate n node) outlines) :
    Repeats (Node.leaves isOpen [node]) (leaves false outlines) := by
  obtain ⟨parts, hparts, hflatten⟩ := h
  rw [← hflatten]
  have hlength : n = parts.length := by simpa using hparts.length_eq
  refine Repeats.flatten (List.ne_nil_of_length_pos (by omega)) fun part hpart => ?_
  obtain ⟨i, hi, rfl⟩ := List.getElem_of_mem hpart
  have hnode : i < (List.replicate n node).length := hparts.length_eq ▸ hi
  simpa using hparts.get hnode hi

end Shows

/-- What remains of some nodes shows what is visible in them. -/
theorem Remains.shows {nodes : List Node} {noted : List Event} {outlines : List Outline}
    (h : Remains nodes noted outlines) : Shows nodes outlines := by
  induction h with
  | nil => exact ⟨[], .nil, rfl⟩
  | append _ _ ihfront ihback => exact ihfront.append ihback
  | char c => exact .single (.refl [.literal c])
  | backreference target => exact .single (.refl [])
  | @nothing node hstrip =>
      -- what is dropped shows nothing
      have hnone : Node.leaves isOpen [node] = [] := by
        cases node <;> simp_all [strip?, leaves_singleton, leaf?, children, isOpen]
      refine .single ?_
      rw [hnone]
      exact .refl []
  | characterClass _ _ => exact .single (.refl [])
  | hole capture body => exact .single (.refl [.hole capture.identity])
  | @group body noted outline _ ih =>
      have hbody : Node.leaves isOpen [.group none body] = Node.leaves isOpen body.toList := by
        simp [leaves_singleton, leaf?, children, isOpen]
      refine .single ?_
      rw [hbody, leaves_group]
      exact ih.repeats
  | @expanded body quantifier n _ _ outlines hcount _ ih =>
      refine .single ?_
      rw [leaves_row]
      -- no copies hide their body, one copy or more show it
      by_cases hn : n = 0
      · subst hn
        have hnone : Node.leaves isOpen [.repetition body quantifier] = [] := by
          simp [leaves_singleton, leaf?, isOpen, hcount]
        rw [hnone]
        exact ih.repeats
      · have hopen : quantifier.count ≠ .exact 0 := by simpa [hcount] using hn
        rw [leaves_isOpen_repetition body hopen]
        exact ih.repeats_of_replicate hn
  | @kept body quantifier n left _ outline hcount hlt _ ih =>
      -- copies of no times are always left, so what is kept is repeated at least once
      have hn : n ≠ 0 := Nat.ne_zero_of_lt hlt
      have hopen : quantifier.count ≠ .exact 0 := by simpa [hcount] using hn
      refine .single ?_
      rw [leaves_isOpen_repetition body hopen, leaves_repetition]
      exact ih.repeats
  | unfixed hcount _ ih =>
      refine .single ?_
      rw [leaves_isOpen_repetition _ (hcount 0), leaves_repetition]
      exact ih.repeats
  | row _ ih | headed _ _ ih =>
      refine .single ?_
      rw [leaves_alternative isOpen rfl, leaves_row]
      exact ih.repeats
  | disjunction _ ih =>
      refine .single ?_
      rw [leaves_disjunction isOpen (fun _ => rfl) (fun _ _ => rfl), leaves_row]
      exact ih.repeats

end Outline

def Regex.visible (regex : Regex) : List Piece :=
  regex.leaves Node.isOpen

/-- What is visible in a regular expression is shown by its template in order, with some runs of it
repeated, and nothing else is. This holds whatever copies are left, so each visible group has its
placeholder. -/
theorem Regex.render_repeats_visible (mode : Mode) (regex : Regex) :
    regex.render mode = String.join ((regex.pieces false).map (Piece.text mode)) ∧
      Piece.Repeats regex.visible ((regex.pieces false).filter Piece.isLeaf) ∧
      (regex.visible.Sublist ((regex.pieces false).filter Piece.isLeaf) ∧
        ∀ piece ∈ (regex.pieces false).filter Piece.isLeaf, piece ∈ regex.visible) ∧
      ∀ capture body, .group (some capture) body ∈ Node.walkOption Node.isOpen regex.body →
        .hole capture.identity ∈ regex.pieces false := by
  have hrepeats : Piece.Repeats regex.visible ((regex.pieces false).filter Piece.isLeaf) := by
    have hremains := regex.remains_outline.1.shows.repeats
    rwa [← Regex.leaves_eq, ← Regex.filter_isLeaf_pieces] at hremains
  refine ⟨regex.render_eq_join mode, hrepeats, ⟨hrepeats.sublist, ?_⟩, ?_⟩
  · intro piece hpiece
    exact hrepeats.subset hpiece
  · intro capture body hgroup
    have hvisible : .hole capture.identity ∈ regex.visible :=
      List.mem_filterMap.2 ⟨.group (some capture) body, hgroup, rfl⟩
    exact (List.mem_filter.1 (hrepeats.sublist.mem hvisible)).1

/-- A group repeated more often than copies can be made, behind a group that only looks ahead. -/
def Regex.overdrawn : Regex where
  body := some <| .alternative [
    .assertion .lookahead (some (.group (some ⟨1, none⟩) none)),
    .repetition (.group (some ⟨2, some "word"⟩) (some (.char (.simple 'a'))))
      ⟨.exact (copyLimit + 1), true⟩,
    .char (.simple '!')]
  flags := {}
  captures := 2

theorem Regex.render_repeats_visible_overdrawn :
    overdrawn.visible = [.hole "word", .literal (.simple '!')] ∧
      .hole "word" ∈ overdrawn.pieces false ∧ .hole "1" ∉ overdrawn.pieces false := by
  have hvisible : overdrawn.visible = [.hole "word", .literal (.simple '!')] := rfl
  obtain ⟨-, -, ⟨-, honly⟩, hgroups⟩ := Regex.render_repeats_visible .mustache overdrawn
  refine ⟨hvisible, ?_, fun hlook => ?_⟩
  · refine hgroups ⟨2, some "word"⟩ (some (.char (.simple 'a'))) ?_
    simp [overdrawn, Node.walk, Node.isOpen, copyLimit]
  · have hmem := honly (.hole "1") (List.mem_filter.2 ⟨hlook, rfl⟩)
    rw [hvisible] at hmem
    simp at hmem

end PatternTemplate
