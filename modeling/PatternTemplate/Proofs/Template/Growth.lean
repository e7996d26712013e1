import PatternTemplate.Proofs.Template.Leaf
import PatternTemplate.Proofs.Template.Section

/-!
# How large a template can be

Copies are made before the repetitions within them are asked for, so nested counts could multiply.
They do not, since all of them are taken off one account. Each copy that is made adds at most the
leaves of one node to what the pattern has, and no node has more leaves than the pattern. So a
template has at most so many leaves for each leaf of the pattern as there may be copies, and one
more (`Regex.growth_le`).
-/

namespace PatternTemplate

namespace Node

/-- The number of characters and capturing groups in a row of trees, wherever they are. -/
def weight (nodes : List Node) : Nat :=
  (leaves (fun _ => true) nodes).length

@[simp] theorem weight_append (front back : List Node) :
    weight (front ++ back) = weight front + weight back := by
  simp [weight]

@[simp] theorem weight_replicate (n : Nat) (node : Node) :
    weight (List.replicate n node) = n * weight [node] := by
  simp [weight, leaves_replicate]

theorem weight_singleton (node : Node) :
    weight [node] = node.leaf?.toList.length + weight node.children := by
  simp [weight, leaves_singleton]

theorem weight_disjunction (left right : Option Node) :
    weight [.disjunction left right] =
      weight ((branches left ++ branches right).map .alternative) := by
  rw [weight, leaves_disjunction _ (fun _ => rfl) (fun _ _ => rfl), weight]

theorem weight_le_of_mem {nodes : List Node} {limit : Nat} (h : weight nodes ≤ limit) :
    ∀ node ∈ nodes, weight [node] ≤ limit := by
  intro node hnode
  obtain ⟨front, back, rfl⟩ := List.append_of_mem hnode
  have hsplit : front ++ node :: back = front ++ ([node] ++ back) := rfl
  rw [hsplit, weight_append, weight_append] at h
  omega

end Node

namespace Outline

open Node

def size (outlines : List Outline) : Nat :=
  (leaves true outlines).length

theorem size_append (front back : List Outline) :
    size (front ++ back) = size front + size back := by
  simp [size, leaves_append]

/-- What remains of some nodes has their leaves once, and for each copy that is made at most the
leaves of one node more. -/
theorem Remains.size_le {nodes : List Node} {noted : List Event} {outlines : List Outline}
    (h : Remains nodes noted outlines) {limit : Nat}
    (hlimit : ∀ node ∈ nodes, weight [node] ≤ limit) :
    size outlines ≤ weight nodes + limit * copiesMade noted := by
  induction h with
  | nil => simp [size, leaves]
  | append _ _ ihfront ihback =>
      rw [List.forall_mem_append] at hlimit
      have hfront := ihfront hlimit.1
      have hback := ihback hlimit.2
      rw [size_append, weight_append, copiesMade_append, Nat.mul_add]
      omega
  | char c => simp [size, leaves, pieces, Piece.isLeaf, Piece.isMarker, weight_singleton, leaf?]
  | backreference target => simp [size, leaves, pieces]
  | nothing _ => simp [size, leaves]
  | hole capture body =>
      have hsize : size [.hole capture.identity] = 1 := rfl
      rw [hsize, weight_singleton]
      simp only [leaf?, Option.toList_some, List.length_singleton]
      omega
  | @characterClass items noted outlines _ ih =>
      have hweight : weight [.characterClass false items] = weight items := by
        simp [weight_singleton, leaf?, children]
      rw [List.forall_mem_singleton, hweight] at hlimit
      rw [size, leaves_characterClass, hweight]
      exact ih (weight_le_of_mem hlimit)
  | @group body noted outline _ ih =>
      have hweight : weight [.group none body] = weight body.toList := by
        simp [weight_singleton, leaf?, children]
      rw [List.forall_mem_singleton, hweight] at hlimit
      rw [size, leaves_group, hweight]
      exact ih (weight_le_of_mem hlimit)
  | @expanded body quantifier n left noted outlines _ _ ih =>
      have hweight : weight [.repetition body quantifier] = weight [body] := by
        simp [weight_singleton (.repetition body quantifier), leaf?, children]
      rw [List.forall_mem_singleton, hweight] at hlimit
      have hcopies := ih fun node hnode => List.eq_of_mem_replicate hnode ▸ hlimit
      -- each copy weighs no more than the limit, and their number is part of what was made
      have hpaid : n * weight [body] ≤ limit * n := by
        rw [Nat.mul_comm]
        exact Nat.mul_le_mul_right n hlimit
      rw [weight_replicate, size] at hcopies
      rw [size, leaves_row, copiesMade_cons, Event.copies_expanded, Nat.mul_add]
      omega
  | @kept body quantifier _ _ noted outline _ _ _ ih
  | @unfixed body quantifier noted outline _ _ ih =>
      have hweight : weight [.repetition body quantifier] = weight [body] := by
        simp [weight_singleton (.repetition body quantifier), leaf?, children]
      rw [List.forall_mem_singleton, hweight] at hlimit
      have hbody := ih (List.forall_mem_singleton.2 hlimit)
      simpa [size, leaves_repetition, hweight] using hbody
  | @row parts noted outlines _ ih | @headed parts identity noted outlines _ _ ih =>
      have hweight : weight [.alternative parts] = weight parts := by
        simp [weight_singleton, leaf?, children]
      rw [List.forall_mem_singleton, hweight] at hlimit
      have hparts := ih (weight_le_of_mem hlimit)
      simpa [size, leaves_row, hweight] using hparts
  | disjunction _ ih =>
      rw [List.forall_mem_singleton, weight_disjunction] at hlimit
      rw [size, leaves_row, weight_disjunction]
      exact ih (weight_le_of_mem hlimit)

end Outline

/-- The events of outlining are a ledger of the copies that there may be, so no more are made. Of
the characters of a template, those that are no markers are at most so many for each leaf of the
pattern as there may be copies, and one more. Of the markers there are at most two for each
placeholder. -/
theorem Regex.growth_le (mode : Mode) (regex : Regex) :
    (Ledger copyLimit regex.outline.2.events.toList regex.outline.2.remaining ∧
        copiesMade regex.outline.2.events.toList ≤ copyLimit) ∧
      (regex.reduce mode).characters true =
          (regex.pieces true).filterMap (Piece.character? mode) ∧
        ((regex.pieces true).filter Piece.isLeaf).length ≤
            (copyLimit + 1) * (regex.leaves fun _ => true).length ∧
          (regex.pieces true).countP Piece.isMarker ≤
            2 * (regex.pieces true).countP Piece.isHole := by
  obtain ⟨hremains, hledger⟩ := regex.remains_outline
  have hmade : copiesMade regex.outline.2.events.toList ≤ copyLimit := by
    have hsum := hledger.copiesMade_add
    omega
  refine ⟨⟨hledger, hmade⟩, regex.characters_reduce true mode, ?_, ?_⟩
  · have hsize := hremains.size_le (Node.weight_le_of_mem (Nat.le_refl _))
    rw [Outline.size, ← Regex.filter_isLeaf_pieces, Node.weight, ← Regex.leaves_eq] at hsize
    calc ((regex.pieces true).filter Piece.isLeaf).length
        ≤ (regex.leaves fun _ => true).length +
            (regex.leaves fun _ => true).length *
              copiesMade regex.outline.2.events.toList := hsize
      _ ≤ (regex.leaves fun _ => true).length +
            (regex.leaves fun _ => true).length * copyLimit :=
          Nat.add_le_add_left (Nat.mul_le_mul_left _ hmade) _
      _ = (copyLimit + 1) * (regex.leaves fun _ => true).length := by
          rw [Nat.add_mul, Nat.one_mul, Nat.mul_comm, Nat.add_comm]
  · -- both ends of a section belong to one hole
    obtain ⟨own, hnested⟩ := regex.exists_nested_pieces true
    have hmarkers := hnested.countP_isMarker_le
    omega

end PatternTemplate
