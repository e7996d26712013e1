import PatternTemplate.Proofs.Pattern.Shape

/-!
# Renumbered captures

Capturing groups are numbered through the whole pattern, so the tree of a text depends on how many
of them stand in front of it. It depends on nothing else there: with `n` groups in front, the text
has the tree that it has by itself, but for the numbers of its captures, which are greater by `n`
(`Node.renumber`). A reference by number has its number from the text and keeps it.

All that a reading does to pieces goes along with renumbering them.
-/

namespace PatternTemplate

def Capture.renumber (n : Nat) (capture : Capture) : Capture :=
  { capture with number := capture.number + n }

namespace Node

mutual

/-- The tree with `n` added to the number of every capture. -/
def renumber (n : Nat) : Node → Node
  | group capture body => group (capture.map (Capture.renumber n)) (renumberOption n body)
  | repetition body quantifier => repetition (renumber n body) quantifier
  | alternative parts => alternative (renumberList n parts)
  | disjunction left right => disjunction (renumberOption n left) (renumberOption n right)
  | assertion kind body => assertion kind (renumberOption n body)
  | characterClass negative items => characterClass negative (renumberList n items)
  | char c => char c
  | classRange low high => classRange low high
  | backreference target => backreference target

def renumberOption (n : Nat) : Option Node → Option Node
  | none => none
  | some node => some (renumber n node)

def renumberList (n : Nat) : List Node → List Node
  | [] => []
  | node :: nodes => renumber n node :: renumberList n nodes

end

theorem renumberList_eq_map (n : Nat) (nodes : List Node) :
    renumberList n nodes = nodes.map (renumber n) := by
  induction nodes with
  | nil => rfl
  | cons node nodes ih => rw [renumberList, ih, List.map_cons]

mutual

theorem renumber_zero (node : Node) : renumber 0 node = node := by
  cases node with
  | group capture body =>
      have hcapture : capture.map (Capture.renumber 0) = capture := by cases capture <;> rfl
      rw [renumber, renumberOption_zero, hcapture]
  | repetition body quantifier => rw [renumber, renumber_zero]
  | alternative parts => rw [renumber, renumberList_zero]
  | disjunction left right => rw [renumber, renumberOption_zero, renumberOption_zero]
  | assertion kind body => rw [renumber, renumberOption_zero]
  | characterClass negative items => rw [renumber, renumberList_zero]
  | char | classRange | backreference => rfl

theorem renumberOption_zero (node : Option Node) : renumberOption 0 node = node := by
  cases node with
  | none => rfl
  | some node => rw [renumberOption, renumber_zero]

theorem renumberList_zero (nodes : List Node) : renumberList 0 nodes = nodes := by
  cases nodes with
  | nil => rfl
  | cons node nodes => rw [renumberList, renumber_zero, renumberList_zero]

end

variable (n : Nat)

theorem renumber_of_isAtom {node : Node} (h : node.isAtom = true) (hw : node.WellFormed .part) :
    renumber n node = node := by
  cases node with
  | characterClass negative items =>
      have hitem : ∀ item : Node, item.WellFormedItem → renumber n item = item := by
        intro item hitem
        cases item <;> first | rfl | exact hitem.elim
      rw [renumber, renumberList_eq_map, List.map_congr_left fun item h => hitem item (hw item h),
        List.map_id']
  | assertion kind body =>
      have hkind : kind.isLook = false := by simpa [isAtom] using h
      obtain rfl : body = none := by simpa [WellFormed, hkind] using hw
      rfl
  | char | classRange | backreference => rfl
  | _ => simp [isAtom] at h

theorem isRepeatable_renumber (node : Node) :
    (renumber n node).isRepeatable = node.isRepeatable := by
  cases node <;> rfl

theorem renumberOption_ofParts (parts : List Node) :
    renumberOption n (ofParts parts) = ofParts (parts.map (renumber n)) := by
  match parts with
  | [] => rfl
  | [part] => rfl
  | first :: second :: parts =>
      rw [ofParts_cons_cons, renumberOption, renumber, renumberList_eq_map]
      rfl

end Node

namespace Level

variable (n : Nat) (level : Level)

/-- The level with `n` added to the number of every capture. -/
def renumber : Level :=
  ⟨level.left.map (Node.renumberOption n), level.parts.map (Node.renumber n)⟩

theorem node?_renumber : (level.renumber n).node? = Node.renumberOption n level.node? := by
  obtain ⟨left, parts⟩ := level
  have hright : Node.ofParts (parts.map (Node.renumber n)).reverse =
      Node.renumberOption n (Node.ofParts parts.reverse) := by
    rw [Node.renumberOption_ofParts, List.map_reverse]
  cases left with
  | none => exact hright
  | some left =>
      simp only [renumber, node?, Option.map_some, hright, Node.renumberOption, Node.renumber]

theorem push_renumber (part : Node) :
    (level.push part).renumber n = (level.renumber n).push (part.renumber n) := rfl

theorem bar_renumber : level.bar.renumber n = (level.renumber n).bar := by
  simp only [bar, node?_renumber]
  rfl

end Level

namespace Enclosure

variable (n : Nat) (enclosure : Enclosure)

/-- The enclosure with `n` added to the number of its capture. -/
def renumber : Enclosure → Enclosure
  | group capture => group (capture.map (Capture.renumber n))
  | look kind => look kind

theorem opener_renumber : (enclosure.renumber n).opener = enclosure.opener := by
  match enclosure with
  | .group none | .group (some _) | .look _ => rfl

theorem capture?_renumber :
    (enclosure.renumber n).capture? = enclosure.capture?.map (Capture.renumber n) := by
  cases enclosure <;> rfl

theorem name_renumber :
    (enclosure.renumber n).capture?.bind Capture.name = enclosure.capture?.bind Capture.name := by
  match enclosure with
  | .group none | .group (some _) | .look _ => rfl

theorem node_renumber (body : Option Node) :
    (enclosure.renumber n).node (Node.renumberOption n body) =
      (enclosure.node body).renumber n := by
  cases enclosure <;> rfl

end Enclosure

end PatternTemplate
