import PatternTemplate.Proofs.Template.Piece
import PatternTemplate.Template.Strip

/-!
# Leaves of patterns and of templates

What a pattern has to show are its leaves: its characters, and its capturing groups as holes
(`Node.leaves`). Which of them count depends on how far the walk through the tree descends. A
template has leaves as well, its pieces without the ends of sections (`Outline.leaves`). Both are
lists in document order, so they can be counted and compared.
-/

namespace PatternTemplate

namespace Node

/-- What a node itself can show, if it is a character or a capturing group. -/
def leaf? : Node → Option Piece
  | char c => some (.literal c)
  | group (some capture) _ => some (.hole capture.identity)
  | _ => none

/-- A walk picks the same from the branches of a side as from the side, if it goes down into rows and
choices and picks neither. -/
theorem filterMap_walkList_branches {α : Type} {f : Node → Option α} {descend : Node → Bool}
    (hrow : ∀ parts, descend (.alternative parts) = true ∧ f (.alternative parts) = none)
    (hchoice : ∀ left right, descend (.disjunction left right) = true ∧
      f (.disjunction left right) = none) (side : Option Node) :
    (walkList descend ((branches side).map .alternative)).filterMap f =
      (walkOption descend side).filterMap f := by
  fun_induction branches side with
  | case1 => simp [walk_eq_cons, hrow, children]
  | case2 left right ihl ihr =>
      simp [walk_eq_cons, hchoice, children, walkList_append, walkList_toList, ihl, ihr]
  | case3 parts => simp
  | case4 node h₁ h₂ => simp [walk_eq_cons _ (.alternative _), hrow, children]

/-- The leaves of a row of trees, as far as `descend` goes down into them. -/
def leaves (descend : Node → Bool) (nodes : List Node) : List Piece :=
  (walkList descend nodes).filterMap leaf?

section Leaves

variable (descend : Node → Bool)

@[simp] theorem leaves_nil : leaves descend [] = [] := rfl

@[simp] theorem leaves_append (front back : List Node) :
    leaves descend (front ++ back) = leaves descend front ++ leaves descend back := by
  simp [leaves, walkList_append]

theorem leaves_cons (node : Node) (nodes : List Node) :
    leaves descend (node :: nodes) = leaves descend [node] ++ leaves descend nodes :=
  leaves_append descend [node] nodes

theorem leaves_replicate (n : Nat) (node : Node) :
    leaves descend (List.replicate n node) =
      (List.replicate n (leaves descend [node])).flatten := by
  induction n with
  | zero => rfl
  | succ n ih => rw [List.replicate_succ, leaves_cons, ih, List.replicate_succ, List.flatten_cons]

theorem leaves_singleton (node : Node) :
    leaves descend [node] =
      node.leaf?.toList ++ if descend node then leaves descend node.children else [] := by
  rw [leaves, walkList_cons, walkList_nil, List.append_nil, walk_eq_cons]
  cases hleaf : node.leaf? <;> cases hdescend : descend node <;> simp [leaves, hleaf]

theorem leaves_alternative {parts : List Node} (h : descend (.alternative parts) = true) :
    leaves descend [.alternative parts] = leaves descend parts := by
  simp [leaves_singleton, leaf?, children, h]

theorem leaves_branches (hrow : ∀ parts, descend (.alternative parts) = true)
    (hchoice : ∀ left right, descend (.disjunction left right) = true) (side : Option Node) :
    leaves descend ((branches side).map .alternative) = leaves descend side.toList := by
  rw [leaves, leaves, walkList_toList]
  exact filterMap_walkList_branches (fun parts => ⟨hrow parts, rfl⟩)
    (fun left right => ⟨hchoice left right, rfl⟩) side

theorem leaves_disjunction (hrow : ∀ parts, descend (.alternative parts) = true)
    (hchoice : ∀ left right, descend (.disjunction left right) = true)
    (left right : Option Node) :
    leaves descend [.disjunction left right] =
      leaves descend ((branches left ++ branches right).map .alternative) := by
  simp [leaves_singleton, leaf?, children, hchoice, leaves_branches descend hrow hchoice]

end Leaves

end Node

namespace Outline

open Piece

/-- The leaves of a row of outlines, with those in classes or without. -/
def leaves (inClasses : Bool) (outlines : List Outline) : List Piece :=
  (piecesList inClasses outlines).filter isLeaf

section Leaves

variable (inClasses : Bool)

theorem leaves_append (front back : List Outline) :
    leaves inClasses (front ++ back) = leaves inClasses front ++ leaves inClasses back := by
  simp [leaves]

theorem leaves_row (heading : Option String) (parts : List Outline) :
    leaves inClasses [.row heading parts] = leaves inClasses parts := by
  cases heading <;> simp [leaves, pieces, isLeaf, isMarker]

theorem leaves_group (body : Option Outline) :
    leaves inClasses [.group body] = leaves inClasses body.toList := by
  simp [leaves, pieces]

theorem leaves_repetition (body : Option Outline) (quantifier : Quantifier) :
    leaves inClasses (body.map (.repetition · quantifier)).toList =
      leaves inClasses body.toList := by
  simp [leaves]

theorem leaves_characterClass (items : List Outline) :
    leaves inClasses [.characterClass items] = if inClasses then leaves inClasses items else [] := by
  cases inClasses <;> simp [leaves, pieces]

end Leaves

end Outline

def Regex.leaves (descend : Node → Bool) (regex : Regex) : List Piece :=
  (Node.walkOption descend regex.body).filterMap Node.leaf?

theorem Regex.leaves_eq (descend : Node → Bool) (regex : Regex) :
    regex.leaves descend = Node.leaves descend regex.body.toList := by
  rw [Regex.leaves, Node.leaves, Node.walkList_toList]

theorem Regex.filter_isLeaf_pieces (inClasses : Bool) (regex : Regex) :
    (regex.pieces inClasses).filter Piece.isLeaf =
      Outline.leaves inClasses regex.outline.1.toList := by
  rw [Regex.pieces, Outline.leaves, Outline.piecesList_toList]

end PatternTemplate
