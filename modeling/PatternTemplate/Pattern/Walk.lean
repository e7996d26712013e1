import PatternTemplate.Pattern.Node

/-!
# Walking through a syntax tree

`walk descend` lists the nodes of a tree in document order, a node before the nodes in it. The
test `descend` is asked at each node that the walk meets; where it says no, the nodes below are
left out. The ends of a range in a class are data of the range and no nodes of their own.
-/

namespace PatternTemplate

namespace Node

mutual

/-- The nodes of a tree in document order, without those below a node that `descend` refuses. -/
def walk (descend : Node → Bool) (node : Node) : List Node :=
  node ::
    if descend node then
      match node with
      | group _ body | assertion _ body => walkOption descend body
      | repetition body _ => walk descend body
      | alternative nodes | characterClass _ nodes => walkList descend nodes
      | disjunction left right => walkOption descend left ++ walkOption descend right
      | char _ | classRange _ _ | backreference _ => []
    else []

def walkOption (descend : Node → Bool) : Option Node → List Node
  | none => []
  | some node => walk descend node

def walkList (descend : Node → Bool) : List Node → List Node
  | [] => []
  | node :: nodes => walk descend node ++ walkList descend nodes

end

@[simp] theorem walkOption_none (descend : Node → Bool) : walkOption descend none = [] := rfl

@[simp] theorem walkOption_some (descend : Node → Bool) (node : Node) :
    walkOption descend (some node) = walk descend node := rfl

@[simp] theorem walkList_nil (descend : Node → Bool) : walkList descend [] = [] := rfl

@[simp] theorem walkList_cons (descend : Node → Bool) (node : Node) (nodes : List Node) :
    walkList descend (node :: nodes) = walk descend node ++ walkList descend nodes := rfl

theorem walkList_toList (descend : Node → Bool) (node : Option Node) :
    walkList descend node.toList = walkOption descend node := by
  cases node with
  | none => rfl
  | some node => exact List.append_nil _

theorem walkList_append (descend : Node → Bool) (front back : List Node) :
    walkList descend (front ++ back) = walkList descend front ++ walkList descend back := by
  induction front with
  | nil => rfl
  | cons node nodes ih => simp [ih]

theorem mem_walkList {descend : Node → Bool} {other : Node} {nodes : List Node} :
    other ∈ walkList descend nodes ↔ ∃ node ∈ nodes, other ∈ walk descend node := by
  induction nodes with
  | nil => simp
  | cons node nodes ih => simp [ih]

def children : Node → List Node
  | group _ body | assertion _ body => body.toList
  | repetition body _ => [body]
  | alternative nodes | characterClass _ nodes => nodes
  | disjunction left right => left.toList ++ right.toList
  | char _ | classRange _ _ | backreference _ => []

theorem walk_eq_cons (descend : Node → Bool) (node : Node) :
    walk descend node =
      node :: if descend node then walkList descend node.children else [] := by
  cases node <;> simp [walk, children, walkList_toList, walkList_append]

theorem walk_of_not_descend {descend : Node → Bool} {node : Node} (h : descend node = false) :
    walk descend node = [node] := by
  cases node <;> simp [walk, h]

theorem head?_walk (descend : Node → Bool) (node : Node) :
    (walk descend node).head? = some node := by
  cases node <;> simp [walk]

theorem mem_walk_self (descend : Node → Bool) (node : Node) : node ∈ walk descend node :=
  List.mem_of_head? (head?_walk descend node)

theorem sizeOf_lt_of_mem_children {node child : Node} (h : child ∈ node.children) :
    sizeOf child < sizeOf node := by
  -- one case for each way to have children
  cases node with
  | group capture body =>
      obtain rfl : body = some child := by simpa [children] using h
      simp only [group.sizeOf_spec, Option.some.sizeOf_spec]
      omega
  | assertion kind body =>
      obtain rfl : body = some child := by simpa [children] using h
      simp only [assertion.sizeOf_spec, Option.some.sizeOf_spec]
      omega
  | repetition body quantifier =>
      obtain rfl : child = body := by simpa [children] using h
      simp only [repetition.sizeOf_spec]
      omega
  | alternative nodes =>
      have hlt : sizeOf child < sizeOf nodes := List.sizeOf_lt_of_mem h
      simp only [alternative.sizeOf_spec]
      omega
  | characterClass negative nodes =>
      have hlt : sizeOf child < sizeOf nodes := List.sizeOf_lt_of_mem h
      simp only [characterClass.sizeOf_spec]
      omega
  | disjunction left right =>
      have hside : left = some child ∨ right = some child := by simpa [children] using h
      rcases hside with rfl | rfl
      · simp only [disjunction.sizeOf_spec, Option.some.sizeOf_spec]
        omega
      · simp only [disjunction.sizeOf_spec, Option.some.sizeOf_spec]
        omega
  | char | classRange | backreference => cases h

/-- What a node passes on to the nodes directly below it, it passes on to all that a walk meets. -/
theorem forall_mem_walk {descend : Node → Bool} {P : Node → Prop}
    (hchildren : ∀ node, P node → descend node = true → ∀ child ∈ node.children, P child)
    {node : Node} (h : P node) : ∀ other ∈ walk descend node, P other := by
  intro other hother
  rw [walk_eq_cons, List.mem_cons] at hother
  rcases hother with rfl | hother
  · exact h
  · cases hdescend : descend node with
    | false => simp [hdescend] at hother
    | true =>
        rw [hdescend, if_pos rfl, mem_walkList] at hother
        obtain ⟨child, hchild, hother⟩ := hother
        exact forall_mem_walk hchildren (hchildren node h hdescend child hchild) other hother
termination_by sizeOf node
decreasing_by exact sizeOf_lt_of_mem_children hchild

theorem walk_subset_of_mem_children {descend : Node → Bool} {node child : Node}
    (h : descend node = true) (hchild : child ∈ node.children) :
    walk descend child ⊆ walk descend node := by
  intro other hother
  rw [walk_eq_cons descend node, h, if_pos rfl]
  exact List.mem_cons_of_mem _ (mem_walkList.2 ⟨child, hchild, hother⟩)

theorem mem_walk_of_mem_walk {descend : Node → Bool} {node other : Node}
    (h : other ∈ walk descend node) : other ∈ walk (fun _ => true) node := by
  have hall : ∀ other ∈ walk descend node,
      walk (fun _ => true) other ⊆ walk (fun _ => true) node := by
    refine forall_mem_walk ?_ (List.Subset.refl _)
    intro met hmet _ child hchild
    exact List.Subset.trans (walk_subset_of_mem_children rfl hchild) hmet
  exact hall other h (mem_walk_self _ other)

end Node

end PatternTemplate
