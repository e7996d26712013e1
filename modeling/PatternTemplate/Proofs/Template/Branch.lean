import PatternTemplate.Proofs.Template.Choice

/-!
# The branches of nested choices

A choice is between two sides, so a choice between more of them is nested, and there are many ways
to nest the same sides. The sides that are no choices again are found by going down through the
choices, turning left or right at each of them (`Node.Turn`); from left to right they are
`Node.sides`. The branches of a choice are these sides one by one, each as a row
(`Node.branches_eq_map`). Stripping and outlining see a choice as its branches only, so how its
sides are nested makes no difference to either of them, wherever the choice is
(`Regex.branches_kept`).
-/

namespace PatternTemplate

namespace Node

def isChoice : Node → Bool
  | disjunction _ _ => true
  | _ => false

theorem exists_of_isChoice {node : Node} (h : node.isChoice = true) :
    ∃ left right, node = disjunction left right := by
  cases node with
  | disjunction left right => exact ⟨left, right, rfl⟩
  | char | group | repetition | alternative | assertion | characterClass | classRange
  | backreference => cases h

def isNested : Option Node → Bool
  | none => false
  | some node => node.isChoice

/-- The sides of nested choices that are no choices themselves, from left to right. -/
def sides : Option Node → List (Option Node)
  | some (disjunction left right) => sides left ++ sides right
  | side => [side]

/-- The parts of a side that is a branch of its own: the parts of a row, nothing if there is no
side, and everything else is the only part. -/
def branch : Option Node → List Node
  | none => []
  | some (alternative parts) => parts
  | some node => [node]

/-! ### Ways through nested choices -/

inductive Turn where
  | left
  | right
  deriving DecidableEq, Repr

instance : LT Turn where
  lt turn other := turn = .left ∧ other = .right

/-- The side that is reached by a turn at every choice, if there is a choice for each turn. -/
def side? : Option Node → List Turn → Option (Option Node)
  | side, [] => some side
  | some (disjunction left _), .left :: way => side? left way
  | some (disjunction _ right), .right :: way => side? right way
  | _, _ :: _ => none

/-- The ways that lead to sides that are no choices, from left to right. -/
def ways : Option Node → List (List Turn)
  | some (disjunction left right) =>
    (ways left).map (.left :: ·) ++ (ways right).map (.right :: ·)
  | _ => [[]]

@[simp] theorem sides_disjunction (left right : Option Node) :
    sides (some (.disjunction left right)) = sides left ++ sides right := by
  rw [sides]

@[simp] theorem ways_disjunction (left right : Option Node) :
    ways (some (.disjunction left right)) =
      (ways left).map (.left :: ·) ++ (ways right).map (.right :: ·) := by
  rw [ways]

@[simp] theorem side?_nil (side : Option Node) : side? side [] = some side := by
  rw [side?]

@[simp] theorem side?_left (left right : Option Node) (way : List Turn) :
    side? (some (.disjunction left right)) (.left :: way) = side? left way := by
  rw [side?]

@[simp] theorem side?_right (left right : Option Node) (way : List Turn) :
    side? (some (.disjunction left right)) (.right :: way) = side? right way := by
  rw [side?]

section NotNested

variable {side : Option Node} (h : isNested side = false)

include h

theorem sides_of_not_isNested : sides side = [side] := by
  cases side with
  | none => simp [sides]
  | some node => cases node <;> simp_all [sides, isNested, isChoice]

theorem ways_of_not_isNested : ways side = [[]] := by
  cases side with
  | none => simp [ways]
  | some node => cases node <;> simp_all [ways, isNested, isChoice]

theorem branches_of_not_isNested : branches side = [branch side] := by
  cases side with
  | none => simp [branches, branch]
  | some node => cases node <;> simp_all [branches, branch, isNested, isChoice]

theorem side?_cons_of_not_isNested (turn : Turn) (way : List Turn) :
    side? side (turn :: way) = none := by
  cases side with
  | none => simp [side?]
  | some node => cases node <;> simp_all [side?, isNested, isChoice]

end NotNested

/-- What holds of every side that is no choice, and of a choice if it holds of both its sides, holds
of every side. -/
theorem nested_induction {P : Option Node → Prop}
    (single : ∀ side, isNested side = false → P side)
    (choice : ∀ left right, P left → P right → P (some (.disjunction left right)))
    (side : Option Node) : P side := by
  fun_induction sides side with
  | case1 left right ihl ihr => exact choice left right ihl ihr
  | case2 side h =>
      apply single
      match side with
      | none => rfl
      | some (.disjunction left right) => exact (h left right rfl).elim
      | some (.char _) | some (.group _ _) | some (.repetition _ _) | some (.alternative _)
      | some (.assertion _ _) | some (.characterClass _ _) | some (.classRange _ _)
      | some (.backreference _) => rfl

/-! ### Sides and ways -/

theorem length_sides (side : Option Node) :
    (sides side).length = (walkOption isChoice side).countP isChoice + 1 := by
  induction side using nested_induction with
  | single side h =>
      rw [sides_of_not_isNested h]
      cases side with
      | none => rfl
      | some node =>
          have hchoice : node.isChoice = false := h
          simp [walk_of_not_descend hchoice, hchoice]
  | choice left right ihl ihr =>
      simp only [sides_disjunction, List.length_append, ihl, ihr, walkOption_some, walk, isChoice,
        if_true, List.countP_cons, List.countP_append]
      omega

theorem filterMap_sides (side : Option Node) :
    (sides side).filterMap id =
      (walkOption isChoice side).filter fun node => !node.isChoice := by
  induction side using nested_induction with
  | single side h =>
      rw [sides_of_not_isNested h]
      cases side with
      | none => rfl
      | some node =>
          have hchoice : node.isChoice = false := h
          simp [walk_of_not_descend hchoice, hchoice]
  | choice left right ihl ihr =>
      have hwalk : walkOption isChoice (some (.disjunction left right)) =
          .disjunction left right :: (walkOption isChoice left ++ walkOption isChoice right) := by
        simp [walk, isChoice]
      rw [hwalk, List.filter_cons_of_neg (by simp [isChoice]), List.filter_append, ← ihl, ← ihr,
        sides_disjunction, List.filterMap_append]

theorem map_side?_ways (side : Option Node) :
    (ways side).map (side? side) = (sides side).map some := by
  induction side using nested_induction with
  | single side h => simp [ways_of_not_isNested h, sides_of_not_isNested h]
  | choice left right ihl ihr => simp [Function.comp_def, ihl, ihr]

/-- Of two ways, the one that first turns left where the other one turns right comes first. -/
theorem pairwise_ways (side : Option Node) : (ways side).Pairwise (· < ·) := by
  induction side using nested_induction with
  | single side h => simp [ways_of_not_isNested h]
  | choice left right ihl ihr =>
      rw [ways_disjunction, List.pairwise_append]
      refine ⟨?_, ?_, ?_⟩
      · rw [List.pairwise_map]
        exact ihl.imp fun hlt => List.Lex.cons hlt
      · rw [List.pairwise_map]
        exact ihr.imp fun hlt => List.Lex.cons hlt
      · intro way hway other hother
        obtain ⟨front, -, rfl⟩ := List.mem_map.1 hway
        obtain ⟨back, -, rfl⟩ := List.mem_map.1 hother
        exact List.Lex.rel ⟨rfl, rfl⟩

theorem mem_ways_iff {side : Option Node} {way : List Turn} :
    way ∈ ways side ↔ ∃ other, side? side way = some other ∧ isNested other = false := by
  induction side using nested_induction generalizing way with
  | single side h =>
      rw [ways_of_not_isNested h, List.mem_singleton]
      cases way with
      | nil => simp [h]
      | cons turn way => simp [side?_cons_of_not_isNested h]
  | choice left right ihl ihr =>
      rw [ways_disjunction]
      match way with
      | [] => simp [isNested, isChoice]
      | .left :: way => simp [ihl]
      | .right :: way => simp [ihr]

/-! ### Branches -/

theorem branches_eq_map (side : Option Node) : branches side = (sides side).map branch := by
  induction side using nested_induction with
  | single side h => simp [branches_of_not_isNested h, sides_of_not_isNested h]
  | choice left right ihl ihr => simp [branches, ihl, ihr]

theorem textList_branch {side : Option Node} (h : isNested side = false) :
    textList (branch side) = textOption side := by
  match side with
  | none => exact textList_nil
  | some (.alternative parts) => simp [branch]
  | some (.disjunction _ _) => cases h
  | some (.char _) | some (.group _ _) | some (.repetition _ _) | some (.assertion _ _)
  | some (.characterClass _ _) | some (.classRange _ _) | some (.backreference _) => simp [branch]

theorem textList_branches (side : Option Node) :
    textList ((branches side).map .alternative) = textOption side := by
  induction side using nested_induction with
  | single side h => simp [branches_of_not_isNested h, textList_branch h]
  | choice left right ihl ihr => simp [branches, ihl, ihr]

theorem text_of_strip? {node stripped : Node} (h : node.strip? = some stripped) :
    stripped.text = node.text := by
  cases node with
  | disjunction left right =>
      obtain rfl : .alternative ((branches left ++ branches right).map .alternative) = stripped :=
        Option.some.inj h
      simp [textList_branches]
  | characterClass negative items =>
      cases negative with
      | false => cases h; rfl
      | true => cases h
  | classRange | assertion => cases h
  | char | group | repetition | alternative | backreference => cases h; rfl

theorem strip?_of_isChoice {choice : Node} (h : choice.isChoice = true) :
    choice.strip? =
      some (.alternative ((sides (some choice)).map fun side => .alternative (branch side))) := by
  obtain ⟨left, right, rfl⟩ := exists_of_isChoice h
  simp [strip?, branches_eq_map, Function.comp_def]

end Node

namespace Outline

/-- How the sides of a choice are nested makes no difference to outlining. -/
theorem interchangeable_of_sides {choice other : Node} (hchoice : choice.isChoice = true)
    (hother : other.isChoice = true) (h : Node.sides (some choice) = Node.sides (some other)) :
    Interchangeable .whole 0 choice other := by
  obtain ⟨left, right, rfl⟩ := Node.exists_of_isChoice hchoice
  obtain ⟨left', right', rfl⟩ := Node.exists_of_isChoice hother
  have hside : ∀ depth, ofSide depth (some (.disjunction left right)) =
      ofSide depth (some (.disjunction left' right')) := by
    intro depth
    rw [ofSide_eq_mapM, ofSide_eq_mapM, Node.branches_eq_map, Node.branches_eq_map, h]
  constructor
  case capture? => rfl
  case inside =>
    intro depth _
    rw [ofNode_disjunction, hside, ← ofNode_disjunction]
    exact alike_depth_ofNode (.refl depth) _
  case side =>
    intro depth _
    rw [hside]
    exact alike_depth_ofSide (.refl depth) _

end Outline

namespace Regex

theorem reduce_fill_eq {node other : Node} (h : Outline.Interchangeable .whole 0 node other)
    (frames : List Node.Frame) (flags : Flags) (captures : Nat) (mode : Mode) :
    (Regex.mk (some (Node.fill frames node)) flags captures).reduce mode =
      (Regex.mk (some (Node.fill frames other)) flags captures).reduce mode := by
  have houtline : (Regex.mk (some (Node.fill frames node)) flags captures).outline.1 =
      (Regex.mk (some (Node.fill frames other)) flags captures).outline.1 :=
    ((h.fill frames).inside 1 (Nat.zero_le _) {} {} rfl).1
  rw [reduce, reduce, houtline]

/-- Stripping changes no text. A choice becomes a row of rows, one for each side that is no choice
itself, and there is one more of them than choices among the sides. These sides are in their order
from left to right, which is the order of the ways that lead to them and the order in which the
walk through the choices meets them. So choices of the same sides, however nested, are stripped to
the same row, and wherever they are, the same is left of them in both modes. -/
theorem branches_kept :
    (∀ node stripped : Node, node.strip? = some stripped → stripped.text = node.text) ∧
    (∀ choice : Node, choice.isChoice = true →
      choice.strip? = some (.alternative
        ((Node.sides (some choice)).map fun side => .alternative (Node.branch side))) ∧
      (Node.sides (some choice)).length = (choice.walk Node.isChoice).countP Node.isChoice + 1 ∧
      (Node.ways (some choice)).Pairwise (· < ·) ∧
      (∀ way, way ∈ Node.ways (some choice) ↔
        ∃ side, Node.side? (some choice) way = some side ∧ Node.isNested side = false) ∧
      (Node.ways (some choice)).map (Node.side? (some choice)) =
        (Node.sides (some choice)).map some ∧
      (Node.sides (some choice)).filterMap id =
        (choice.walk Node.isChoice).filter fun node => !node.isChoice) ∧
    (∀ choice other : Node, choice.isChoice = true → other.isChoice = true →
      Node.sides (some choice) = Node.sides (some other) →
        choice.strip? = other.strip? ∧
        ∀ (frames : List Node.Frame) (flags : Flags) (captures : Nat) (mode : Mode),
          (Regex.mk (some (Node.fill frames choice)) flags captures).reduce mode =
            (Regex.mk (some (Node.fill frames other)) flags captures).reduce mode) := by
  refine ⟨fun node stripped hstrip => Node.text_of_strip? hstrip, ?_, ?_⟩
  · intro choice hchoice
    exact ⟨Node.strip?_of_isChoice hchoice, Node.length_sides (some choice),
      Node.pairwise_ways (some choice), fun way => Node.mem_ways_iff,
      Node.map_side?_ways (some choice), Node.filterMap_sides (some choice)⟩
  · intro choice other hchoice hother hsides
    have hsame := Outline.interchangeable_of_sides hchoice hother hsides
    refine ⟨?_, reduce_fill_eq hsame⟩
    rw [Node.strip?_of_isChoice hchoice, Node.strip?_of_isChoice hother, hsides]

/-- A mark, nothing, or a greeting: the first two are a choice on the left. -/
def leftNested : Node :=
  .disjunction (some (.disjunction (some (.char (.simple '?'))) none))
    (some (.alternative greeting))

def rightNested : Node :=
  .disjunction (some (.char (.simple '?')))
    (some (.disjunction none (some (.alternative greeting))))

theorem branches_kept_greeting :
    leftNested.strip? = some (.alternative
      [.alternative [.char (.simple '?')], .alternative [], .alternative greeting]) ∧
    (leftNested.walk Node.isChoice).countP Node.isChoice = 2 ∧
    (Node.alternative
      [.alternative [.char (.simple '?')], .alternative [], .alternative greeting]).text =
        leftNested.text ∧
    rightNested.strip? = leftNested.strip? ∧
    (Regex.mk (some (.group none (some rightNested))) {} 1).reduce .mustache =
      (Regex.mk (some (.group none (some leftNested))) {} 1).reduce .mustache := by
  obtain ⟨htext, hrows, hnesting⟩ := branches_kept
  have hsides : Node.sides (some rightNested) = Node.sides (some leftNested) := by
    simp [leftNested, rightNested, Node.sides]
  obtain ⟨hsame, hreduce⟩ := hnesting rightNested leftNested rfl rfl hsides
  obtain ⟨hstrip, hlength, -⟩ := hrows leftNested rfl
  have hleft : leftNested.strip? = some (.alternative
      [.alternative [.char (.simple '?')], .alternative [], .alternative greeting]) := by
    rw [hstrip]
    simp [leftNested, Node.sides, Node.branch]
  have hcount : (Node.sides (some leftNested)).length = 3 := by
    simp [leftNested, Node.sides]
  refine ⟨hleft, ?_, htext _ _ hleft, hsame, hreduce [.group none] {} 1 .mustache⟩
  exact Nat.succ.inj (hlength.symm.trans hcount)

end Regex

end PatternTemplate
