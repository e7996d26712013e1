import PatternTemplate.Proofs.Template.Alike

/-!
# Nodes in frames

A frame is a node but for one of the nodes directly in it, so the frames around a node say where in
a pattern it is (`Node.fill`). Two nodes are interchangeable if from some depth on they look the
same, by themselves and as a side of a choice. Then they look the same wherever they are
(`Outline.Interchangeable.fill`), and this is so for every view: it may show everything that is
outlined, or the text of it only.
-/

namespace PatternTemplate

namespace Node

/-- A node but for one of the nodes directly in it. -/
inductive Frame where
  | group (capture : Option Capture)
  | repetition (quantifier : Quantifier)
  /-- A row but for one of its parts. -/
  | part (front back : List Node)
  /-- A choice but for its left side. -/
  | left (right : Option Node)
  /-- A choice but for its right side. -/
  | right (left : Option Node)
  | assertion (kind : AssertionKind)
  /-- A class but for one of its items. -/
  | item (negative : Bool) (front back : List Node)

def Frame.fill : Frame → Node → Node
  | group capture, node => .group capture (some node)
  | repetition quantifier, node => .repetition node quantifier
  | part front back, node => .alternative (front ++ node :: back)
  | left side, node => .disjunction (some node) side
  | right side, node => .disjunction side (some node)
  | assertion kind, node => .assertion kind (some node)
  | item negative front back, node => .characterClass negative (front ++ node :: back)

/-- Frames around a node, the outermost one first. -/
def fill (frames : List Frame) (node : Node) : Node :=
  frames.foldr Frame.fill node

@[simp] theorem fill_nil (node : Node) : fill [] node = node := rfl

@[simp] theorem fill_cons (frame : Frame) (frames : List Frame) (node : Node) :
    fill (frame :: frames) node = frame.fill (fill frames node) := rfl

theorem Frame.capture?_fill (frame : Frame) (node other : Node) :
    (frame.fill node).capture? = (frame.fill other).capture? := by
  cases frame <;> rfl

end Node

namespace Outline

open Outlining

variable {β γ : Type} {view : View β γ} {floor : Nat} {node other : Node}

theorem heading?_append_cons (h : node.capture? = other.capture?) (front back : List Node) :
    heading? (front ++ node :: back) = heading? (front ++ other :: back) := by
  simp [heading?, List.findSome?_append, List.findSome?_cons, h]

theorem alike_ofNodes_append_cons {depth : Nat}
    (h : Alike view.single (ofNode depth node) (ofNode depth other)) (front back : List Node) :
    Alike view.list (ofNodes depth (front ++ node :: back))
      (ofNodes depth (front ++ other :: back)) := by
  induction front with
  | nil =>
      have hback := alike_depth_ofNodes (.refl depth) back
      exact view.alike_cons h (hback.of_id view.list)
  | cons part front ih =>
      have hpart := alike_depth_ofNode (.refl depth) part
      exact view.alike_cons (hpart.of_id view.single) ih

/-- The nodes look the same at all depths from `floor` on, as a side of a choice and by themselves,
and by themselves they do so one level above it already. -/
structure Interchangeable (view : View β γ) (floor : Nat) (node other : Node) : Prop where
  capture? : node.capture? = other.capture?
  inside : ∀ depth, floor ≤ depth + 1 →
    Alike view.single (ofNode depth node) (ofNode depth other)
  side : ∀ depth, floor ≤ depth →
    Alike view.list (ofSide depth (some node)) (ofSide depth (some other))

namespace Interchangeable

/-- What frames interchangeable nodes looks the same two levels above `floor`: the frame is a level
of its own, and a choice puts the parts of its branches one level further down. -/
theorem alike_fill (h : Interchangeable view floor node other) (frame : Node.Frame) {depth : Nat}
    (hdepth : floor ≤ depth + 2) :
    Alike view.single (ofNode depth (frame.fill node)) (ofNode depth (frame.fill other)) := by
  have hinside := h.inside (depth + 1) hdepth
  cases frame with
  | group capture =>
      cases capture with
      | some capture => exact alike_pure rfl
      | none => exact view.alike_group hinside
  | repetition quantifier => exact view.alike_repetition quantifier hinside
  | part front back =>
      simp only [Node.Frame.fill, ofNode, heading?_append_cons h.capture? front back]
      exact view.alike_alternative (alike_ofNodes_append_cons hinside front back) _
  | left side =>
      have hback := alike_depth_ofSide (.refl (depth + 2)) side
      exact view.alike_disjunction (h.side (depth + 2) hdepth) (hback.of_id view.list)
  | right side =>
      have hfront := alike_depth_ofSide (.refl (depth + 2)) side
      exact view.alike_disjunction (hfront.of_id view.list) (h.side (depth + 2) hdepth)
  | assertion kind => exact alike_pure rfl
  | item negative front back =>
      cases negative with
      | true => exact alike_pure rfl
      | false => exact view.alike_characterClass (alike_ofNodes_append_cons hinside front back)

theorem fill_frame (h : Interchangeable view floor node other) (frame : Node.Frame) :
    Interchangeable view floor (frame.fill node) (frame.fill other) where
  capture? := frame.capture?_fill node other
  inside depth hdepth := h.alike_fill frame (Nat.le_succ_of_le hdepth)
  side depth hdepth := by
    have hside := h.side depth hdepth
    have hinside := h.inside depth (Nat.le_succ_of_le hdepth)
    have hfill := h.alike_fill frame (Nat.le_add_right_of_le hdepth)
    cases frame with
    | part front back =>
        simp only [Node.Frame.fill, ofSide, heading?_append_cons h.capture? front back]
        exact view.alike_branch (alike_ofNodes_append_cons hinside front back) _
    | left side =>
        have hback := alike_depth_ofSide (.refl depth) side
        exact view.alike_append hside (hback.of_id view.list)
    | right side =>
        have hfront := alike_depth_ofSide (.refl depth) side
        exact view.alike_append (hfront.of_id view.list) hside
    | group capture | repetition quantifier | assertion kind | item negative front back =>
        -- what is neither a row nor a choice is the only part of its branch
        simp only [Node.Frame.fill, ofSide] at hfill ⊢
        exact view.alike_branch_part hfill _

theorem fill (h : Interchangeable view floor node other) (frames : List Node.Frame) :
    Interchangeable view floor (Node.fill frames node) (Node.fill frames other) := by
  induction frames with
  | nil => exact h
  | cons frame frames ih => exact ih.fill_frame frame

end Interchangeable

end Outline

end PatternTemplate
