import PatternTemplate.Pattern.Node
import PatternTemplate.Template.Mode

/-!
# Outlines

An outline is what remains of a pattern once everything that only serves to match is gone, before a
mode is chosen: capturing groups are holes with an identity, and a row of parts may be headed by
the identity of the group that it depends on. So both modes share one outline, and writing it out
in a mode gives back a syntax tree (`Outline.node`).
-/

namespace PatternTemplate

/-- What a template keeps of a pattern, whatever the mode. -/
inductive Outline where
  | char (character : Character)
  /-- The place of a capturing group. -/
  | hole (identity : String)
  | backreference (target : Backreference)
  /-- A group that does not capture. -/
  | group (body : Option Outline)
  | repetition (body : Outline) (quantifier : Quantifier)
  /-- Parts in a row. A heading makes them a section for the group with that identity. -/
  | row (heading : Option String) (parts : List Outline)
  /-- A class that is not negated. -/
  | characterClass (items : List Outline)
  deriving Repr

/-- The parts of a row between the markers that a mode sets for its heading, if it sets any. -/
def Mode.frame (mode : Mode) (heading : Option String) (parts : List Node) : List Node :=
  match heading.bind mode.markers? with
  | some (first, last) =>
    .char (.placeholder first) :: parts ++ [.char (.placeholder last)]
  | none => parts

@[simp] theorem Mode.frame_none (mode : Mode) (parts : List Node) :
    mode.frame none parts = parts := rfl

@[simp] theorem Mode.frame_plain (heading : Option String) (parts : List Node) :
    Mode.plain.frame heading parts = parts := by
  cases heading <;> rfl

namespace Outline

mutual

def node (mode : Mode) : Outline → Node
  | char c => .char c
  | hole identity => .char (.placeholder (mode.placeholder identity))
  | backreference target => .backreference target
  | group body => .group none (nodeOption mode body)
  | repetition body quantifier => .repetition (node mode body) quantifier
  | row heading parts => .alternative (mode.frame heading (nodes mode parts))
  | characterClass items => .characterClass false (nodes mode items)

def nodeOption (mode : Mode) : Option Outline → Option Node
  | none => none
  | some outline => some (node mode outline)

def nodes (mode : Mode) : List Outline → List Node
  | [] => []
  | outline :: outlines => node mode outline :: nodes mode outlines

end

theorem nodes_eq_map (mode : Mode) (outlines : List Outline) :
    nodes mode outlines = outlines.map (node mode) := by
  induction outlines with
  | nil => rfl
  | cons outline outlines ih => simp [nodes, ih]

end Outline

end PatternTemplate
