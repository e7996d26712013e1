import PatternTemplate.Pattern.Character

/-!
# Syntax trees of patterns

A `Node` is what a piece of a pattern denotes: a character, a group, a repetition, a row of pieces,
a choice, an assertion, a character class or a reference back to a group. The empty pattern has no
node, so bodies that may be empty are optional. A class is a list of nodes as well; those that a
pattern denotes hold characters and ranges only.
-/

namespace PatternTemplate

/-- A capturing group is known by its number, and by its name if it has one. -/
structure Capture where
  number : Nat
  name : Option String
  deriving DecidableEq, Repr

/-- What templates call a capturing group: its name, or else its number in decimal. -/
def Capture.identity (capture : Capture) : String :=
  capture.name.getD (toString capture.number)

inductive Quantifier.Count where
  | star
  | plus
  | optional
  | exact (count : Nat)
  /-- Between two bounds, of which the upper one may be missing. -/
  | range (min : Nat) (max : Option Nat)
  deriving DecidableEq, Repr

/-- How often a repetition repeats, and whether it takes as much as it can. -/
structure Quantifier where
  count : Quantifier.Count
  greedy : Bool
  deriving DecidableEq, Repr

inductive AssertionKind where
  | inputStart
  | inputEnd
  | wordBoundary
  | nonWordBoundary
  | lookahead
  | negativeLookahead
  | lookbehind
  | negativeLookbehind
  deriving DecidableEq, Repr

/-- Of the assertions, a quantifier may follow those that look ahead. -/
def AssertionKind.isQuantifiable : AssertionKind → Bool
  | lookahead | negativeLookahead => true
  | _ => false

inductive Backreference where
  | number (number : Nat)
  | name (name : String)
  deriving DecidableEq, Repr

inductive Node where
  | char (character : Character)
  /-- A group, which captures if it has a capture. -/
  | group (capture : Option Capture) (body : Option Node)
  | repetition (body : Node) (quantifier : Quantifier)
  /-- Pieces in a row. -/
  | alternative (parts : List Node)
  /-- A choice between two sides. -/
  | disjunction (left right : Option Node)
  | assertion (kind : AssertionKind) (body : Option Node)
  | characterClass (negative : Bool) (items : List Node)
  /-- The characters between two, in a class. -/
  | classRange (low high : Character)
  | backreference (target : Backreference)
  deriving Repr

namespace Node

/-- A place in a text, which has no body. -/
def anchor (kind : AssertionKind) : Node :=
  .assertion kind none

def capture? : Node → Option Capture
  | group capture _ => capture
  | _ => none

/-- The node of a row of pieces: none for no piece, and a single piece stands for itself. -/
def ofParts : List Node → Option Node
  | [] => none
  | [part] => some part
  | parts => some (.alternative parts)

@[simp] theorem ofParts_nil : ofParts [] = none := rfl

@[simp] theorem ofParts_singleton (part : Node) : ofParts [part] = some part := rfl

@[simp] theorem ofParts_cons_cons (first second : Node) (parts : List Node) :
    ofParts (first :: second :: parts) = some (.alternative (first :: second :: parts)) := rfl

end Node

end PatternTemplate
