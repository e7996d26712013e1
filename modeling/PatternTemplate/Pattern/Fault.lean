/-!
# Errors of patterns

A pattern is refused for a fault at one of its characters. A fault is kept as its cause; its text
is written by `Fault.message`, and the place is counted in characters from the start of the
pattern.
-/

namespace PatternTemplate

/-- The causes for which a pattern is refused. -/
inductive Fault where
  | unterminatedGroup
  | unmatchedParen
  | unterminatedClass
  /-- A quantifier follows nothing that can be repeated. -/
  | nothingToRepeat
  /-- The upper bound of a quantifier is smaller than the lower one. -/
  | quantifierOutOfOrder
  /-- The upper end of a range in a class is smaller than the lower one. -/
  | rangeOutOfOrder
  | trailingBackslash
  | invalidGroup
  | invalidGroupName
  | duplicateGroupName (name : String)
  /-- A reference names a group that the pattern does not have. -/
  | unknownGroupName (name : String)
  | invalidEscape
  | nestingTooDeep
  deriving DecidableEq, Repr

namespace Fault

def message : Fault → String
  | unterminatedGroup => "unterminated group"
  | unmatchedParen => "unmatched ')'"
  | unterminatedClass => "unterminated character class"
  | nothingToRepeat => "nothing to repeat"
  | quantifierOutOfOrder => "numbers out of order in \x7b\x7d quantifier"
  | rangeOutOfOrder => "range out of order in character class"
  | trailingBackslash => "\\ at end of pattern"
  | invalidGroup => "invalid group"
  | invalidGroupName => "invalid capture group name"
  | duplicateGroupName name => s!"duplicate capture group name '{name}'"
  | unknownGroupName name => s!"invalid named reference '{name}'"
  | invalidEscape => "invalid escape"
  | nestingTooDeep => "groups nested too deeply"

def name? : Fault → Option String
  | duplicateGroupName name | unknownGroupName name => some name
  | _ => none

end Fault

structure SyntaxError where
  offset : Nat
  fault : Fault
  deriving DecidableEq, Repr

def SyntaxError.message (error : SyntaxError) : String :=
  s!"invalid pattern at offset {error.offset}: {error.fault.message}"

end PatternTemplate
