import PatternTemplate.Template.Reduction

/-!
# Templates

A template remembers the pattern it was made from, its flags and its mode. Flags are part of a
regular expression and checked with it, and do not change the text.
-/

namespace PatternTemplate

/-- The template of a regular expression, together with what it was made from. -/
structure Template where
  pattern : String
  flags : Flags
  mode : Mode
  text : String
  deriving DecidableEq, Repr

namespace Template

instance : ToString Template := ⟨text⟩

def make (pattern flags : String) (mode : Mode) : Except Error Template := do
  let regex ← Regex.parse pattern flags
  return ⟨pattern, regex.flags, mode, regex.render mode⟩

def ofLiteral (literal : String) (mode : Mode) : Except Error Template :=
  match splitLiteral? literal with
  | some (pattern, flags) => make pattern flags mode
  | none => .error .malformedLiteral

/-- The template of a pattern without flags, in the default mode. -/
def ofPattern (pattern : String) : Except Error Template :=
  make pattern "" default

end Template

end PatternTemplate
