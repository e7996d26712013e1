import PatternTemplate.Template.Outline.OfNode
import PatternTemplate.Template.Strip
import PatternTemplate.Template.Text

/-!
# Reducing a pattern to a template

The outline of a regular expression, written out in a mode, is again a regular expression: what is
left when the pattern is reduced to what it shows. Its text is the template. Flags and the number
of captures stay as they were. Every reduction starts with a fresh account, so no pattern uses up
what another one may expand.
-/

namespace PatternTemplate

namespace Regex

/-- The outline of a regular expression, and the account at the end of outlining. -/
def outline (regex : Regex) : Option Outline × Account :=
  (Outline.ofNodeOption 1 regex.body).run {}

/-- The regular expression reduced to what it shows in a mode. -/
def reduce (mode : Mode) (regex : Regex) : Regex :=
  { regex with body := Outline.nodeOption mode regex.outline.1 }

/-- The regular expression without a body that only matches. -/
def strip (regex : Regex) : Regex :=
  { regex with body := regex.body.bind Node.strip? }

def render (mode : Mode) (regex : Regex) : String :=
  (regex.reduce mode).text

end Regex

def convert (pattern : String) (mode : Mode) : Except SyntaxError String :=
  (Regex.ofPattern pattern).map (·.render mode)

end PatternTemplate
