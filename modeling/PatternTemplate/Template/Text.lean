import PatternTemplate.Pattern.Regex
import PatternTemplate.Pattern.Walk

/-!
# The text of a tree

The text of a tree is the texts of its characters in document order. What is in a class or an
assertion is matched and not shown, so the walk does not go there.
-/

namespace PatternTemplate

namespace Node

def isShown : Node → Bool
  | characterClass _ _ | assertion _ _ => false
  | _ => true

/-- The text that a node contributes itself. -/
def ownText : Node → String
  | char c => c.text
  | _ => ""

def text (node : Node) : String :=
  String.join ((node.walk isShown).map ownText)

end Node

def Regex.text (regex : Regex) : String :=
  match regex.body with
  | none => ""
  | some body => body.text

end PatternTemplate
