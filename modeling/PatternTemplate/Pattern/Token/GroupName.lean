import PatternTemplate.Text.Alphabetic

/-!
# Names of groups

A name starts with a letter, an underscore or a dollar sign and goes on with these and digits, of
any script. It is closed by an angle bracket, which no name contains.
-/

namespace PatternTemplate

open Text

def isNameStart (c : Char) : Bool :=
  isAlphabetic c || c == '_' || c == '$'

def isNameChar (c : Char) : Bool :=
  isNameStart c || isAlphanumeric c

/-- The name in front of a closing angle bracket, and how many characters it takes, the bracket
included. -/
def groupName? (s : List Char) : Option (String × Nat) :=
  let name := s.takeWhile isNameChar
  match name, s.drop name.length with
  | first :: _, '>' :: _ =>
    if isNameStart first then some (String.ofList name, name.length + 1) else none
  | _, _ => none

end PatternTemplate
