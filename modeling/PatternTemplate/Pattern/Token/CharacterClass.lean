import PatternTemplate.Pattern.Fault
import PatternTemplate.Pattern.Node
import PatternTemplate.Pattern.Token.Escape

/-!
# Character classes

Between its brackets a class lists characters and ranges of characters. A dash makes a range of the
characters on its two sides, unless it is the last character of the class; if a side stands for a
whole class of characters, such as the digits, there is no range and the dash is a character of its
own.

The readers of this module count places from the start of the pattern: `start` is the place of the
opening bracket, `offset` the place of the character at hand. Each says how many characters it
takes of the text it is given.
-/

namespace PatternTemplate

def classCharacter (start offset : Nat) (c : Char) (s : List Char) :
    Except SyntaxError (Character × Nat) :=
  if c = '\\' then
    match s with
    | [] => .error ⟨start, .unterminatedClass⟩
    | letter :: rest =>
      match escape? letter rest with
      | some (character, width) => .ok (character, width + 1)
      | none => .error ⟨offset, .invalidEscape⟩
  else .ok (.simple c, 0)

/-- What a dash between two characters makes of them, for an item at the place `offset`. -/
def classSpan (offset : Nat) (low high : Character) : Except SyntaxError (List Node) :=
  match low.codePoint, high.codePoint with
  | some a, some b =>
    if b < a then .error ⟨offset, .rangeOutOfOrder⟩ else .ok [.classRange low high]
  | _, _ => .ok [.char low, .char (.simple '-'), .char high]

/-- The item of a class that begins with `c`: one character, or two with a dash between them. -/
def classItem (start offset : Nat) (c : Char) (s : List Char) :
    Except SyntaxError (List Node × Nat) := do
  let (low, width) ← classCharacter start offset c s
  match s.drop width with
  | '-' :: d :: rest =>
    if d = ']' then
      return ([.char low], width)
    else
      let (high, more) ← classCharacter start (offset + width + 2) d rest
      return (← classSpan offset low high, width + 2 + more)
  | _ => return ([.char low], width)

def classItems (start offset : Nat) (s : List Char) : Except SyntaxError (List Node × Nat) :=
  match s with
  | [] => .error ⟨start, .unterminatedClass⟩
  | c :: rest =>
    if c = ']' then .ok ([], 1)
    else do
      let (item, width) ← classItem start offset c rest
      let (items, more) ← classItems start (offset + 1 + width) (rest.drop width)
      return (item ++ items, 1 + width + more)
  termination_by s.length
  decreasing_by simp only [List.length_drop, List.length_cons]; omega

def characterClass (start : Nat) (s : List Char) : Except SyntaxError (Node × Nat) :=
  match s with
  | '^' :: rest => do
    let (items, width) ← classItems start (start + 2) rest
    return (.characterClass true items, 1 + width)
  | _ => do
    let (items, width) ← classItems start (start + 1) s
    return (.characterClass false items, width)

end PatternTemplate
