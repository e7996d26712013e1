import PatternTemplate.Pattern.Token.Bounds
import PatternTemplate.Pattern.Token.CharacterClass
import PatternTemplate.Pattern.Token.GroupName

/-!
# Tokens of a pattern

A pattern is a row of tokens: bars, the openings and closings of groups, quantifiers, and atoms,
which are the pieces without pieces of their own (a character class counts as one). Which token
stands at a place does not depend on what comes before it, so reading a token needs no state
(`Token.read`). Reading is given the first character of the token, and says how many characters
behind it belong to the token as well.
-/

namespace PatternTemplate

open Text

inductive Opener where
  | capture (name : Option String)
  | plain
  /-- An assertion that looks around. -/
  | look (kind : AssertionKind)
  deriving DecidableEq, Repr

inductive Token where
  | bar
  | opening (opener : Opener)
  | closing
  | quantifier (quantifier : Quantifier)
  | atom (node : Node)
  deriving Repr

namespace Token

/-- The opening of a group whose parenthesis is at the place `offset`. -/
def readOpening (offset : Nat) (s : List Char) : Except SyntaxError (Opener × Nat) :=
  match s with
  | '?' :: '=' :: _ => .ok (.look .lookahead, 2)
  | '?' :: '!' :: _ => .ok (.look .negativeLookahead, 2)
  | '?' :: '<' :: '=' :: _ => .ok (.look .lookbehind, 3)
  | '?' :: '<' :: '!' :: _ => .ok (.look .negativeLookbehind, 3)
  | '?' :: ':' :: _ => .ok (.plain, 2)
  | '?' :: '<' :: rest =>
    match groupName? rest with
    | some (name, width) => .ok (.capture (some name), width + 2)
    | none => .error ⟨offset + 3, .invalidGroupName⟩
  | '?' :: _ => .error ⟨offset + 1, .invalidGroup⟩
  | _ => .ok (.capture none, 0)

/-- The atom of an escape whose backslash is at the place `offset`. -/
def readEscape (offset : Nat) (s : List Char) : Except SyntaxError (Node × Nat) :=
  match s with
  | [] => .error ⟨offset, .trailingBackslash⟩
  | 'b' :: _ => .ok (.anchor .wordBoundary, 1)
  | 'B' :: _ => .ok (.anchor .nonWordBoundary, 1)
  | 'k' :: '<' :: rest =>
    match groupName? rest with
    | some (name, width) => .ok (.backreference (.name name), width + 2)
    | none => .error ⟨offset + 3, .invalidGroupName⟩
  | letter :: rest =>
    if letter.isDigit && letter != '0' then
      let digits := leadingDigits s
      .ok (.backreference (.number (decimalNumber digits)), digits.length)
    else
      match escape? letter rest with
      | some (character, width) => .ok (.char character, width + 1)
      | none => .error ⟨offset, .invalidEscape⟩

/-- The quantifier of a count that has taken `width` characters so far, in front of the text `s`: a
question mark behind the count makes it take as little as it can. -/
def ofCount (count : Quantifier.Count) (width : Nat) (s : List Char) : Token × Nat :=
  match s with
  | '?' :: _ => (.quantifier ⟨count, false⟩, width + 1)
  | _ => (.quantifier ⟨count, true⟩, width)

/-- The token of an opening brace at the place `offset`: a quantifier, or the brace itself. -/
def readBrace (offset : Nat) (s : List Char) : Except SyntaxError (Token × Nat) :=
  match bounds? s with
  | none => .ok (.atom (.char (.simple '{')), 0)
  | some (bounds, width) =>
    match bounds.count? with
    | none => .error ⟨offset, .quantifierOutOfOrder⟩
    | some count => .ok (ofCount count width (s.drop width))

/-- The token that begins with the character `c` at the place `offset`, and how many characters of
the text `s` behind it belong to it. -/
def read (offset : Nat) (c : Char) (s : List Char) : Except SyntaxError (Token × Nat) :=
  match c with
  | '|' => .ok (.bar, 0)
  | '(' => do
    let (opener, width) ← readOpening offset s
    return (.opening opener, width)
  | ')' => .ok (.closing, 0)
  | '*' => .ok (ofCount .star 0 s)
  | '+' => .ok (ofCount .plus 0 s)
  | '?' => .ok (ofCount .optional 0 s)
  | '{' => readBrace offset s
  | '[' => do
    let (node, width) ← characterClass offset s
    return (.atom node, width)
  | '\\' => do
    let (node, width) ← readEscape offset s
    return (.atom node, width)
  | '.' => .ok (.atom (.char (.symbolic "." none)), 0)
  | '^' => .ok (.atom (.anchor .inputStart), 0)
  | '$' => .ok (.atom (.anchor .inputEnd), 0)
  | _ => .ok (.atom (.char (.simple c)), 0)

end Token

end PatternTemplate
