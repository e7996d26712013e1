import PatternTemplate.Pattern.Regex
import PatternTemplate.Proofs.Text.Word

/-!
# Reading a pattern by descent

A pattern can also be read by descending into its groups: a choice reads its rows, a row its terms,
a term its atom, and the atom of a group the choice in it (`descend`). Such a reader keeps one place
in the pattern. It looks at the character there, goes on behind it, and where a reader finds that
its characters are not there, the place is put back. All of this can go wrong in ways in which a
pattern cannot: a place behind the end, a part of the pattern that does not exist, a loop that stays
where it is, a character that was seen and is gone. Here each of them stops the reading with a
`Defect`, so that it can be said and proved that none of them happens.
-/

namespace PatternTemplate

open Text

/-- What must not happen when a pattern is read. -/
inductive Defect where
  /-- A place behind the end or in front of the start, or a part of the pattern beyond these. -/
  | overrun
  /-- A loop takes more turns than the pattern has characters. -/
  | endless
  /-- More groups are open at once than the limit allows. -/
  | tooDeep
  /-- An atom begins where no character is left. -/
  | noCharacter
  /-- The second end of a range in a class is missing, although its dash and more has been seen. -/
  | noRangeEnd
  /-- A reference begins with a digit and has no number. -/
  | noNumber
  deriving DecidableEq, Repr

/-- Why a descent stops: the pattern is refused, or something went wrong that must not. -/
inductive Stop where
  | refused (error : SyntaxError)
  | defect (defect : Defect)
  deriving DecidableEq, Repr

/-- What a descent keeps: the place it has come to, and what it has met so far. -/
structure Cursor where
  place : Nat := 0
  /-- The number of capturing groups. -/
  captures : Nat := 0
  /-- The names of groups, the last one first. -/
  names : List String := []
  /-- The places and names of the named references, the last one first. -/
  references : List (Nat × String) := []
  /-- The number of groups that are open. -/
  nesting : Nat := 0
  deriving DecidableEq, Repr

abbrev Descent (α : Type) := StateT Cursor (Except Stop) α

namespace Descent

def refuse {α : Type} (offset : Nat) (fault : Fault) : Descent α :=
  throw (.refused ⟨offset, fault⟩)

def fail {α : Type} (defect : Defect) : Descent α :=
  throw (.defect defect)

def place : Descent Nat := return (← get).place

section

variable (text : List Char)

/-! ### Places and characters -/

/-- Goes to a place. The end of the pattern is the last one there is. -/
def goTo (next : Nat) : Descent Unit :=
  if next ≤ text.length then modify ({ · with place := next }) else fail .overrun

def forward : Descent Unit := do goTo text ((← place) + 1)

def previous : Descent Nat := do
  match ← place with
  | 0 => fail .overrun
  | before + 1 => return before

def slice (first last : Nat) : Descent (List Char) :=
  if first ≤ last ∧ last ≤ text.length then return (text.take last).drop first else fail .overrun

def peekAt (ahead : Nat) : Descent (Option Char) := return text[(← place) + ahead]?

def peek : Descent (Option Char) := peekAt text 0

def bump : Descent (Option Char) := do
  match ← peek text with
  | none => return none
  | some c =>
    forward text
    return some c

def eat (c : Char) : Descent Bool := do
  if (← peek text) = some c then
    forward text
    return true
  else return false

def eatAll (cs : List Char) : Descent Bool := do
  let start ← place
  if start + cs.length ≤ text.length then
    let rest ← slice text start text.length
    if (cs.zip rest).all fun (c, d) => c == d then
      goTo text (start + cs.length)
      return true
    else return false
  else return false

/-! ### Quantifiers -/

/-- The digits of a number from here on, behind digits with the given value. -/
def digits : Nat → Option Nat → Descent (Option Nat)
  | 0, _ => fail .endless
  | turns + 1, value => do
    match ← peek text with
    | none => return value
    | some d =>
      if d.isDigit then
        forward text
        let shifted := min (value.getD 0 * 10) numberLimit
        digits turns (some (min (shifted + digitValue d) numberLimit))
      else return value

def number : Descent (Option Nat) :=
  digits text (text.length + 1) none

/-- The upper bound behind the lower one: a number or nothing behind a comma, and the lower bound
where there is no comma. -/
def upperBound (min : Nat) : Descent (Option Nat) := do
  if ← eat text ',' then number text else return some min

/-- The count of bounds in front of the closing brace. Where that brace is missing, the place is put
back to the opening one. -/
def closeBraces (start : Nat) (bounds : Bounds) : Descent (Option Quantifier.Count) := do
  if ← eat text '}' then
    match bounds.max with
    | none => return some (.range bounds.min none)
    | some max =>
      if max < bounds.min then refuse start .quantifierOutOfOrder
      else if max = bounds.min then return some (.exact bounds.min)
      else return some (.range bounds.min (some max))
  else
    goTo text start
    return none

/-- The count in the braces here. Where the brace opens no quantifier, it is left alone. -/
def bracedCount : Descent (Option Quantifier.Count) := do
  let start ← place
  forward text
  match ← number text with
  | none =>
    goTo text start
    return none
  | some min =>
    let max ← upperBound text min
    closeBraces text start ⟨min, max⟩

def counted (count : Quantifier.Count) : Descent (Option Quantifier) := do
  return some ⟨count, !(← eat text '?')⟩

def quantifier : Descent (Option Quantifier) := do
  match ← peek text with
  | some '*' =>
    forward text
    counted text .star
  | some '+' =>
    forward text
    counted text .plus
  | some '?' =>
    forward text
    counted text .optional
  | some '{' =>
    match ← bracedCount text with
    | some count => counted text count
    | none => return none
  | _ => return none

/-! ### Escapes -/

/-- So many hexadecimal digits with their value. Where they are not all there, nothing is taken. -/
def hexDigits (count : Nat) : Descent (Option (List Char × Nat)) := do
  let start ← place
  if start + count ≤ text.length then
    let digits ← slice text start (start + count)
    if digits.all isHexDigit then
      match checkedNumber? 16 digits with
      | none => return none
      | some value =>
        goTo text (start + count)
        return some (digits, value)
    else return none
  else return none

/-- The text of a code point, in four digits or in braces, with its value. Where there is none,
nothing is taken. -/
def unicodeDigits : Descent (Option (List Char × Nat)) := do
  if (← peek text) = some '{' then
    let start ← place
    let rest ← slice text start text.length
    match rest.findIdx? (· == '}') with
    | none => return none
    | some close =>
      let digits ← slice text (start + 1) (start + close)
      if digits.isEmpty || !digits.all isHexDigit then return none
      else
        match (checkedNumber? 16 digits).filter (· ≤ maxCodePoint) with
        | none => return none
        | some value =>
          goTo text (start + close + 1)
          return some ('{' :: digits ++ ['}'], value)
  else hexDigits text 4

def escapedCharacter (start : Nat) (inClass : Bool) (letter : Char) : Descent Character := do
  match letter with
  | 'd' | 'D' | 'w' | 'W' | 's' | 'S' =>
    return .symbolic (String.ofList ['\\', letter]) none
  | 'n' => return .symbolic "\\n" (some 0x0a)
  | 't' => return .symbolic "\\t" (some 0x09)
  | 'r' => return .symbolic "\\r" (some 0x0d)
  | 'f' => return .symbolic "\\f" (some 0x0c)
  | 'v' => return .symbolic "\\v" (some 0x0b)
  | '0' => return .symbolic "\\0" (some 0x00)
  | 'b' => return if inClass then .symbolic "\\b" (some 0x08) else .simple 'b'
  | 'c' =>
    match ← peek text with
    | none => refuse start .invalidEscape
    | some control =>
      if control.isAlpha then
        forward text
        return ⟨String.ofList ['\\', 'c', control], .control, some (control.toNat % 32)⟩
      else refuse start .invalidEscape
  | 'x' =>
    match ← hexDigits text 2 with
    | none => return .simple 'x'
    | some (digits, value) =>
      return ⟨String.ofList ('\\' :: 'x' :: digits), .hex, some value⟩
  | 'u' =>
    match ← unicodeDigits text with
    | none => return .simple 'u'
    | some (digits, value) =>
      return ⟨String.ofList ('\\' :: 'u' :: digits), .unicode, some value⟩
  | _ => return .simple letter

/-! ### Classes -/

def classAtom (start : Nat) (c : Char) : Descent Character := do
  if c = '\\' then
    let offset ← previous
    match ← bump text with
    | none => refuse start .unterminatedClass
    | some letter => escapedCharacter text offset true letter
  else return .simple c

def classEntry (start : Nat) (c : Char) : Descent (List Node) := do
  let offset ← previous
  let low ← classAtom text start c
  let dash ← peek text
  let next ← peekAt text 1
  if dash = some '-' ∧ next.any (· != ']') then
    forward text
    match ← bump text with
    | none => fail .noRangeEnd
    | some d =>
      let high ← classAtom text start d
      match low.codePoint, high.codePoint with
      | some a, some b =>
        if b < a then refuse offset .rangeOutOfOrder else return [.classRange low high]
      | _, _ => return [.char low, .char (.simple '-'), .char high]
  else return [.char low]

/-- One turn through a class: an item, or nothing if the class is closed. -/
def classTurn (start : Nat) : Descent (Option (List Node)) := do
  match ← bump text with
  | none => refuse start .unterminatedClass
  | some c => if c = ']' then return none else return some (← classEntry text start c)

def classTurns (start : Nat) : Nat → List Node → Descent (List Node)
  | 0, _ => fail .endless
  | turns + 1, items => do
    match ← classTurn text start with
    | none => return items
    | some item => classTurns start turns (items ++ item)

def classFrom (start : Nat) : Descent Node := do
  let negative ← eat text '^'
  let items ← classTurns text start (text.length + 1) []
  return .characterClass negative items

/-! ### Names and references -/

/-- The name in front of a closing angle bracket, behind the part of it that has been read. -/
def nameTurns (start : Nat) : Nat → List Char → Descent String
  | 0, _ => fail .endless
  | turns + 1, name => do
    match ← bump text with
    | none => refuse start .invalidGroupName
    | some c =>
      if c = '>' ∧ name ≠ [] then return String.ofList name
      else if isNameStart c then nameTurns start turns (name ++ [c])
      else if isAlphanumeric c ∧ name ≠ [] then nameTurns start turns (name ++ [c])
      else refuse start .invalidGroupName

def groupName : Descent String := do
  nameTurns text (← place) (text.length + 1) []

def escapedAtom (start : Nat) : Descent Node := do
  match ← bump text with
  | none => refuse start .trailingBackslash
  | some c =>
    if c = 'b' then return .anchor .wordBoundary
    else if c = 'B' then return .anchor .nonWordBoundary
    else if c.isDigit && c != '0' then
      goTo text (← previous)
      match ← number text with
      | none => fail .noNumber
      | some number => return .backreference (.number number)
    else if c = 'k' ∧ (← peek text) = some '<' then
      forward text
      let name ← groupName text
      modify fun cursor => { cursor with references := (start, name) :: cursor.references }
      return .backreference (.name name)
    else return .char (← escapedCharacter text start false c)

/-! ### Groups -/

def lookarounds : List (List Char × AssertionKind) :=
  [(['?', '='], .lookahead), (['?', '!'], .negativeLookahead), (['?', '<', '='], .lookbehind),
    (['?', '<', '!'], .negativeLookbehind)]

def beginning : List (List Char × AssertionKind) → Descent (Option AssertionKind)
  | [] => return none
  | (cs, kind) :: others => do if ← eatAll text cs then return some kind else beginning others

def nextCapture (name : Option String) : Descent Capture := do
  modify fun cursor => { cursor with captures := cursor.captures + 1 }
  return ⟨(← get).captures, name⟩

def capture : Descent (Option Capture) := do
  if ← eatAll text ['?', ':'] then return none
  else if ← eatAll text ['?', '<'] then
    let start ← place
    let name ← groupName text
    if name ∈ (← get).names then refuse start (.duplicateGroupName name)
    else
      modify fun cursor => { cursor with names := name :: cursor.names }
      return some (← nextCapture (some name))
  else if (← peek text) = some '?' then refuse (← place) .invalidGroup
  else return some (← nextCapture none)

def enclosure : Descent Enclosure := do
  match ← beginning text lookarounds with
  | some kind => return .look kind
  | none => return .group (← capture text)

def groupBody (inner : Descent (Option Node)) (start : Nat) : Descent (Option Node) := do
  if (← get).nesting = nestingLimit then refuse start .nestingTooDeep
  else
    modify fun cursor => { cursor with nesting := cursor.nesting + 1 }
    let body ← inner
    modify fun cursor => { cursor with nesting := cursor.nesting - 1 }
    if ← eat text ')' then return body else refuse start .unterminatedGroup

def group (inner : Descent (Option Node)) (start : Nat) : Descent Node := do
  let enclosure ← enclosure text
  return enclosure.node (← groupBody text inner start)

/-! ### Rows and choices -/

def atomFrom (inner : Descent (Option Node)) (start : Nat) (c : Char) : Descent Node := do
  match c with
  | '(' => group text inner start
  | '[' => classFrom text start
  | '\\' => escapedAtom text start
  | '.' => return .char (.symbolic "." none)
  | '^' => return .anchor .inputStart
  | '$' => return .anchor .inputEnd
  | '*' | '+' | '?' => refuse start .nothingToRepeat
  | '{' =>
    goTo text start
    match ← bracedCount text with
    | some _ => refuse start .nothingToRepeat
    | none =>
      goTo text (start + 1)
      return .char (.simple '{')
  | _ => return .char (.simple c)

def atom (inner : Descent (Option Node)) : Descent Node := do
  let start ← place
  match ← bump text with
  | none => fail .noCharacter
  | some c => atomFrom text inner start c

def repeated (start : Nat) (node : Node) (quantifier : Quantifier) : Descent Node :=
  match node with
  | .assertion kind _ =>
    if kind.isQuantifiable then return .repetition node quantifier
    else refuse start .nothingToRepeat
  | _ => return .repetition node quantifier

def repetition (node : Node) : Descent Node := do
  let start ← place
  match ← quantifier text with
  | none => return node
  | some quantifier => repeated start node quantifier

def term (inner : Descent (Option Node)) : Descent Node := do
  repetition text (← atom text inner)

/-- The row of terms here, behind terms that have been read, up to a bar, a parenthesis that closes
or the end. -/
def row (inner : Descent (Option Node)) : Nat → List Node → Descent (Option Node)
  | 0, _ => fail .endless
  | turns + 1, terms => do
    match ← peek text with
    | none => return Node.ofParts terms
    | some c =>
      if c = '|' ∨ c = ')' then return Node.ofParts terms
      else row inner turns (terms ++ [← term text inner])

def choice (inner : Descent (Option Node)) : Nat → Option Node → Descent (Option Node)
  | 0, _ => fail .endless
  | turns + 1, left => do
    if ← eat text '|' then
      let right ← row text inner (text.length + 1) []
      choice inner turns (some (.disjunction left right))
    else return left

def disjunction (inner : Descent (Option Node)) : Descent (Option Node) := do
  choice text inner (text.length + 1) (← row text inner (text.length + 1) [])

/-- What is in a group in which so many others may be open. -/
def within : Nat → Descent (Option Node)
  | 0 => fail .tooDeep
  | room + 1 => disjunction text (within room)

def pattern : Descent (Option Node × Nat) := do
  let body ← disjunction text (within text nestingLimit)
  match ← peek text with
  | some _ => refuse (← place) .unmatchedParen
  | none =>
    let cursor ← get
    match cursor.references.reverse.find? (·.2 ∉ cursor.names) with
    | some (offset, name) => refuse offset (.unknownGroupName name)
    | none => return (body, cursor.captures)

end

end Descent

/-- The regular expression of a pattern, read by descent. -/
def descend (pattern : String) (flags : Flags := {}) : Except Stop Regex :=
  (Descent.pattern pattern.toList {}).map fun ((body, captures), _) => ⟨body, flags, captures⟩

end PatternTemplate
