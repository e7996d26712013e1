import PatternTemplate.Flags
import PatternTemplate.Pattern.Equality
import PatternTemplate.Pattern.Reading

/-!
# Regular expressions

A regular expression is the tree of a pattern together with flags. It is read from a pattern, from
a pattern and a string of flags, or from a literal, which holds both: the pattern stands between
two slashes and the flags behind the second one. A pattern may contain slashes, so a literal is
split at its last slash.
-/

namespace PatternTemplate

structure Regex where
  /-- The tree of the pattern; the empty pattern has none. -/
  body : Option Node
  flags : Flags
  /-- The number of capturing groups. -/
  captures : Nat
  deriving DecidableEq, Repr

inductive Error where
  | pattern (error : SyntaxError)
  | flags (error : FlagError)
  | malformedLiteral
  deriving DecidableEq, Repr

def Error.message : Error → String
  | pattern error => error.message
  | flags error => error.message
  | malformedLiteral => "regular expression literal must look like /pattern/flags"

/-- The pattern and the flags of a literal. The pattern is not empty. -/
def splitLiteral? (literal : String) : Option (String × String) :=
  match literal.toList with
  | '/' :: rest =>
    let backwards := rest.reverse
    match backwards.dropWhile (· != '/') with
    | '/' :: c :: cs =>
      some (String.ofList (c :: cs).reverse,
        String.ofList (backwards.takeWhile (· != '/')).reverse)
    | _ => none
  | _ => none

namespace Regex

def ofPattern (pattern : String) (flags : Flags := {}) : Except SyntaxError Regex := do
  let reading ← Reading.run {} 0 pattern.toList
  return ⟨← reading.finish, flags, reading.captures⟩

/-- The regular expression of a pattern and a string of flags. The flags are looked at first. -/
def parse (pattern flags : String) : Except Error Regex := do
  let flags ← (Flags.parse flags).mapError .flags
  (ofPattern pattern flags).mapError .pattern

def ofLiteral (literal : String) : Except Error Regex :=
  match splitLiteral? literal with
  | some (pattern, flags) => parse pattern flags
  | none => .error .malformedLiteral

/-- Tests whether two patterns read the same: both denote the same regular expression, or both are
refused for the same fault at the same place. -/
def readSame (pattern₁ pattern₂ : String) : Bool :=
  match ofPattern pattern₁, ofPattern pattern₂ with
  | .ok regex₁, .ok regex₂ => regex₁ = regex₂
  | .error error₁, .error error₂ => error₁ = error₂
  | _, _ => false

end Regex

end PatternTemplate
