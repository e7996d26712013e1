import PatternTemplate.Template.Basic
import PatternTemplate.Text.Quoted

/-!
# The command line

The command converts one pattern. Before and behind the pattern there may be options, each with a
value of its own: the mode and the flags. Of an option that is given several times the last value
counts, and only that one is looked at. Arguments are read from the left, and the first one that
does not fit ends the reading.
-/

namespace PatternTemplate

namespace CommandLine

structure Request where
  mode : Mode := default
  flags : String := ""
  pattern : Option String := none
  deriving DecidableEq, Repr

inductive UsageError where
  | missingMode
  | missingFlags
  /-- There is a pattern already. -/
  | unexpectedArgument (argument : String)
  | missingPattern
  deriving DecidableEq, Repr

def UsageError.message : UsageError → String
  | missingMode => "No mode provided after --mode"
  | missingFlags => "No flags provided after --flags"
  | unexpectedArgument argument => s!"Unexpected argument {Text.quoted argument}"
  | missingPattern => "No pattern provided"

/-- Goes on with the arguments that follow those of a request. -/
def Request.read (request : Request) : List String → Except UsageError Request
  | [] => .ok request
  | argument :: rest =>
    if argument = "-m" ∨ argument = "--mode" then
      match rest with
      | [] => .error .missingMode
      | value :: rest => { request with mode := Mode.ofName value }.read rest
    else if argument = "-f" ∨ argument = "--flags" then
      match rest with
      | [] => .error .missingFlags
      | value :: rest => { request with flags := value }.read rest
    else
      match request.pattern with
      | some _ => .error (.unexpectedArgument argument)
      | none => { request with pattern := some argument }.read rest

inductive Failure where
  | usage (error : UsageError)
  | conversion (pattern : String) (error : Error)
  deriving DecidableEq, Repr

def Failure.message : Failure → String
  | usage error => error.message
  | conversion pattern error =>
    s!"Failed to convert {Text.quoted pattern}: {error.message}"

def template (arguments : List String) : Except Failure Template := do
  let request ← (Request.read {} arguments).mapError .usage
  match request.pattern with
  | none => throw (.usage .missingPattern)
  | some pattern =>
    (Template.make pattern request.flags request.mode).mapError (.conversion pattern)

structure Outcome where
  exitCode : Nat
  output : String
  errors : String
  deriving DecidableEq, Repr

/-- The outcome of the command: a template on a line of the output, or a failure on a line of the
errors. -/
def run (arguments : List String) : Outcome :=
  match template arguments with
  | .ok template => ⟨0, template.text ++ "\n", ""⟩
  | .error failure => ⟨1, "", failure.message ++ "\n"⟩

end CommandLine

end PatternTemplate
