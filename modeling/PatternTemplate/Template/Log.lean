import PatternTemplate.Template.Reduction
import PatternTemplate.Text.Quoted

/-!
# The log of a conversion

A conversion reports what it does: how many groups it found, that a mode is not known, what became
of fixed repetitions and which sections it made, and the template in the end. A pattern that cannot
be read leaves no report. Sections exist only in a mode that marks them, so a completed row is
reported only there.

One record is left out. Before the tree is outlined, a debug record (`Parsed pattern: ...`) displays
all of it for whoever works on the reader; how a tree is displayed is no part of this library.
-/

namespace PatternTemplate

inductive LogLevel where
  | trace
  | debug
  | warn
  deriving DecidableEq, Repr

structure LogRecord where
  level : LogLevel
  message : String
  deriving DecidableEq, Repr

/-- The record of an event in a mode, if the mode reports it. -/
def Event.record? (mode : Mode) : Event → Option LogRecord
  | expanded count remaining =>
    some ⟨.trace, s!"Expanding fixed repetition into {count} copies ({remaining} left)"⟩
  | kept count remaining =>
    some ⟨.warn, s!"Not expanding repetition of {count} copies ({remaining} of {copyLimit} " ++
      "left), rendering it once"⟩
  | headed identity =>
    (mode.markers? identity).map fun (first, last) =>
      ⟨.trace, s!"Wrapping alternative in {first}...{last}"⟩

def Mode.unknownName? (name : String) : Option LogRecord :=
  match ofName? name with
  | some _ => none
  | none =>
    some ⟨.debug, s!"Unknown mode {Text.quoted name}, using {(default : Mode).name}"⟩

namespace Regex

/-- The records of rendering in a mode, but for the display of the tree: the events of outlining,
then the template. -/
def renderLog (mode : Mode) (regex : Regex) : List LogRecord :=
  regex.outline.2.events.toList.filterMap (Event.record? mode) ++
    [⟨.debug, s!"{mode.name} template: {Text.quoted (regex.render mode)}"⟩]

end Regex

/-- The template of a pattern in the mode of that name, and the log of the conversion. -/
def convertWithLog (pattern modeName : String) : Except SyntaxError (String × List LogRecord) := do
  let regex ← Regex.ofPattern pattern
  let mode := Mode.ofName modeName
  let found : LogRecord := ⟨.trace, s!"Parsed {regex.captures} capture(s)"⟩
  return (regex.render mode,
    found :: (Mode.unknownName? modeName).toList ++ regex.renderLog mode)

theorem convertWithLog_map_fst (pattern modeName : String) :
    (convertWithLog pattern modeName).map Prod.fst = convert pattern (Mode.ofName modeName) := by
  unfold convertWithLog convert
  cases Regex.ofPattern pattern <;> rfl

end PatternTemplate
