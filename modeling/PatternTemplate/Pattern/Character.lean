/-!
# Characters of a pattern

A character of a pattern is more than the code point it matches: the same newline can be written
as itself, by its letter, in hexadecimal or as a control, and the written form is what a template
shows. So a character carries its text as written, the way it is written, and the code point if it
stands for exactly one.
-/

namespace PatternTemplate

inductive Character.Kind where
  /-- By itself, with or without a backslash in front of it. -/
  | simple
  /-- By a letter with a meaning of its own, or by the dot. -/
  | symbolic
  /-- By two hexadecimal digits. -/
  | hex
  /-- By four hexadecimal digits, or by any number of them in braces. -/
  | unicode
  /-- By the letter of a control. -/
  | control
  deriving DecidableEq, Repr

structure Character where
  text : String
  kind : Character.Kind
  codePoint : Option Nat
  deriving DecidableEq, Repr

namespace Character

/-- A character that stands for itself. -/
def simple (c : Char) : Character :=
  ⟨c.toString, .simple, some c.toNat⟩

/-- A character with a meaning of its own; a class of characters has no code point. -/
def symbolic (text : String) (codePoint : Option Nat) : Character :=
  ⟨text, .symbolic, codePoint⟩

/-- Text that a template shows in the place of a group. -/
def placeholder (text : String) : Character :=
  ⟨text, .simple, none⟩

end Character

end PatternTemplate
