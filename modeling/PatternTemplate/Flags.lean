/-!
# Flags of a regular expression

A regular expression is written with a string of flag letters. Each letter may occur once, in any
place; what counts is the set of flags, which is displayed in a fixed order (`Flag.all`). A string
that breaks the rule is refused with its leftmost letter that is no flag or that occurs again
(`FlagError`).
-/

namespace PatternTemplate

inductive Flag where
  | hasIndices
  | global
  | ignoreCase
  | multiline
  | dotAll
  | unicode
  | unicodeSets
  | sticky
  deriving DecidableEq, Repr

namespace Flag

/-- Every flag once, in the order of display. -/
def all : List Flag :=
  [hasIndices, global, ignoreCase, multiline, dotAll, unicode, unicodeSets, sticky]

theorem mem_all (f : Flag) : f ∈ all := by
  cases f <;> decide

def letter : Flag → Char
  | hasIndices => 'd'
  | global => 'g'
  | ignoreCase => 'i'
  | multiline => 'm'
  | dotAll => 's'
  | unicode => 'u'
  | unicodeSets => 'v'
  | sticky => 'y'

def ofLetter? (c : Char) : Option Flag :=
  all.find? (·.letter == c)

@[simp] theorem ofLetter?_letter (f : Flag) : ofLetter? f.letter = some f := by
  cases f <;> rfl

theorem ofLetter?_eq_some_iff {c : Char} {f : Flag} : ofLetter? c = some f ↔ f.letter = c := by
  refine ⟨fun h => by simpa using List.find?_some h, ?_⟩
  rintro rfl
  exact ofLetter?_letter f

theorem letter_injective {f g : Flag} (h : f.letter = g.letter) : f = g :=
  Option.some.inj ((ofLetter?_letter f).symm.trans (h ▸ ofLetter?_letter g))

end Flag

structure Flags where
  hasIndices : Bool := false
  global : Bool := false
  ignoreCase : Bool := false
  multiline : Bool := false
  dotAll : Bool := false
  unicode : Bool := false
  unicodeSets : Bool := false
  sticky : Bool := false
  deriving DecidableEq, Repr

inductive FlagError where
  /-- The letter stands for no flag. -/
  | invalid (letter : Char)
  /-- The letter occurs a second time. -/
  | duplicate (letter : Char)
  deriving DecidableEq, Repr

def FlagError.message : FlagError → String
  | invalid c => s!"invalid regular expression flag '{c}'"
  | duplicate c => s!"duplicate regular expression flag '{c}'"

namespace Flags

def contains (flags : Flags) : Flag → Bool
  | .hasIndices => flags.hasIndices
  | .global => flags.global
  | .ignoreCase => flags.ignoreCase
  | .multiline => flags.multiline
  | .dotAll => flags.dotAll
  | .unicode => flags.unicode
  | .unicodeSets => flags.unicodeSets
  | .sticky => flags.sticky

def insert (flags : Flags) : Flag → Flags
  | .hasIndices => { flags with hasIndices := true }
  | .global => { flags with global := true }
  | .ignoreCase => { flags with ignoreCase := true }
  | .multiline => { flags with multiline := true }
  | .dotAll => { flags with dotAll := true }
  | .unicode => { flags with unicode := true }
  | .unicodeSets => { flags with unicodeSets := true }
  | .sticky => { flags with sticky := true }

@[simp] theorem contains_empty (f : Flag) : ({} : Flags).contains f = false := by
  cases f <;> rfl

@[simp] theorem contains_insert (flags : Flags) (f g : Flag) :
    (flags.insert f).contains g = (f == g || flags.contains g) := by
  cases f <;> cases g <;> rfl

/-- A set of flags is determined by its members. -/
theorem ext_contains {s t : Flags} (h : ∀ f, s.contains f = t.contains f) : s = t := by
  obtain ⟨d, g, i, m, a, u, v, y⟩ := s
  obtain ⟨d', g', i', m', a', u', v', y'⟩ := t
  exact Flags.mk.injEq .. ▸
    ⟨h .hasIndices, h .global, h .ignoreCase, h .multiline, h .dotAll, h .unicode,
      h .unicodeSets, h .sticky⟩

/-- Adds the flags of a row of letters to the set, from the left, up to the first letter that is
no flag or whose flag is already there. -/
def addLetters (flags : Flags) : List Char → Except FlagError Flags
  | [] => .ok flags
  | c :: cs =>
    match Flag.ofLetter? c with
    | none => .error (.invalid c)
    | some f =>
      if flags.contains f then .error (.duplicate c) else (flags.insert f).addLetters cs

def parse (s : String) : Except FlagError Flags :=
  ({} : Flags).addLetters s.toList

/-- The letters of the set in the order of display. -/
def letters (flags : Flags) : List Char :=
  (Flag.all.filter flags.contains).map Flag.letter

def display (flags : Flags) : String :=
  String.ofList flags.letters

instance : ToString Flags := ⟨display⟩

end Flags

end PatternTemplate
