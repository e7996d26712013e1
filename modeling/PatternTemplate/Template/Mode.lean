/-!
# Modes of a template

A mode says how a template writes a capturing group. In the Mustache mode a placeholder stands in
double braces, and a part of the template that depends on a group is a section with a marker at
each end. The plain mode writes bare identities and has no sections.
-/

namespace PatternTemplate

inductive Mode where
  | mustache
  | plain
  deriving DecidableEq, Repr

namespace Mode

/-- The mode that is taken where none is asked for. -/
instance : Inhabited Mode := ⟨mustache⟩

def name : Mode → String
  | mustache => "Mustache"
  | plain => "plain"

def ofName? (name : String) : Option Mode :=
  [mustache, plain].find? (·.name == name)

/-- The mode of that name. A name that no mode has stands for the default mode. -/
def ofName (name : String) : Mode :=
  (ofName? name).getD default

theorem ofName?_name (mode : Mode) : ofName? mode.name = some mode := by
  cases mode <;> simp [ofName?, name]

theorem ofName_name (mode : Mode) : ofName mode.name = mode := by
  simp [ofName, ofName?_name]

def tag (s : String) : String :=
  "\x7b\x7b" ++ s ++ "\x7d\x7d"

/-- What stands in a template for the capturing group with an identity. -/
def placeholder (identity : String) : Mode → String
  | mustache => tag identity
  | plain => identity

/-- The two ends of the section for the capturing group with an identity. -/
def markers? (identity : String) : Mode → Option (String × String)
  | mustache => some (tag ("#" ++ identity), tag ("/" ++ identity))
  | plain => none

end Mode

end PatternTemplate
