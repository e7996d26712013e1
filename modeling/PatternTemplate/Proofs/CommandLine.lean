import PatternTemplate.CommandLine
import PatternTemplate.Proofs.Pattern.Lexeme

/-!
# Arrangements of a command line

Arguments that are fit for a conversion are options with their values and one pattern, in any order
(`Item`). What counts of them is the pattern and the last value of each option, so all arrangements
of the same items do the same as long as these values stay the last ones. Any other arguments are
such items up to a first point at which they go wrong (`Refused`), and the point decides the error.
-/

namespace PatternTemplate

namespace CommandLine

inductive Setting where
  | mode
  | flags
  deriving DecidableEq, Repr

namespace Setting

def names : Setting → List String
  | mode => ["-m", "--mode"]
  | flags => ["-f", "--flags"]

def apply (request : Request) (value : String) : Setting → Request
  | mode => { request with mode := Mode.ofName value }
  | flags => { request with flags := value }

end Setting

/-- One thing that arguments ask for: an option with its value, or a pattern, which is any argument
that is no name of an option. The value of an option may be any argument. -/
inductive Item where
  | option (setting : Setting) (name value : String) (h : name ∈ setting.names)
  | pattern (argument : String) (h : ∀ setting : Setting, argument ∉ setting.names)

namespace Item

def arguments : Item → List String
  | option _ name value _ => [name, value]
  | pattern argument _ => [argument]

def value? (wanted : Setting) : Item → Option String
  | option setting _ value _ => if setting = wanted then some value else none
  | pattern _ _ => none

def pattern? : Item → Option String
  | option _ _ _ _ => none
  | pattern argument _ => some argument

end Item

def arguments (items : List Item) : List String :=
  items.flatMap Item.arguments

def values (setting : Setting) (items : List Item) : List String :=
  items.filterMap (Item.value? setting)

def patterns (items : List Item) : List String :=
  items.filterMap Item.pattern?

@[simp] theorem arguments_cons (item : Item) (items : List Item) :
    arguments (item :: items) = item.arguments ++ arguments items := rfl

@[simp] theorem values_nil (setting : Setting) : values setting [] = [] := rfl

@[simp] theorem patterns_nil : patterns [] = [] := rfl

@[simp] theorem patterns_option (setting : Setting) (name value : String)
    (h : name ∈ setting.names) (items : List Item) :
    patterns (.option setting name value h :: items) = patterns items := rfl

def modeOf (items : List Item) (otherwise : Mode) : Mode :=
  ((values .mode items).getLast?.map Mode.ofName).getD otherwise

def flagsOf (items : List Item) (otherwise : String) : String :=
  (values .flags items).getLast?.getD otherwise

namespace Request

/-- The request with what the items ask for. -/
def after (request : Request) (items : List Item) : Request where
  mode := modeOf items request.mode
  flags := flagsOf items request.flags
  pattern := request.pattern.or (patterns items).head?

end Request

end CommandLine

end PatternTemplate
