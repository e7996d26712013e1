import PatternTemplate.Pattern.Token

/-!
# Reading a pattern from the left

A `Reading` is what is known of a pattern after some of its tokens: the groups that are still open,
what has been read in the innermost of them, and the capturing groups and named references met so
far. Each token takes one reading to the next (`Reading.step`) or is refused at its place, and the
end of the pattern turns the last reading into a tree (`Reading.finish`).

Numbers of capturing groups are given at the opening parenthesis, so a group comes before those in
it. A named reference may stand before the group it names; whether there is such a group is
therefore decided at the end.
-/

namespace PatternTemplate

def nestingLimit : Nat := 256

/-- What has been read between a parenthesis, or the start, and the current place. -/
structure Level where
  /-- The choice to the left of the last bar, if there is a bar; it may be empty. -/
  left : Option (Option Node) := none
  /-- The pieces since then, the last one first. -/
  parts : List Node := []
  deriving Repr

namespace Level

/-- The tree of a level that ends here. Bars group to the left. -/
def node? (level : Level) : Option Node :=
  match level.left with
  | none => Node.ofParts level.parts.reverse
  | some left => some (.disjunction left (Node.ofParts level.parts.reverse))

def push (level : Level) (part : Node) : Level :=
  { level with parts := part :: level.parts }

def bar (level : Level) : Level :=
  ⟨some level.node?, []⟩

end Level

inductive Enclosure where
  | group (capture : Option Capture)
  | look (kind : AssertionKind)
  deriving DecidableEq, Repr

def Enclosure.node (body : Option Node) : Enclosure → Node
  | group capture => .group capture body
  | look kind => .assertion kind body

/-- A group that is not closed yet: the place of its parenthesis, what it will be, and the level
that it stands in. -/
structure OpenGroup where
  offset : Nat
  enclosure : Enclosure
  outer : Level
  deriving Repr

structure Reading where
  level : Level := {}
  /-- The open groups, the innermost first. -/
  groups : List OpenGroup := []
  /-- The number of capturing groups opened so far. -/
  captures : Nat := 0
  /-- The names of groups, the last one first. -/
  names : List String := []
  /-- The places and names of the named references, the last one first. -/
  references : List (Nat × String) := []
  deriving Repr

/-- Tests whether a quantifier may follow a piece: there is one quantifier for a piece, and of the
assertions only some can have one. -/
def Node.isRepeatable : Node → Bool
  | repetition _ _ => false
  | assertion kind _ => kind.isQuantifiable
  | _ => true

namespace Reading

def atom (reading : Reading) (offset : Nat) (node : Node) : Reading :=
  let reading := { reading with level := reading.level.push node }
  match node with
  | .backreference (.name name) =>
    { reading with references := (offset, name) :: reading.references }
  | _ => reading

/-- The reading after a quantifier, which applies to the last piece. -/
def quantify (reading : Reading) (offset : Nat) (quantifier : Quantifier) :
    Except SyntaxError Reading :=
  match reading.level.parts with
  | part :: parts =>
    if part.isRepeatable then
      let parts := .repetition part quantifier :: parts
      .ok { reading with level := { reading.level with parts } }
    else .error ⟨offset, .nothingToRepeat⟩
  | [] => .error ⟨offset, .nothingToRepeat⟩

/-- The enclosure that an opener begins, and the reading in which a capturing group is counted and
its name is taken. -/
def declare (reading : Reading) (offset : Nat) : Opener → Except SyntaxError (Enclosure × Reading)
  | .look kind => .ok (.look kind, reading)
  | .plain => .ok (.group none, reading)
  | .capture none =>
    let number := reading.captures + 1
    .ok (.group (some ⟨number, none⟩), { reading with captures := number })
  | .capture (some name) =>
    let number := reading.captures + 1
    if name ∈ reading.names then .error ⟨offset + 3, .duplicateGroupName name⟩
    else
      .ok (.group (some ⟨number, some name⟩),
        { reading with captures := number, names := name :: reading.names })

def enter (reading : Reading) (offset : Nat) (opener : Opener) : Except SyntaxError Reading := do
  let (enclosure, reading) ← reading.declare offset opener
  if reading.groups.length = nestingLimit then
    throw ⟨offset, .nestingTooDeep⟩
  else
    return { reading with
      level := {}
      groups := ⟨offset, enclosure, reading.level⟩ :: reading.groups }

def leave (reading : Reading) (offset : Nat) : Except SyntaxError Reading :=
  match reading.groups with
  | [] => .error ⟨offset, .unmatchedParen⟩
  | group :: groups =>
    let node := group.enclosure.node reading.level.node?
    .ok { reading with level := group.outer.push node, groups }

/-- The reading after a token at the place `offset`. -/
def step (reading : Reading) (offset : Nat) : Token → Except SyntaxError Reading
  | .bar => .ok { reading with level := reading.level.bar }
  | .opening opener => reading.enter offset opener
  | .closing => reading.leave offset
  | .quantifier quantifier => reading.quantify offset quantifier
  | .atom node => .ok (reading.atom offset node)

/-- The reading after the text `s`, which starts at the place `offset` of the pattern. -/
def run (reading : Reading) (offset : Nat) (s : List Char) : Except SyntaxError Reading :=
  match s with
  | [] => .ok reading
  | c :: rest =>
    match Token.read offset c rest with
    | .error error => .error error
    | .ok (token, width) =>
      match reading.step offset token with
      | .error error => .error error
      | .ok next => next.run (offset + 1 + width) (rest.drop width)
  termination_by s.length
  decreasing_by simp only [List.length_drop, List.length_cons]; omega

@[simp] theorem run_nil (reading : Reading) (offset : Nat) :
    reading.run offset [] = .ok reading := by
  rw [run]

theorem run_cons_of_read {reading next : Reading} {offset width : Nat} {c : Char}
    {rest : List Char} {token : Token} (hread : Token.read offset c rest = .ok (token, width))
    (hstep : reading.step offset token = .ok next) :
    reading.run offset (c :: rest) = next.run (offset + 1 + width) (rest.drop width) := by
  rw [run, hread]
  simp only [hstep]

def unresolved? (reading : Reading) : Option (Nat × String) :=
  reading.references.reverse.find? (·.2 ∉ reading.names)

def finish (reading : Reading) : Except SyntaxError (Option Node) :=
  match reading.groups with
  | group :: _ => .error ⟨group.offset, .unterminatedGroup⟩
  | [] =>
    match reading.unresolved? with
    | some (offset, name) => .error ⟨offset, .unknownGroupName name⟩
    | none => .ok reading.level.node?

end Reading

end PatternTemplate
