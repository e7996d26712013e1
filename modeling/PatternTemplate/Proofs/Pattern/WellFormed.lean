import Mathlib.Data.List.Chain
import PatternTemplate.Pattern.Regex
import PatternTemplate.Pattern.Walk
import PatternTemplate.Proofs.Pattern.Spelling

/-!
# Well-formed trees

Not every tree is the tree of a pattern: a row of one piece is that piece, a range stands in a class
only, and a capturing group has the number of its place in document order. `Regex.WellFormed`
collects these conditions. Those on the shape go down the tree together with the `Place` at which a
node stands, since a choice may be the body of a group and may not be a part of a row
(`Node.WellFormed`); the others look at the captures and named references of the whole tree, which
`Node.gather` lists in document order.
-/

namespace PatternTemplate

open Text

/-- The letters that write a character by a backslash, with its code point. -/
def letterCodes : List (Char × Nat) :=
  [('n', 0x0a), ('t', 0x09), ('r', 0x0d), ('f', 0x0c), ('v', 0x0b), ('0', 0x00)]

def classLetters : List Char :=
  ['d', 'D', 'w', 'W', 's', 'S']

/-- The characters that a pattern can hold. The dot is one outside of classes only, and the
backspace is one in classes only. -/
inductive Character.WellFormed (inClass : Bool) : Character → Prop
  | simple (c : Char) : WellFormed inClass (.simple c)
  | dot (h : inClass = false) : WellFormed inClass (.symbolic "." none)
  | classLetter {letter : Char} (h : letter ∈ classLetters) :
      WellFormed inClass (.symbolic (String.ofList ['\\', letter]) none)
  | letterCode {letter : Char} {code : Nat} (h : (letter, code) ∈ letterCodes) :
      WellFormed inClass (.symbolic (String.ofList ['\\', letter]) (some code))
  | backspace (h : inClass = true) : WellFormed inClass (.symbolic "\\b" (some 0x08))
  | control {letter : Char} (h : letter.isAlpha = true) :
      WellFormed inClass
        ⟨String.ofList ['\\', 'c', letter], .control, some (letter.toNat % 32)⟩
  | hex {digits : List Char} (hlen : digits.length = 2) (hd : ∀ d ∈ digits, isHexDigit d = true) :
      WellFormed inClass
        ⟨String.ofList ('\\' :: 'x' :: digits), .hex, some (numeralValue 16 digits)⟩
  | unicode {digits : List Char} (hlen : digits.length = 4)
      (hd : ∀ d ∈ digits, isHexDigit d = true) :
      WellFormed inClass
        ⟨String.ofList ('\\' :: 'u' :: digits), .unicode, some (numeralValue 16 digits)⟩
  | braced {digits : List Char} (hne : digits ≠ []) (hd : ∀ d ∈ digits, isHexDigit d = true)
      (hle : numeralValue 16 digits ≤ maxCodePoint) :
      WellFormed inClass
        ⟨String.ofList ('\\' :: 'u' :: '{' :: digits ++ ['}']), .unicode,
          some (numeralValue 16 digits)⟩

/-- The counts that a pattern can hold. Equal bounds make a fixed count. -/
def Quantifier.Count.WellFormed : Quantifier.Count → Prop
  | star | plus | optional => True
  | exact n => n ≤ numberLimit
  | range min none => min ≤ numberLimit
  | range min (some max) => min < max ∧ max ≤ numberLimit

/-- A name starts with a letter and goes on with letters and digits, in the sense that is taken
for names. -/
def IsGroupName (name : String) : Prop :=
  ∃ first more, name.toList = first :: more ∧ isNameStart first = true ∧
    ∀ c ∈ more, isNameChar c = true

def Backreference.WellFormed : Backreference → Prop
  | number n => 1 ≤ n ∧ n ≤ numberLimit
  | name text => IsGroupName text

namespace Node

/-- The places at which a node can stand. -/
inductive Place where
  /-- In a row, or in front of a quantifier. -/
  | part
  /-- Behind the last bar of a choice. -/
  | branch
  /-- All of a pattern or of what a parenthesis encloses, or all in front of a bar. -/
  | body
  deriving DecidableEq

def WellFormedItem : Node → Prop
  | char c => c.WellFormed true
  | classRange low high =>
    low.WellFormed true ∧ high.WellFormed true ∧
      ∃ a b, low.codePoint = some a ∧ high.codePoint = some b ∧ a ≤ b
  | _ => False

def isNumericReference : Node → Bool
  | backreference (.number _) => true
  | _ => false

def startsWithDigit : Node → Bool
  | char c => c.text.toList.head?.any Char.isDigit
  | repetition body _ => startsWithDigit body
  | _ => false

/-- Two parts can be neighbours unless a digit of the second one would belong to a number that
ends the first one. -/
def Apart (first second : Node) : Prop :=
  first.isNumericReference = true → second.startsWithDigit = false

mutual

/-- The trees that a pattern can hold at a place. -/
def WellFormed (place : Place) : Node → Prop
  | char c => c.WellFormed false
  | group capture body =>
    (∀ name, capture.bind Capture.name = some name → IsGroupName name) ∧
      WellFormedOption .body body
  | repetition body quantifier =>
    body.isRepeatable = true ∧ quantifier.count.WellFormed ∧ WellFormed .part body
  | alternative parts =>
    place ≠ .part ∧ 2 ≤ parts.length ∧ parts.IsChain Apart ∧ WellFormedList parts
  | disjunction left right =>
    place = .body ∧ WellFormedOption .body left ∧ WellFormedOption .branch right
  | assertion kind body => if kind.isLook then WellFormedOption .body body else body = none
  | characterClass _ items => ∀ item ∈ items, item.WellFormedItem
  | classRange _ _ => False
  | backreference target => target.WellFormed

def WellFormedOption (place : Place) : Option Node → Prop
  | none => True
  | some node => WellFormed place node

def WellFormedList : List Node → Prop
  | [] => True
  | part :: parts => WellFormed .part part ∧ WellFormedList parts

end

theorem wellFormedList_iff {parts : List Node} :
    WellFormedList parts ↔ ∀ part ∈ parts, WellFormed .part part := by
  induction parts with
  | nil => simp [WellFormedList]
  | cons part parts ih => simp [WellFormedList, ih]

/-- What can be a part of a row can stand at every place. -/
theorem WellFormed.of_part {node : Node} (h : WellFormed .part node) (place : Place) :
    WellFormed place node := by
  cases node with
  | alternative => exact absurd rfl h.1
  | disjunction => exact Place.noConfusion h.1
  | classRange => exact h.elim
  | _ => simpa only [WellFormed] using h

theorem WellFormed.part_or {place : Place} {node : Node} (h : WellFormed place node) :
    WellFormed .part node ∨ (∃ parts, node = .alternative parts) ∨
      ∃ left right, node = .disjunction left right := by
  cases node with
  | alternative parts => exact .inr (.inl ⟨parts, rfl⟩)
  | disjunction left right => exact .inr (.inr ⟨left, right, rfl⟩)
  | classRange => exact h.elim
  | _ => exact .inl (by simpa only [WellFormed] using h)

theorem WellFormedOption.of_branch {body : Option Node} (h : WellFormedOption .branch body) :
    WellFormedOption .body body := by
  cases body with
  | none => trivial
  | some node =>
      rcases WellFormed.part_or h with hpart | ⟨parts, rfl⟩ | ⟨left, right, rfl⟩
      · exact hpart.of_part .body
      · exact ⟨by decide, h.2⟩
      · exact Place.noConfusion h.1

theorem WellFormedOption.branch_or {body : Option Node} (h : WellFormedOption .body body) :
    WellFormedOption .branch body ∨ ∃ left right, body = some (.disjunction left right) := by
  cases body with
  | none => exact .inl trivial
  | some node =>
      rcases WellFormed.part_or h with hpart | ⟨parts, rfl⟩ | ⟨left, right, rfl⟩
      · exact .inl (hpart.of_part .branch)
      · exact .inl ⟨by decide, h.2⟩
      · exact .inr ⟨left, right, rfl⟩

/-- A node hands its shape on to the nodes directly below it. A class hands on that they are
items. -/
theorem WellFormed.of_mem_children {place : Place} {node child : Node} (h : WellFormed place node)
    (hchild : child ∈ node.children) :
    (∃ place, WellFormed place child) ∨
      (∃ negative items, node = .characterClass negative items) ∧ child.WellFormedItem := by
  cases node with
  | group capture body =>
      obtain rfl : body = some child := by simpa [children] using hchild
      exact .inl ⟨.body, h.2⟩
  | repetition body quantifier =>
      obtain rfl : child = body := by simpa [children] using hchild
      exact .inl ⟨.part, h.2.2⟩
  | alternative parts => exact .inl ⟨.part, wellFormedList_iff.1 h.2.2.2 child hchild⟩
  | disjunction left right =>
      -- the left side may be a choice again, the right one may not
      have hside : left = some child ∨ right = some child := by simpa [children] using hchild
      rcases hside with rfl | rfl
      · exact .inl ⟨.body, h.2.1⟩
      · exact .inl ⟨.branch, h.2.2⟩
  | assertion kind body =>
      obtain rfl : body = some child := by simpa [children] using hchild
      rw [WellFormed] at h
      split at h
      · exact .inl ⟨.body, h⟩
      · exact absurd h (Option.some_ne_none child)
  | characterClass negative items => exact .inr ⟨⟨negative, items, rfl⟩, h child hchild⟩
  | char | classRange | backreference => cases hchild

/-- Every node of such a tree is one that a pattern can hold at some place, or an item of a
class. -/
theorem WellFormed.of_mem_walk {descend : Node → Bool} {place : Place} {root node : Node}
    (h : WellFormed place root) (hnode : node ∈ root.walk descend) :
    (∃ place, WellFormed place node) ∨ node.WellFormedItem := by
  have hall : ∀ node ∈ root.walk descend,
      (∃ place, WellFormed place node) ∨ node.WellFormedItem := by
    refine forall_mem_walk ?_ (.inl ⟨place, h⟩)
    rintro node (⟨place, hshape⟩ | hitem) _ child hchild
    · exact (hshape.of_mem_children hchild).imp_right And.right
    · cases node with
      | char | classRange => cases hchild
      | _ => exact hitem.elim
  exact hall node hnode

theorem wellFormedOption_ofParts {parts : List Node} (hc : parts.IsChain Apart)
    (h : WellFormedList parts) : WellFormedOption .branch (ofParts parts) := by
  match parts with
  | [] => trivial
  | [part] => exact h.1.of_part .branch
  | first :: second :: parts => exact ⟨by decide, by simp, hc, h⟩

/-! ### Marks in document order -/

/-- What `f` picks from the nodes of a tree, in document order. -/
def gather {α : Type} (f : Node → Option α) (node : Node) : List α :=
  (node.walk fun _ => true).filterMap f

def gatherOption {α : Type} (f : Node → Option α) (node : Option Node) : List α :=
  (walkOption (fun _ => true) node).filterMap f

def gatherList {α : Type} (f : Node → Option α) (nodes : List Node) : List α :=
  (walkList (fun _ => true) nodes).filterMap f

section Gather

variable {α : Type} (f : Node → Option α)

@[simp] theorem gatherOption_none : gatherOption f none = [] := rfl

@[simp] theorem gatherOption_some (node : Node) : gatherOption f (some node) = gather f node := rfl

@[simp] theorem gatherList_nil : gatherList f [] = [] := rfl

@[simp] theorem gatherList_cons (node : Node) (nodes : List Node) :
    gatherList f (node :: nodes) = gather f node ++ gatherList f nodes := by
  simp [gatherList, gather]

@[simp] theorem gatherList_append (front back : List Node) :
    gatherList f (front ++ back) = gatherList f front ++ gatherList f back := by
  simp [gatherList, walkList_append]

private theorem filterMap_cons_eq (node : Node) (nodes : List Node) :
    (node :: nodes).filterMap f = (f node).toList ++ nodes.filterMap f := by
  cases h : f node <;> simp [h]

@[simp] theorem gather_char (c : Character) : gather f (.char c) = (f (.char c)).toList := by
  simp [gather, walk, filterMap_cons_eq]

@[simp] theorem gather_backreference (target : Backreference) :
    gather f (.backreference target) = (f (.backreference target)).toList := by
  simp [gather, walk, filterMap_cons_eq]

@[simp] theorem gather_group (capture : Option Capture) (body : Option Node) :
    gather f (.group capture body) = (f (.group capture body)).toList ++ gatherOption f body := by
  simp [gather, gatherOption, walk, filterMap_cons_eq]

@[simp] theorem gather_assertion (kind : AssertionKind) (body : Option Node) :
    gather f (.assertion kind body) =
      (f (.assertion kind body)).toList ++ gatherOption f body := by
  simp [gather, gatherOption, walk, filterMap_cons_eq]

@[simp] theorem gather_repetition (body : Node) (quantifier : Quantifier) :
    gather f (.repetition body quantifier) =
      (f (.repetition body quantifier)).toList ++ gather f body := by
  simp [gather, walk, filterMap_cons_eq]

@[simp] theorem gather_alternative (parts : List Node) :
    gather f (.alternative parts) = (f (.alternative parts)).toList ++ gatherList f parts := by
  simp [gather, gatherList, walk, filterMap_cons_eq]

@[simp] theorem gather_disjunction (left right : Option Node) :
    gather f (.disjunction left right) =
      (f (.disjunction left right)).toList ++ (gatherOption f left ++ gatherOption f right) := by
  simp [gather, gatherOption, walk, filterMap_cons_eq]

@[simp] theorem gather_characterClass (negative : Bool) (items : List Node) :
    gather f (.characterClass negative items) =
      (f (.characterClass negative items)).toList ++ gatherList f items := by
  simp [gather, gatherList, walk, filterMap_cons_eq]

@[simp] theorem gather_classRange (low high : Character) :
    gather f (.classRange low high) = (f (.classRange low high)).toList := by
  simp [gather, walk, filterMap_cons_eq]

theorem gatherList_toList (node : Option Node) :
    gatherList f node.toList = gatherOption f node := by
  rw [gatherList, gatherOption, walkList_toList]

theorem gatherList_singleton (node : Node) :
    gatherList f [node] = (f node).toList ++ gatherList f node.children := by
  simp [gatherList, walk_eq_cons _ node, filterMap_cons_eq]

end Gather

def referencedName? : Node → Option String
  | backreference (.name name) => some name
  | _ => none

/-! ### Nesting -/

mutual

/-- The length of the longest chain of groups and assertions that look around, each in the body of
the one before. -/
def nesting : Node → Nat
  | group _ body => nestingOption body + 1
  | assertion kind body => nestingOption body + kind.isLook.toNat
  | repetition body _ => nesting body
  | alternative nodes | characterClass _ nodes => nestingList nodes
  | disjunction left right => max (nestingOption left) (nestingOption right)
  | char _ | classRange _ _ | backreference _ => 0

def nestingOption : Option Node → Nat
  | none => 0
  | some node => nesting node

def nestingList : List Node → Nat
  | [] => 0
  | node :: nodes => max (nesting node) (nestingList nodes)

end

theorem nestingList_append (front back : List Node) :
    nestingList (front ++ back) = max (nestingList front) (nestingList back) := by
  induction front with
  | nil => simp [nestingList]
  | cons node nodes ih => simp only [List.cons_append, nestingList, ih, max_assoc]

theorem nestingOption_ofParts (parts : List Node) :
    nestingOption (ofParts parts) = nestingList parts := by
  match parts with
  | [] => rfl
  | [part] => simp [nestingList, nestingOption]
  | first :: second :: parts => rfl

end Node

namespace Regex

def groupCaptures (regex : Regex) : List Capture :=
  Node.gatherOption Node.capture? regex.body

def groupNames (regex : Regex) : List String :=
  regex.groupCaptures.filterMap Capture.name

/-- The regular expressions that a pattern can denote. -/
structure WellFormed (regex : Regex) : Prop where
  shape : Node.WellFormedOption .body regex.body
  /-- Capturing groups are numbered from one in document order, and all of them are counted. -/
  numbers : regex.groupCaptures.map Capture.number = List.range' 1 regex.captures
  names : regex.groupNames.Nodup
  /-- Every named reference names a group. -/
  references : ∀ name ∈ Node.gatherOption Node.referencedName? regex.body,
    name ∈ regex.groupNames
  nesting : Node.nestingOption regex.body ≤ nestingLimit

/-- A group that is referred to by its number and by its name, as in
`(?<n>a{2})|\1\k<n>[b-d]*?`. -/
def echo : Regex where
  body := some <| .disjunction
    (some <| .group (some ⟨1, some "n"⟩) <| some <|
      .repetition (.char (.simple 'a')) ⟨.exact 2, true⟩)
    (some <| .alternative [.backreference (.number 1), .backreference (.name "n"),
      .repetition (.characterClass false [.classRange (.simple 'b') (.simple 'd')])
        ⟨.star, false⟩])
  flags := {}
  captures := 1

end Regex

end PatternTemplate
