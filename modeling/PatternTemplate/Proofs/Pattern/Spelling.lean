import PatternTemplate.Pattern.Token

/-!
# Spellings of a tree

A tree does not remember how its pattern was written: `a{2}` and `a{2,2}` denote the same tree, and
so do `-` and `\-`. `Node.Spells node s` says that `s` is one of the texts that spell the tree. The
relation follows the tree alone; no reader occurs in it, so it serves as the grammar that readers
are compared with.

Nothing is skipped between two pieces: the spelling of a row is the spellings of its parts one
behind the other, and what encloses a body stands directly at its two ends.
-/

namespace PatternTemplate

open Text

def AssertionKind.isLook : AssertionKind → Bool
  | inputStart | inputEnd | wordBoundary | nonWordBoundary => false
  | lookahead | negativeLookahead | lookbehind | negativeLookbehind => true

/-- The text of an assertion up to its body. A place has no body, so this is all of it. -/
def AssertionKind.opening : AssertionKind → List Char
  | inputStart => ['^']
  | inputEnd => ['$']
  | wordBoundary => ['\\', 'b']
  | nonWordBoundary => ['\\', 'B']
  | lookahead => ['(', '?', '=']
  | negativeLookahead => ['(', '?', '!']
  | lookbehind => ['(', '?', '<', '=']
  | negativeLookbehind => ['(', '?', '<', '!']

def Opener.text : Opener → List Char
  | capture none => ['(']
  | capture (some name) => '(' :: '?' :: '<' :: name.toList ++ ['>']
  | plain => ['(', '?', ':']
  | look kind => kind.opening

def Opener.ofCapture : Option Capture → Opener
  | none => plain
  | some captured => capture captured.name

/-- A character that stands for itself may have a backslash in front of it. Every other character
is spelled by its text. -/
def Character.Spells (character : Character) (s : List Char) : Prop :=
  s = character.text.toList ∨ character.kind = .simple ∧ s = '\\' :: character.text.toList

/-- A run of digits writes a number, cut off at the limit for numbers. -/
structure Text.Writes (digits : List Char) (number : Nat) : Prop where
  ne_nil : digits ≠ []
  isDigit : ∀ d ∈ digits, d.isDigit = true
  value : decimalNumber digits = number

/-- The spellings of a count. A fixed count may be given once or twice. -/
inductive Quantifier.Count.Spells : Quantifier.Count → List Char → Prop
  | star : Spells .star ['*']
  | plus : Spells .plus ['+']
  | optional : Spells .optional ['?']
  | once {n : Nat} {digits : List Char} (h : Writes digits n) :
      Spells (.exact n) ('{' :: digits ++ ['}'])
  | twice {n : Nat} {low high : List Char} (hl : Writes low n) (hh : Writes high n) :
      Spells (.exact n) ('{' :: low ++ ',' :: high ++ ['}'])
  | atLeast {n : Nat} {digits : List Char} (h : Writes digits n) :
      Spells (.range n none) ('{' :: digits ++ [',', '}'])
  | between {m n : Nat} {low high : List Char} (hl : Writes low m) (hh : Writes high n)
      (hlt : m < n) : Spells (.range m (some n)) ('{' :: low ++ ',' :: high ++ ['}'])

def Quantifier.Spells (quantifier : Quantifier) (s : List Char) : Prop :=
  ∃ t, quantifier.count.Spells t ∧ s = t ++ if quantifier.greedy then [] else ['?']

/-- The spellings of a reference. No number starts with a zero. -/
inductive Backreference.Spells : Backreference → List Char → Prop
  | number {n : Nat} {digits : List Char} (h : Writes digits n) (h0 : digits.head? ≠ some '0') :
      Spells (.number n) ('\\' :: digits)
  | name (name : String) : Spells (.name name) ('\\' :: 'k' :: '<' :: name.toList ++ ['>'])

namespace Node

mutual

/-- The text spells the tree. -/
inductive Spells : Node → List Char → Prop
  | char {c : Character} {s : List Char} (h : c.Spells s) : Spells (.char c) s
  | group {capture : Option Capture} {body : Option Node} {s : List Char}
      (h : SpellsOption body s) :
      Spells (.group capture body) ((Opener.ofCapture capture).text ++ s ++ [')'])
  | look {kind : AssertionKind} {body : Option Node} {s : List Char} (hk : kind.isLook = true)
      (h : SpellsOption body s) : Spells (.assertion kind body) (kind.opening ++ s ++ [')'])
  | place {kind : AssertionKind} (hk : kind.isLook = false) :
      Spells (.anchor kind) kind.opening
  | repetition {body : Node} {quantifier : Quantifier} {s t : List Char} (h : Spells body s)
      (hq : quantifier.Spells t) : Spells (.repetition body quantifier) (s ++ t)
  | alternative {parts : List Node} {s : List Char} (h : SpellsList parts s) :
      Spells (.alternative parts) s
  | disjunction {left right : Option Node} {s t : List Char} (hl : SpellsOption left s)
      (hr : SpellsOption right t) : Spells (.disjunction left right) (s ++ '|' :: t)
  | characterClass {negative : Bool} {items : List Node} {s : List Char}
      (h : SpellsList items s) :
      Spells (.characterClass negative items)
        ('[' :: (if negative then ['^'] else []) ++ s ++ [']'])
  | classRange {low high : Character} {s t : List Char} (hl : low.Spells s) (hh : high.Spells t) :
      Spells (.classRange low high) (s ++ '-' :: t)
  | backreference {target : Backreference} {s : List Char} (h : target.Spells s) :
      Spells (.backreference target) s

inductive SpellsOption : Option Node → List Char → Prop
  | none : SpellsOption none []
  | some {node : Node} {s : List Char} (h : Spells node s) : SpellsOption (some node) s

inductive SpellsList : List Node → List Char → Prop
  | nil : SpellsList [] []
  | cons {node : Node} {nodes : List Node} {s t : List Char} (h : Spells node s)
      (hs : SpellsList nodes t) : SpellsList (node :: nodes) (s ++ t)

end

theorem spellsList_singleton_iff {node : Node} {s : List Char} :
    SpellsList [node] s ↔ Spells node s := by
  constructor
  · rintro (_ | ⟨h, ⟨⟩⟩)
    rwa [List.append_nil]
  · intro h
    have hcons := SpellsList.cons h .nil
    rwa [List.append_nil] at hcons

theorem spellsList_append_iff {front back : List Node} {s : List Char} :
    SpellsList (front ++ back) s ↔
      ∃ t u, s = t ++ u ∧ SpellsList front t ∧ SpellsList back u := by
  induction front generalizing s with
  | nil =>
      constructor
      · intro h
        exact ⟨[], s, rfl, .nil, h⟩
      · rintro ⟨_, u, rfl, ⟨⟩, h⟩
        exact h
  | cons node nodes ih =>
      constructor
      · rintro (_ | ⟨h, hs⟩)
        obtain ⟨t, u, rfl, hfront, hback⟩ := ih.1 hs
        exact ⟨_, u, (List.append_assoc ..).symm, .cons h hfront, hback⟩
      · rintro ⟨_, u, rfl, _ | ⟨h, hs⟩, hback⟩
        rw [List.append_assoc, List.cons_append]
        exact .cons h (ih.2 ⟨_, u, rfl, hs, hback⟩)

theorem SpellsList.ofParts {parts : List Node} {s : List Char} (h : SpellsList parts s) :
    SpellsOption (ofParts parts) s := by
  match parts, h with
  | [], .nil => exact .none
  | [part], .cons hpart .nil =>
      rw [List.append_nil]
      exact .some hpart
  | first :: second :: parts, h => exact .some (.alternative h)

end Node

end PatternTemplate
