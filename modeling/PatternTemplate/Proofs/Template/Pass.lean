import PatternTemplate.Proofs.Template.Text
import PatternTemplate.Template.Log

/-!
# Reducing in one pass

A template is made in two steps: the outline of a pattern, and the outline written out in a mode.
Here is the same as one pass through the tree that knows its mode from the beginning
(`Node.reduce`): placeholders and markers are put into the tree on the way, an expanded repetition
holds trees with markers already in them, and only sections that the mode marks are noted. The pass
follows outlining step by step (`Outlining.Follows`). Whatever the mode, it asks for the same copies
and is granted as many, and in the end it has the outline written out (`Regex.reduceAtOnce_eq`).
-/

namespace PatternTemplate

def Account.reported (mode : Mode) (account : Account) : Account where
  remaining := account.remaining
  events := account.events.filter fun event => (event.record? mode).isSome

namespace Node

open Outlining

/-- The row of some parts, between the markers of its section if the mode has any. Only then is its
completion noted. -/
def annotate (mode : Mode) (heading : Option String) (parts : List Node) : Outlining Node := do
  match heading with
  | some identity =>
    match mode.markers? identity with
    | some (first, last) =>
      note (.headed identity)
      return .alternative (.char (.placeholder first) :: parts ++ [.char (.placeholder last)])
    | none => return .alternative parts
  | none => return .alternative parts

mutual

def reduce (mode : Mode) (depth : Nat) : Node → Outlining (Option Node)
  | char c => return some (.char c)
  | backreference target => return some (.backreference target)
  | classRange _ _ => return none
  | assertion _ _ => return none
  | characterClass true _ => return none
  | characterClass false items =>
    return some (.characterClass false (← reduceList mode (depth + 1) items))
  | group (some capture) _ =>
    return some (.char (.placeholder (mode.placeholder capture.identity)))
  | group none body => return some (.group none (← reduceOption mode (depth + 1) body))
  | repetition body quantifier => do
    match ← takeCopies? quantifier.count with
    | some count =>
      return some (.alternative (← copies (reduce mode (depth + 1) body) count))
    | none => return (← reduce mode (depth + 1) body).map (.repetition · quantifier)
  | alternative parts => do
    let nodes ← reduceList mode (depth + 1) parts
    return some (← annotate mode (if sectionDepth ≤ depth then Outline.heading? parts else none)
      nodes)
  | disjunction left right => do
    let front ← reduceSide mode (depth + 2) left
    let back ← reduceSide mode (depth + 2) right
    return some (.alternative (front ++ back))

def reduceOption (mode : Mode) (depth : Nat) : Option Node → Outlining (Option Node)
  | none => return none
  | some node => reduce mode depth node

def reduceList (mode : Mode) (depth : Nat) : List Node → Outlining (List Node)
  | [] => return []
  | node :: nodes => do
    let front ← reduce mode depth node
    let back ← reduceList mode depth nodes
    return front.toList ++ back

def reduceSide (mode : Mode) (depth : Nat) : Option Node → Outlining (List Node)
  | none => return [← annotate mode none []]
  | some (disjunction left right) => do
    let front ← reduceSide mode depth left
    let back ← reduceSide mode depth right
    return front ++ back
  | some (alternative parts) => do
    let nodes ← reduceList mode depth parts
    return [← annotate mode (Outline.heading? parts) nodes]
  | some node => do
    let reduced ← reduce mode depth node
    return [← annotate mode (Outline.heading? [node]) reduced.toList]

end

end Node

namespace Outlining

/-- The pass does to an account as far as the mode reports it what the action does to the account,
and its result is the result of the action, written out. -/
def Follows {α β : Type} (mode : Mode) (write : α → β) (pass : Outlining β)
    (action : Outlining α) : Prop :=
  ∀ account : Account, pass.run (account.reported mode) =
    (write (action.run account).1, (action.run account).2.reported mode)

section Follows

variable {α β γ δ : Type} {mode : Mode} {write : α → β} {pass : Outlining β}
  {action : Outlining α}

theorem follows_pure (a : α) : Follows mode write (pure (write a)) (pure a) :=
  fun _ => rfl

theorem Follows.bind {writeNext : γ → δ} {nextPass : β → Outlining δ} {next : α → Outlining γ}
    (h : Follows mode write pass action)
    (hnext : ∀ a, Follows mode writeNext (nextPass (write a)) (next a)) :
    Follows mode writeNext (pass >>= nextPass) (action >>= next) := by
  intro account
  rw [run_bind, run_bind, h account]
  exact hnext _ _

theorem Follows.map {writeNext : γ → δ} {g : β → δ} {f : α → γ}
    (h : Follows mode write pass action) (hg : ∀ a, g (write a) = writeNext (f a)) :
    Follows mode writeNext (do return g (← pass)) (do return f (← action)) := by
  refine h.bind fun a => ?_
  rw [hg]
  exact follows_pure (f a)

theorem follows_note {event : Event} (h : (event.record? mode).isSome = true) :
    Follows mode id (note event) (note event) := by
  intro account
  simp [run_note, Account.reported, h]

/-- The pass takes no notice of an event that the mode does not report. -/
theorem Follows.unreported {event : Event} (h : Follows mode write pass action)
    (hevent : event.record? mode = none) :
    Follows mode write pass (do note event; action) := by
  intro account
  rw [run_bind, run_note, ← h]
  simp [Account.reported, hevent]

/-- Requests for copies are answered alike, since a mode reports all of them. -/
theorem follows_takeCopies? (count : Quantifier.Count) :
    Follows mode id (takeCopies? count) (takeCopies? count) := by
  intro account
  cases count with
  | exact n =>
      by_cases hle : n ≤ account.remaining
      · have hreported : n ≤ (account.reported mode).remaining := hle
        rw [run_takeCopies?_of_le hle, run_takeCopies?_of_le hreported]
        simp [Account.reported, Event.record?]
      · have hlt : account.remaining < n := Nat.lt_of_not_le hle
        have hreported : (account.reported mode).remaining < n := hlt
        rw [run_takeCopies?_of_lt hlt, run_takeCopies?_of_lt hreported]
        simp [Account.reported, Event.record?]
  | star | plus | optional | range => rfl

end Follows

end Outlining

namespace Outline

open Outlining

theorem follows_copies {mode : Mode} {pass : Outlining (Option Node)}
    {action : Outlining (Option Outline)} (n : Nat)
    (h : Follows mode (nodeOption mode) pass action) :
    Follows mode (nodes mode) (copies pass n) (copies action n) := by
  induction n with
  | zero => exact follows_pure []
  | succ n ih =>
      rw [copies_succ, copies_succ]
      refine h.bind fun first => ih.map fun others => ?_
      rw [nodes_append, nodes_toList]

theorem follows_annotate (mode : Mode) (heading : Option String) (outlines : List Outline) :
    Follows mode (node mode) (Node.annotate mode heading (nodes mode outlines))
      (close heading outlines) := by
  cases heading with
  | none => exact follows_pure (Outline.row none outlines)
  | some identity =>
      cases mode with
      | mustache =>
          have hnote : Follows .mustache id (note (.headed identity)) (note (.headed identity)) :=
            follows_note rfl
          exact hnote.map fun _ => rfl
      | plain => exact (follows_pure (Outline.row (some identity) outlines)).unreported rfl

mutual

theorem follows_reduce (mode : Mode) (depth : Nat) (node : Node) :
    Follows mode (nodeOption mode) (node.reduce mode depth) (ofNode depth node) := by
  match node with
  | .char c => exact follows_pure (some (Outline.char c))
  | .backreference target => exact follows_pure (some (Outline.backreference target))
  | .classRange low high => exact follows_pure none
  | .assertion kind body => exact follows_pure none
  | .characterClass true items => exact follows_pure none
  | .characterClass false items =>
      exact (follows_reduceList mode (depth + 1) items).map fun outlines => rfl
  | .group (some capture) body => exact follows_pure (some (Outline.hole capture.identity))
  | .group none body =>
      exact (follows_reduceOption mode (depth + 1) body).map fun outline => rfl
  | .repetition body quantifier =>
      have hbody := follows_reduce mode (depth + 1) body
      refine (follows_takeCopies? quantifier.count).bind fun granted => ?_
      cases granted with
      | some n => exact (follows_copies n hbody).map fun outlines => rfl
      | none => exact hbody.map fun outline => by cases outline <;> rfl
  | .alternative parts =>
      refine (follows_reduceList mode (depth + 1) parts).bind fun outlines => ?_
      exact (follows_annotate mode _ outlines).map fun outline => rfl
  | .disjunction left right =>
      refine (follows_reduceSide mode (depth + 2) left).bind fun front => ?_
      refine (follows_reduceSide mode (depth + 2) right).map fun back => ?_
      simp [nodeOption, Outline.node, nodes_append]

theorem follows_reduceOption (mode : Mode) (depth : Nat) (node : Option Node) :
    Follows mode (nodeOption mode) (Node.reduceOption mode depth node)
      (ofNodeOption depth node) := by
  match node with
  | none => exact follows_pure none
  | some node => exact follows_reduce mode depth node

theorem follows_reduceList (mode : Mode) (depth : Nat) (nodes : List Node) :
    Follows mode (Outline.nodes mode) (Node.reduceList mode depth nodes)
      (ofNodes depth nodes) := by
  match nodes with
  | [] => exact follows_pure []
  | node :: nodes =>
      refine (follows_reduce mode depth node).bind fun front => ?_
      refine (follows_reduceList mode depth nodes).map fun back => ?_
      rw [nodes_append, nodes_toList]

theorem follows_reduceSide (mode : Mode) (depth : Nat) (side : Option Node) :
    Follows mode (Outline.nodes mode) (Node.reduceSide mode depth side)
      (ofSide depth side) := by
  match side with
  | none => exact (follows_annotate mode none []).map fun outline => rfl
  | some (.disjunction left right) =>
      refine (follows_reduceSide mode depth left).bind fun front => ?_
      refine (follows_reduceSide mode depth right).map fun back => ?_
      exact (nodes_append mode front back).symm
  | some (.alternative parts) =>
      refine (follows_reduceList mode depth parts).bind fun outlines => ?_
      exact (follows_annotate mode (heading? parts) outlines).map fun outline => rfl
  | some (.char _) | some (.group _ _) | some (.repetition _ _) | some (.assertion _ _)
  | some (.characterClass _ _) | some (.classRange _ _) | some (.backreference _) =>
      simp only [Node.reduceSide, ofSide]
      refine (follows_reduce mode depth _).bind fun outline => ?_
      rw [← nodes_toList]
      exact (follows_annotate mode _ outline.toList).map fun row => rfl

end

end Outline

end PatternTemplate
