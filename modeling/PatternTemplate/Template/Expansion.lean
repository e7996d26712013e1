import PatternTemplate.Pattern.Node

/-!
# Expansion of fixed repetitions

A repetition with a fixed count is written out as that many copies, as long as the copies of the
whole pattern stay within `copyLimit`; one that would exceed what is left is kept as it is.
Outlining therefore runs with an account of what is left, and notes what it does (`Event`) in the
order in which it does it.
-/

namespace PatternTemplate

/-- The number of copies that fixed repetitions may be expanded into, all together. -/
def copyLimit : Nat := 1024

inductive Event where
  /-- A repetition was expanded into `count` copies, and `remaining` may still be made. -/
  | expanded (count remaining : Nat)
  /-- A repetition of `count` copies was kept, since only `remaining` may be made. -/
  | kept (count remaining : Nat)
  /-- A section for the group with that identity was completed. -/
  | headed (identity : String)
  deriving DecidableEq, Repr

structure Account where
  /-- The number of copies that may still be made. -/
  remaining : Nat := copyLimit
  /-- What was noted, in order. -/
  events : Array Event := #[]
  deriving DecidableEq, Repr

abbrev Outlining := StateM Account

namespace Outlining

theorem run_pure {α : Type} (a : α) (account : Account) :
    (pure a : Outlining α).run account = (a, account) := rfl

theorem run_bind {α β : Type} (action : Outlining α) (next : α → Outlining β)
    (account : Account) :
    (action >>= next).run account =
      (next (action.run account).1).run (action.run account).2 := rfl

def note (event : Event) : Outlining Unit :=
  modify fun account => { account with events := account.events.push event }

theorem run_note (event : Event) (account : Account) :
    (note event).run account = ((), ⟨account.remaining, account.events.push event⟩) := rfl

/-- Asks for copies: their number, if the repetition has a fixed count and so many are left. Copies
that are granted are taken off the account. -/
def takeCopies? (count : Quantifier.Count) : Outlining (Option Nat) := do
  match count with
  | .exact n =>
    let remaining := (← get).remaining
    if n ≤ remaining then
      modify fun account => { account with remaining := remaining - n }
      note (.expanded n (remaining - n))
      return some n
    else
      note (.kept n remaining)
      return none
  | _ => return none

theorem run_takeCopies?_of_le {n : Nat} {account : Account} (h : n ≤ account.remaining) :
    (takeCopies? (.exact n)).run account =
      (some n, ⟨account.remaining - n,
        account.events.push (.expanded n (account.remaining - n))⟩) := by
  change (if n ≤ account.remaining then _ else _ : Outlining (Option Nat)).run account = _
  rw [if_pos h]
  rfl

theorem run_takeCopies?_of_lt {n : Nat} {account : Account} (h : account.remaining < n) :
    (takeCopies? (.exact n)).run account =
      (none, ⟨account.remaining, account.events.push (.kept n account.remaining)⟩) := by
  have hle : ¬ n ≤ account.remaining := Nat.not_le_of_lt h
  change (if n ≤ account.remaining then _ else _ : Outlining (Option Nat)).run account = _
  rw [if_neg hle]
  rfl

theorem takeCopies?_of_not_exact {count : Quantifier.Count} (h : ∀ n, count ≠ .exact n) :
    takeCopies? count = pure none := by
  cases count with
  | exact n => exact absurd rfl (h n)
  | star | plus | optional | range => rfl

def copies {α : Type} (action : Outlining (Option α)) : Nat → Outlining (List α)
  | 0 => return []
  | n + 1 => do
    let first ← action
    let others ← copies action n
    return first.toList ++ others

theorem copies_succ {α : Type} (action : Outlining (Option α)) (n : Nat) :
    copies action (n + 1) = do
      let first ← action
      let others ← copies action n
      return first.toList ++ others := rfl

end Outlining

end PatternTemplate
