import PatternTemplate.Template.Expansion

/-!
# What outlining spends

An action of outlining has a price, the number of copies that it makes if it can
(`Outlining.Spends`). On an account that holds the price it takes exactly the price off, keeps no
repetition and has its result; on every other account it keeps a repetition. The price of two
actions in a row is the sum of their prices, whatever the account.
-/

namespace PatternTemplate

def Event.isKept : Event → Bool
  | kept _ _ => true
  | _ => false

namespace Outlining

/-- The action spends the price on an account that holds it and then has a result with the
property; on every other account it notes a repetition that it keeps. -/
def Spends {α : Type} (action : Outlining α) (price : Nat) (result : α → Prop) : Prop :=
  ∀ account : Account, ∃ noted : List Event,
    (action.run account).2.events.toList = account.events.toList ++ noted ∧
      (price ≤ account.remaining →
        (∀ event ∈ noted, event.isKept = false) ∧
          (action.run account).2.remaining = account.remaining - price ∧
            result (action.run account).1) ∧
      (account.remaining < price → ∃ event ∈ noted, event.isKept = true)

section Spends

variable {α β : Type} {action : Outlining α} {price more : Nat} {result : α → Prop}

theorem spends_pure {a : α} (h : result a) : Spends (pure a) 0 result := by
  intro account
  refine ⟨[], (List.append_nil _).symm, ?_, ?_⟩
  · intro _
    exact ⟨by simp, rfl, h⟩
  · intro hlt
    exact absurd hlt (Nat.not_lt_zero _)

/-- Two actions in a row spend the sum of their prices. -/
theorem Spends.bind {next : α → Outlining β} {last : β → Prop} (h : Spends action price result)
    (hnext : ∀ a, Spends (next a) more fun b => result a → last b) :
    Spends (action >>= next) (price + more) last := by
  intro account
  rw [run_bind]
  obtain ⟨noted, hevents, hheld, hover⟩ := h account
  generalize action.run account = first at hevents hheld ⊢
  obtain ⟨others, hevents', hheld', hover'⟩ := hnext first.1 first.2
  refine ⟨noted ++ others, ?_, ?_, ?_⟩
  · rw [hevents', hevents, List.append_assoc]
  · intro hle
    obtain ⟨hkept, hremaining, hresult⟩ := hheld (by omega)
    obtain ⟨hkept', hremaining', hlast⟩ := hheld' (by omega)
    refine ⟨?_, by omega, hlast hresult⟩
    intro event hevent
    rcases List.mem_append.1 hevent with hevent | hevent
    · exact hkept event hevent
    · exact hkept' event hevent
  · intro hlt
    -- the first action may leave too little for the second one, or be too dear itself
    by_cases hle : price ≤ account.remaining
    · obtain ⟨-, hremaining, -⟩ := hheld hle
      obtain ⟨event, hevent, hkept⟩ := hover' (by omega)
      exact ⟨event, List.mem_append_right noted hevent, hkept⟩
    · obtain ⟨event, hevent, hkept⟩ := hover (by omega)
      exact ⟨event, List.mem_append_left others hevent, hkept⟩

theorem Spends.bind_free {next : α → Outlining β} {last : β → Prop}
    (h : Spends action price result) (hnext : ∀ a, Spends (next a) 0 fun b => result a → last b) :
    Spends (action >>= next) price last :=
  h.bind hnext

theorem Spends.map {f : α → β} {last : β → Prop} (h : Spends action price result)
    (hf : ∀ a, result a → last (f a)) : Spends (do return f (← action)) price last :=
  h.bind_free fun a => spends_pure (hf a)

theorem spends_note {event : Event} (h : event.isKept = false) :
    Spends (note event) 0 fun _ => True := by
  intro account
  rw [run_note]
  refine ⟨[event], by simp, ?_, ?_⟩
  · intro _
    exact ⟨by simpa using h, rfl, trivial⟩
  · intro hlt
    exact absurd hlt (Nat.not_lt_zero _)

/-- A fixed count is part of the price of what is done with the copies that are granted. -/
theorem spends_takeCopies? {n other : Nat} {next : Option Nat → Outlining β}
    {last refused : β → Prop} (hgranted : Spends (next (some n)) more last)
    (hrefused : Spends (next none) other refused) :
    Spends (takeCopies? (.exact n) >>= next) (n + more) last := by
  intro account
  rw [run_bind]
  by_cases hle : n ≤ account.remaining
  · rw [run_takeCopies?_of_le hle]
    obtain ⟨noted, hevents, hheld, hover⟩ := hgranted ⟨account.remaining - n,
      account.events.push (.expanded n (account.remaining - n))⟩
    refine ⟨.expanded n (account.remaining - n) :: noted, ?_, ?_, ?_⟩
    · rw [hevents, Array.toList_push, List.append_assoc, List.singleton_append]
    · intro hmore
      obtain ⟨hkept, hremaining, hresult⟩ := hheld (Nat.le_sub_of_add_le' hmore)
      refine ⟨List.forall_mem_cons.2 ⟨rfl, hkept⟩, ?_, hresult⟩
      rw [hremaining, Nat.sub_sub]
    · intro hlt
      obtain ⟨event, hevent, hkept⟩ := hover (Nat.sub_lt_left_of_lt_add hle hlt)
      exact ⟨event, List.mem_cons_of_mem _ hevent, hkept⟩
  · rw [run_takeCopies?_of_lt (Nat.lt_of_not_le hle)]
    obtain ⟨noted, hevents, -⟩ := hrefused ⟨account.remaining,
      account.events.push (.kept n account.remaining)⟩
    refine ⟨.kept n account.remaining :: noted, ?_, ?_, ?_⟩
    · rw [hevents, Array.toList_push, List.append_assoc, List.singleton_append]
    · intro hmore
      exact absurd (Nat.le_of_add_right_le hmore) hle
    · intro _
      exact ⟨_, List.mem_cons_self, rfl⟩

end Spends

end Outlining

end PatternTemplate
