import PatternTemplate.Template.Expansion

/-!
# The ledger of outlining

The events of outlining say how many copies were left after each step. They fit together to a
ledger (`Ledger`): every expansion found the copies it took, and every refusal found too few. So the
copies that were made and those that are left add up to those there were at first, however often
and in whatever order copies were asked for. Each action of outlining appends to the ledger
(`Outlining.Records`), and two actions in a row append one after the other.
-/

namespace PatternTemplate

/-- The events lead from so many copies that may be made to so many. An expansion leaves what adds
up with its copies to what was there, so it takes no more than that. -/
inductive Ledger : Nat → List Event → Nat → Prop
  | nil (remaining : Nat) : Ledger remaining [] remaining
  | expanded {before count left after : Nat} {events : List Event} (hsum : left + count = before)
      (h : Ledger left events after) : Ledger before (.expanded count left :: events) after
  | kept {count left after : Nat} {events : List Event} (hlt : left < count)
      (h : Ledger left events after) : Ledger left (.kept count left :: events) after
  | headed {identity : String} {before after : Nat} {events : List Event}
      (h : Ledger before events after) : Ledger before (.headed identity :: events) after

def Event.copies : Event → Nat
  | expanded count _ => count
  | _ => 0

@[simp] theorem Event.copies_expanded (count remaining : Nat) :
    (expanded count remaining).copies = count := rfl

@[simp] theorem Event.copies_kept (count remaining : Nat) :
    (kept count remaining).copies = 0 := rfl

@[simp] theorem Event.copies_headed (identity : String) : (headed identity).copies = 0 := rfl

def copiesMade : List Event → Nat
  | [] => 0
  | event :: events => event.copies + copiesMade events

@[simp] theorem copiesMade_nil : copiesMade [] = 0 := rfl

@[simp] theorem copiesMade_cons (event : Event) (events : List Event) :
    copiesMade (event :: events) = event.copies + copiesMade events := rfl

@[simp] theorem copiesMade_append (front back : List Event) :
    copiesMade (front ++ back) = copiesMade front + copiesMade back := by
  induction front with
  | nil => simp
  | cons event events ih => simp [ih, Nat.add_assoc]

namespace Ledger

variable {before between after : Nat} {events front back : List Event}

theorem append (hfront : Ledger before front between) (hback : Ledger between back after) :
    Ledger before (front ++ back) after := by
  induction hfront with
  | nil => exact hback
  | expanded hsum _ ih => exact .expanded hsum (ih hback)
  | kept hlt _ ih => exact .kept hlt (ih hback)
  | headed _ ih => exact .headed (ih hback)

/-- The copies that were made and those that are left are those there were at first. -/
theorem copiesMade_add (h : Ledger before events after) : copiesMade events + after = before := by
  induction h with
  | nil => simp
  | expanded hsum _ ih =>
      rw [copiesMade_cons, Event.copies_expanded, Nat.add_assoc, ih, Nat.add_comm, hsum]
  | kept _ _ ih | headed _ ih => simpa using ih

end Ledger

namespace Outlining

/-- Whatever the account, the action continues its ledger by events that fit the result. -/
def Records {α : Type} (action : Outlining α) (result : List Event → α → Prop) : Prop :=
  ∀ account : Account, ∃ noted : List Event,
    (action.run account).2.events.toList = account.events.toList ++ noted ∧
      Ledger account.remaining noted (action.run account).2.remaining ∧
        result noted (action.run account).1

section Records

variable {α β : Type} {action : Outlining α} {result : List Event → α → Prop}

theorem records_pure {a : α} (h : result [] a) : Records (pure a) result := by
  intro account
  exact ⟨[], (List.append_nil _).symm, .nil _, h⟩

theorem Records.bind {next : α → Outlining β} {last : List Event → β → Prop}
    (h : Records action result)
    (hnext : ∀ noted a, result noted a → Records (next a) fun others b => last (noted ++ others) b) :
    Records (action >>= next) last := by
  intro account
  rw [run_bind]
  obtain ⟨noted, hevents, hledger, hresult⟩ := h account
  generalize action.run account = first at hevents hledger hresult ⊢
  obtain ⟨others, hevents', hledger', hlast⟩ := hnext noted first.1 hresult first.2
  refine ⟨noted ++ others, ?_, hledger.append hledger', hlast⟩
  rw [hevents', hevents, List.append_assoc]

theorem Records.map {f : α → β} {last : List Event → β → Prop} (h : Records action result)
    (hf : ∀ noted a, result noted a → last noted (f a)) :
    Records (do return f (← action)) last := by
  refine h.bind fun noted a hresult => records_pure ?_
  rw [List.append_nil]
  exact hf noted a hresult

theorem records_headed (identity : String) :
    Records (note (.headed identity)) fun noted _ => noted = [.headed identity] := by
  intro account
  rw [run_note]
  exact ⟨[.headed identity], by simp, .headed (.nil _), rfl⟩

theorem records_takeCopies? {n : Nat} {next : Option Nat → Outlining β}
    {last : List Event → β → Prop}
    (hgranted : ∀ left, Records (next (some n)) fun noted b => last (.expanded n left :: noted) b)
    (hrefused : ∀ left < n, Records (next none) fun noted b => last (.kept n left :: noted) b) :
    Records (takeCopies? (.exact n) >>= next) last := by
  intro account
  rw [run_bind]
  by_cases hle : n ≤ account.remaining
  · rw [run_takeCopies?_of_le hle]
    obtain ⟨noted, hevents, hledger, hlast⟩ := hgranted (account.remaining - n)
      ⟨account.remaining - n, account.events.push (.expanded n (account.remaining - n))⟩
    have hsum : account.remaining - n + n = account.remaining := Nat.sub_add_cancel hle
    refine ⟨.expanded n (account.remaining - n) :: noted, ?_, .expanded hsum hledger, hlast⟩
    rw [hevents, Array.toList_push, List.append_assoc, List.singleton_append]
  · have hlt : account.remaining < n := Nat.lt_of_not_le hle
    rw [run_takeCopies?_of_lt hlt]
    obtain ⟨noted, hevents, hledger, hlast⟩ := hrefused account.remaining hlt
      ⟨account.remaining, account.events.push (.kept n account.remaining)⟩
    refine ⟨.kept n account.remaining :: noted, ?_, .kept hlt hledger, hlast⟩
    rw [hevents, Array.toList_push, List.append_assoc, List.singleton_append]

end Records

end Outlining

end PatternTemplate
