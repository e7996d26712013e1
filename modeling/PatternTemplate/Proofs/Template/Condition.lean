import PatternTemplate.Proofs.Pattern.Lexeme
import PatternTemplate.Proofs.Template.Alike
import PatternTemplate.Proofs.Template.Denotation
import PatternTemplate.Proofs.Template.Remains

/-!
# Patterns without their conditions

Assertions and classes are the conditions of a pattern: they are matched and not shown, whatever
quantifier they have. Yet a condition can change what is shown behind it. With a fixed count it
takes copies like everything else, and these may be the ones that a repetition behind it would have
been granted (`Regex.render_unconditional_ne`).

So a pattern is outlined side by side with the same pattern without its conditions, from an account
that holds some copies fewer, the debt. Each condition adds what it takes to the debt, which is
counted on the way (`Outline.toll`). A repetition that is granted to the pattern without conditions
could only be refused to the other one if the debt were greater than what is left in the end. As
long as all of the toll is left over, therefore, the templates are the same
(`Regex.render_unconditional`). The toll counts the copies that are made for conditions and not
those they ask for, so a condition to which they are refused costs nothing, and neither does one
that asks for none (`Regex.toll_eq_zero`).
-/

namespace PatternTemplate

namespace Node

def isCondition : Node → Bool
  | assertion _ _ | characterClass _ _ => true
  | repetition body _ => body.isCondition
  | _ => false

mutual

/-- The tree without the conditions in it. -/
def unconditional : Node → Node
  | group capture body => .group capture (unconditionalOption body)
  | repetition body quantifier => .repetition (unconditional body) quantifier
  | alternative parts => .alternative (unconditionalList parts)
  | disjunction left right => .disjunction (unconditionalOption left) (unconditionalOption right)
  | node => node

def unconditionalOption : Option Node → Option Node
  | none => none
  | some node => if node.isCondition then none else some (unconditional node)

def unconditionalList : List Node → List Node
  | [] => []
  | node :: nodes =>
    if node.isCondition then unconditionalList nodes
    else unconditional node :: unconditionalList nodes

end

theorem capture?_of_isCondition {node : Node} (h : node.isCondition = true) :
    node.capture? = none := by
  cases node <;> first | rfl | exact Bool.noConfusion h

theorem capture?_unconditional (node : Node) : node.unconditional.capture? = node.capture? := by
  cases node <;> rfl

theorem exists_of_unconditional_eq_disjunction {node : Node} {left right : Option Node}
    (h : node.unconditional = .disjunction left right) :
    ∃ left right, node = .disjunction left right := by
  cases node with
  | disjunction left right => exact ⟨left, right, rfl⟩
  | _ => cases h

theorem exists_of_unconditional_eq_alternative {node : Node} {parts : List Node}
    (h : node.unconditional = .alternative parts) : ∃ parts, node = .alternative parts := by
  cases node with
  | alternative parts => exact ⟨parts, rfl⟩
  | _ => cases h

theorem heading?_unconditionalList (parts : List Node) :
    Outline.heading? (unconditionalList parts) = Outline.heading? parts := by
  unfold Outline.heading?
  congr 1
  induction parts with
  | nil => rfl
  | cons node nodes ih =>
      cases hcondition : node.isCondition with
      | true => simp [unconditionalList, hcondition, ih, capture?_of_isCondition hcondition]
      | false => simp [unconditionalList, hcondition, ih, capture?_unconditional,
          List.findSome?_cons]

end Node

def Regex.unconditional (regex : Regex) : Regex :=
  { regex with body := Node.unconditionalOption regex.body }

namespace Outlining

/-- The number of copies that an action makes, in place of its result. -/
def spent {α : Type} (action : Outlining α) : Outlining Nat := do
  let before ← get
  let _ ← action
  let after ← get
  return before.remaining - after.remaining

def total (action : Outlining Nat) : Nat → Outlining Nat
  | 0 => return 0
  | n + 1 => do
    let first ← action
    let others ← total action n
    return first + others

end Outlining

namespace Outline

open Outlining

mutual

/-- Outlines a node that is no condition, and counts the copies that are made for conditions. -/
def toll (depth : Nat) : Node → Outlining Nat
  | .group none body => tollOption (depth + 1) body
  | .repetition body quantifier => do
    match ← takeCopies? quantifier.count with
    | some count => total (toll (depth + 1) body) count
    | none => toll (depth + 1) body
  | .alternative parts => tollList (depth + 1) parts
  | .disjunction left right => do
    let front ← tollSide (depth + 2) left
    let back ← tollSide (depth + 2) right
    return front + back
  | _ => return 0

/-- Counts the copies made for conditions in a tree that may be missing. All copies count that are
made for a condition. -/
def tollOption (depth : Nat) : Option Node → Outlining Nat
  | none => return 0
  | some node => if node.isCondition then spent (ofNode depth node) else toll depth node

def tollList (depth : Nat) : List Node → Outlining Nat
  | [] => return 0
  | node :: nodes => do
    let front ← if node.isCondition then spent (ofNode depth node) else toll depth node
    let back ← tollList depth nodes
    return front + back

def tollSide (depth : Nat) : Option Node → Outlining Nat
  | none => return 0
  | some (.disjunction left right) => do
    let front ← tollSide depth left
    let back ← tollSide depth right
    return front + back
  | some (.alternative parts) => tollList depth parts
  | some node => if node.isCondition then spent (ofNode depth node) else toll depth node

end

end Outline

def Regex.toll (regex : Regex) : Nat :=
  ((Outline.tollOption 1 regex.body).run {}).1

def Regex.copies (regex : Regex) : Nat :=
  copiesMade regex.outline.2.events.toList

theorem Regex.copies_add_remaining (regex : Regex) :
    regex.copies + regex.outline.2.remaining = copyLimit :=
  regex.remains_outline.2.copiesMade_add

/-! ### Actions with a debt -/

namespace Outlining

def Declines {α : Type} (action : Outlining α) : Prop :=
  ∀ account : Account, (action.run account).2.remaining ≤ account.remaining

/-- The action `part` does what `whole` does, apart from what the toll counts. The account of
`whole` holds fewer copies by a debt. If `part` leaves enough for the debt and the toll, then the
same is seen of both results and `whole` leaves fewer copies by just that. -/
structure Spares {α β : Type} (seen : α → β) (toll : Outlining Nat) (whole part : Outlining α) :
    Prop where
  declines : part.Declines
  spares : ∀ (a b c : Account) (debt : Nat), b.remaining = a.remaining →
    a.remaining + debt = c.remaining → debt + (toll.run b).1 ≤ (part.run c).2.remaining →
      seen (whole.run a).1 = seen (part.run c).1 ∧
        (toll.run b).2.remaining = (whole.run a).2.remaining ∧
          (whole.run a).2.remaining + (debt + (toll.run b).1) = (part.run c).2.remaining

section Spares

variable {α β γ δ : Type} {seen : α → β} {seenNext : γ → δ} {toll : Outlining Nat}
  {whole part : Outlining α}

theorem Declines.bind {next : α → Outlining γ} (h : part.Declines)
    (hnext : ∀ a, (next a).Declines) : (part >>= next).Declines := by
  intro account
  rw [run_bind]
  exact Nat.le_trans (hnext _ _) (h account)

theorem declines_takeCopies? (count : Quantifier.Count) : (takeCopies? count).Declines := by
  intro account
  cases count with
  | exact n =>
      by_cases hle : n ≤ account.remaining
      · rw [run_takeCopies?_of_le hle]
        exact Nat.sub_le _ _
      · rw [run_takeCopies?_of_lt (Nat.lt_of_not_le hle)]
  | star | plus | optional | range => exact Nat.le_refl _

theorem Records.declines {result : List Event → α → Prop} (h : Records part result) :
    part.Declines := by
  intro account
  obtain ⟨noted, -, hledger, -⟩ := h account
  have hsum := hledger.copiesMade_add
  omega

theorem spares_pure {x y : α} (h : seen x = seen y) : Spares seen (pure 0) (pure x) (pure y) where
  declines _ := Nat.le_refl _
  spares _ _ _ _ hb hc _ := ⟨h, hb, hc⟩

theorem Spares.bind {tollNext : Outlining Nat} {next next' : α → Outlining γ}
    (h : Spares seen toll whole part)
    (hnext : ∀ x y, seen x = seen y → Spares seenNext tollNext (next x) (next' y)) :
    Spares seenNext (do return (← toll) + (← tollNext)) (whole >>= next) (part >>= next') where
  declines := h.declines.bind fun y => (hnext y y rfl).declines
  spares a b c debt hb hc hleft := by
    simp only [run_bind, run_pure] at hleft ⊢
    rw [← Nat.add_assoc debt] at hleft ⊢
    -- what is left in the end is no more than what is left after the first action
    have hdeclines := (hnext _ (part.run c).1 rfl).declines (part.run c).2
    have hfirst : debt + (toll.run b).1 ≤ (part.run c).2.remaining :=
      Nat.le_trans (Nat.le_of_add_right_le hleft) hdeclines
    obtain ⟨hseen, htoll, hsum⟩ := h.spares a b c debt hb hc hfirst
    exact (hnext _ _ hseen).spares _ _ _ _ htoll hsum hleft

theorem Spares.bind_free {next next' : α → Outlining γ} (h : Spares seen toll whole part)
    (hfree : ∀ a account, ((next a).run account).2.remaining = account.remaining)
    (hfree' : ∀ a account, ((next' a).run account).2.remaining = account.remaining)
    (hnext : ∀ x y, seen x = seen y → ∀ account account',
      seenNext ((next x).run account).1 = seenNext ((next' y).run account').1) :
    Spares seenNext toll (whole >>= next) (part >>= next') where
  declines := h.declines.bind fun y account => Nat.le_of_eq (hfree' y account)
  spares a b c debt hb hc hleft := by
    simp only [run_bind, hfree, hfree'] at hleft ⊢
    obtain ⟨hseen, htoll, hsum⟩ := h.spares a b c debt hb hc hleft
    exact ⟨hnext _ _ hseen _ _, htoll, hsum⟩

theorem Spares.map {f g : α → γ} (h : Spares seen toll whole part)
    (hfg : ∀ x y, seen x = seen y → seenNext (f x) = seenNext (g y)) :
    Spares seenNext toll (do return f (← whole)) (do return g (← part)) :=
  h.bind_free (fun _ _ => rfl) (fun _ _ => rfl) fun x y hseen _ _ => hfg x y hseen

/-- A request that is granted to `part` is granted to `whole`, which holds enough for it since the
debt is left over. -/
theorem spares_takeCopies? (count : Quantifier.Count) {tollNext : Option Nat → Outlining Nat}
    {next next' : Option Nat → Outlining α}
    (h : ∀ granted, Spares seen (tollNext granted) (next granted) (next' granted)) :
    Spares seen (takeCopies? count >>= tollNext) (takeCopies? count >>= next)
      (takeCopies? count >>= next') where
  declines := (declines_takeCopies? count).bind fun granted => (h granted).declines
  spares a b c debt hb hc hleft := by
    simp only [run_bind] at hleft ⊢
    cases count with
    | exact n =>
        by_cases hle : n ≤ c.remaining
        · rw [run_takeCopies?_of_le hle] at hleft ⊢
          have hdeclines := (h (some n)).declines
            ⟨c.remaining - n, c.events.push (.expanded n (c.remaining - n))⟩
          have hdebt := Nat.le_trans (Nat.le_of_add_right_le hleft) hdeclines
          -- enough is left in the end for the debt, so it was there for the request as well
          have hwhole : n ≤ a.remaining := by
            simp only at hdebt
            omega
          have htoll : n ≤ b.remaining := hb ▸ hwhole
          rw [run_takeCopies?_of_le htoll] at hleft ⊢
          rw [run_takeCopies?_of_le hwhole]
          refine (h (some n)).spares _ _ _ debt ?_ ?_ hleft
          · simp only [hb]
          · simp only
            omega
        · have hwhole : a.remaining < n := by omega
          have htoll : b.remaining < n := hb ▸ hwhole
          rw [run_takeCopies?_of_lt (Nat.lt_of_not_le hle)] at hleft ⊢
          rw [run_takeCopies?_of_lt htoll] at hleft ⊢
          rw [run_takeCopies?_of_lt hwhole]
          exact (h none).spares _ _ _ debt hb hc hleft
    | star | plus | optional | range => exact (h none).spares a b c debt hb hc hleft

theorem Spares.copies {seen : Option α → β} {seenList : List α → γ}
    {whole part : Outlining (Option α)} (h : Spares seen toll whole part)
    (hcons : ∀ first first' others others', seen first = seen first' →
      seenList others = seenList others' →
        seenList (first.toList ++ others) = seenList (first'.toList ++ others')) (n : Nat) :
    Spares seenList (total toll n) (Outlining.copies whole n) (Outlining.copies part n) := by
  induction n with
  | zero => exact spares_pure rfl
  | succ n ih =>
      rw [copies_succ, copies_succ]
      exact h.bind fun first first' hfirst => ih.map fun others others' hothers =>
        hcons first first' others others' hfirst hothers

/-- An action of which nothing is seen can be left out for the copies that it makes. -/
theorem spares_spent {y : α} (halike : Alike id whole whole) (hdeclines : whole.Declines)
    (hseen : ∀ account, seen (whole.run account).1 = seen y) :
    Spares seen (spent whole) whole (pure y) where
  declines _ := Nat.le_refl _
  spares a b c debt hb hc _ := by
    have hsame := (halike b a hb).2
    have hle := hdeclines a
    have hspent : (spent whole).run b =
        (b.remaining - (whole.run b).2.remaining, (whole.run b).2) := rfl
    rw [hspent]
    refine ⟨hseen a, hsame, ?_⟩
    simp only [run_pure]
    omega

end Spares

end Outlining

namespace Outline

open Outlining

variable {mode : Mode}

theorem shown_of_isCondition (node : Node) (h : node.isCondition = true) (depth : Nat)
    (account : Account) : shown mode ((ofNode depth node).run account).1 = "" := by
  match node, h with
  | .assertion _ _, _ | .characterClass true _, _ => rfl
  | .characterClass false items, _ =>
      exact shown_characterClass ((ofNodes (depth + 1) items).run account).1
  | .repetition body quantifier, h =>
      have hbody := shown_of_isCondition body h (depth + 1)
      -- copies of nothing are nothing, however many are granted
      have hcopies : ∀ n account,
          shownList mode ((copies (ofNode (depth + 1) body) n).run account).1 = "" := by
        intro n
        induction n with
        | zero => exact fun _ => shownList_nil
        | succ n ih =>
            intro account
            rw [copies_succ, run_bind, run_bind, run_pure]
            simp [hbody, ih]
      rw [ofNode, run_bind]
      cases ((takeCopies? quantifier.count).run account).1 with
      | some n =>
          change shown mode (some (.row none ((copies (ofNode (depth + 1) body) n).run _).1)) = ""
          simp [hcopies]
      | none =>
          change shown mode (((ofNode (depth + 1) body).run _).1.map (.repetition · quantifier)) = ""
          simp [hbody]

theorem spares_of_isCondition {node : Node} (h : node.isCondition = true) (depth : Nat) :
    Spares (shown mode) (spent (ofNode depth node)) (ofNode depth node) (pure none) :=
  spares_spent (alike_depth_ofNode (.refl depth) node) (records_ofNode depth node).declines
    (shown_of_isCondition node h depth)

theorem spares_close {α β γ δ : Type} {seen : α → β} {seenNext : γ → δ} {toll : Outlining Nat}
    {whole part : Outlining α} (h : Spares seen toll whole part) (heading : Option String)
    (parts : α → List Outline) (f : Outline → γ)
    (hf : ∀ x y, seen x = seen y →
      seenNext (f (.row heading (parts x))) = seenNext (f (.row heading (parts y)))) :
    Spares seenNext toll (do return f (← close heading (parts (← whole))))
      (do return f (← close heading (parts (← part)))) := by
  refine h.bind_free (fun x account => (run_close heading (parts x) account).2)
    (fun y account => (run_close heading (parts y) account).2) ?_
  intro x y hseen account account'
  simp only [run_bind, run_pure, run_close]
  exact hf x y hseen

theorem spares_side {node : Node} (hchoice : ∀ left right, node = .disjunction left right → False)
    (hrow : ∀ parts, node = .alternative parts → False) (depth : Nat)
    (h : node.isCondition = false → Spares (shown mode) (toll depth node) (ofNode depth node)
      (ofNode depth node.unconditional)) :
    Spares (shownList mode) (tollSide depth (some node)) (ofSide depth (some node))
      (ofSide depth (Node.unconditionalOption (some node))) := by
  rw [tollSide.eq_4 _ _ hchoice hrow, ofSide.eq_4 _ _ hchoice hrow, Node.unconditionalOption]
  cases hcondition : node.isCondition with
  | true =>
      -- a condition leaves an empty branch, which has no heading either
      have hheading : heading? [node] = none := by
        simp [heading?, Node.capture?_of_isCondition hcondition]
      have hfree : Spares (shown mode) (spent (ofNode depth node)) (ofNode depth node)
          (pure none) := spares_of_isCondition hcondition depth
      rw [if_pos rfl, if_pos rfl, hheading]
      refine spares_close hfree none Option.toList (fun row => [row])
        fun outline outline' hshown => ?_
      simpa using hshown
  | false =>
      have hheading : heading? [node.unconditional] = heading? [node] := by
        simp [heading?, Node.capture?_unconditional, List.findSome?_cons]
      have hchoice' : ∀ left right, node.unconditional = .disjunction left right → False := by
        intro left right heq
        obtain ⟨left, right, rfl⟩ := Node.exists_of_unconditional_eq_disjunction heq
        exact hchoice left right rfl
      have hrow' : ∀ parts, node.unconditional = .alternative parts → False := by
        intro parts heq
        obtain ⟨parts, rfl⟩ := Node.exists_of_unconditional_eq_alternative heq
        exact hrow parts rfl
      rw [if_neg Bool.false_ne_true, if_neg Bool.false_ne_true, ofSide.eq_4 _ _ hchoice' hrow',
        hheading]
      refine spares_close (h hcondition) _ Option.toList
        (fun row => [row]) fun outline outline' hshown => ?_
      simpa using congrArg (mode.wrap _) hshown

mutual

/-- A node that is no condition is outlined as it is without conditions, apart from their toll. -/
theorem spares_ofNode (node : Node) (h : node.isCondition = false) (depth : Nat) :
    Spares (shown mode) (toll depth node) (ofNode depth node)
      (ofNode depth node.unconditional) := by
  match node, h with
  | .char _, _ | .backreference _, _ | .classRange _ _, _ | .group (some _) _, _ =>
      exact spares_pure rfl
  | .group none body, _ =>
      exact (spares_ofNodeOption body (depth + 1)).map fun outline outline' hshown => by
        simpa using hshown
  | .repetition body quantifier, h =>
      have hbody := spares_ofNode body h (depth + 1)
      refine spares_takeCopies? quantifier.count fun granted => ?_
      cases granted with
      | some n =>
          have hcopies : Spares (shownList mode) (total (toll (depth + 1) body) n)
              (copies (ofNode (depth + 1) body) n)
              (copies (ofNode (depth + 1) body.unconditional) n) :=
            hbody.copies (fun first first' others others' hfirst hothers => by
              simp [hfirst, hothers]) n
          exact hcopies.map fun outlines outlines' hshown => by simp [hshown]
      | none => exact hbody.map fun outline outline' hshown => by simp [hshown]
  | .alternative parts, _ =>
      simp only [Node.unconditional, ofNode, Node.heading?_unconditionalList]
      exact spares_close (spares_ofNodes parts (depth + 1)) _ id some
        fun outlines outlines' hshown => by simpa using congrArg (mode.wrap _) hshown
  | .disjunction left right, _ =>
      refine (spares_ofSide left (depth + 2)).bind fun front front' hfront => ?_
      refine (spares_ofSide right (depth + 2)).map fun back back' hback => ?_
      simp [hfront, hback]

theorem spares_ofNodeOption (node : Option Node) (depth : Nat) :
    Spares (shown mode) (tollOption depth node) (ofNodeOption depth node)
      (ofNodeOption depth (Node.unconditionalOption node)) := by
  match node with
  | none => exact spares_pure rfl
  | some node =>
      rw [Node.unconditionalOption, tollOption]
      cases h : node.isCondition with
      | true => exact spares_of_isCondition h depth
      | false => exact spares_ofNode node h depth

theorem spares_ofNodes (nodes : List Node) (depth : Nat) :
    Spares (shownList mode) (tollList depth nodes) (ofNodes depth nodes)
      (ofNodes depth (Node.unconditionalList nodes)) := by
  match nodes with
  | [] => exact spares_pure rfl
  | node :: nodes =>
      have hnodes := spares_ofNodes nodes depth
      rw [Node.unconditionalList, tollList]
      cases h : node.isCondition with
      | true =>
          have hnone : ofNodes depth (Node.unconditionalList nodes) = (do
              let front ← pure none
              let back ← ofNodes depth (Node.unconditionalList nodes)
              return front.toList ++ back) := by simp
          have hfree : Spares (shown mode) (spent (ofNode depth node)) (ofNode depth node)
              (pure none) := spares_of_isCondition h depth
          rw [if_pos rfl, if_pos rfl, hnone]
          refine hfree.bind fun front front' hfront => ?_
          exact hnodes.map fun back back' hback => by simp [hfront, hback]
      | false =>
          rw [if_neg Bool.false_ne_true, if_neg Bool.false_ne_true]
          refine (spares_ofNode node h depth).bind fun front front' hfront => ?_
          exact hnodes.map fun back back' hback => by simp [hfront, hback]

theorem spares_ofSide (side : Option Node) (depth : Nat) :
    Spares (shownList mode) (tollSide depth side) (ofSide depth side)
      (ofSide depth (Node.unconditionalOption side)) := by
  match side with
  | none => exact spares_pure rfl
  | some (.disjunction left right) =>
      refine (spares_ofSide left depth).bind fun front front' hfront => ?_
      refine (spares_ofSide right depth).map fun back back' hback => ?_
      simp [hfront, hback]
  | some (.alternative parts) =>
      simp only [Node.unconditionalOption, Node.unconditional, Node.isCondition, ofSide, tollSide,
        Bool.false_eq_true, if_false, Node.heading?_unconditionalList]
      exact spares_close (spares_ofNodes parts depth) _ id (fun row => [row])
        fun outlines outlines' hshown => by simpa using congrArg (mode.wrap _) hshown
  | some (.char _) | some (.group _ _) | some (.repetition _ _) | some (.assertion _ _)
  | some (.characterClass _ _) | some (.classRange _ _) | some (.backreference _) =>
      refine spares_side ?_ ?_ depth fun h => spares_ofNode _ h depth
      · rintro _ _ ⟨⟩
      · rintro _ ⟨⟩

end

end Outline

/-! ### Conditions that need no copies -/

def Node.Unburdened (node : Node) : Prop :=
  ∀ other ∈ node.walk fun _ => true, other.isCondition = true → other.need = 0

theorem Node.Unburdened.of_mem_children {node child : Node} (h : node.Unburdened)
    (hchild : child ∈ node.children) : child.Unburdened :=
  fun other hother => h other (walk_subset_of_mem_children rfl hchild hother)

namespace Outlining

def Vanishes (action : Outlining Nat) : Prop :=
  ∀ account : Account, (action.run account).1 = 0

variable {first second : Outlining Nat}

theorem Vanishes.add (h : first.Vanishes) (h' : second.Vanishes) :
    Vanishes (do return (← first) + (← second)) := by
  intro account
  rw [run_bind, run_bind, run_pure, h account, h' _]

theorem Vanishes.total (h : first.Vanishes) (n : Nat) : (total first n).Vanishes := by
  induction n with
  | zero => exact fun _ => rfl
  | succ n ih => exact h.add ih

theorem vanishes_spent {α : Type} {action : Outlining α} {result : α → Prop}
    (h : Spends action 0 result) : (spent action).Vanishes := by
  intro account
  obtain ⟨noted, -, hheld, -⟩ := h account
  obtain ⟨-, hremaining, -⟩ := hheld (Nat.zero_le _)
  change account.remaining - (action.run account).2.remaining = 0
  rw [hremaining]
  exact Nat.sub_self _

end Outlining

namespace Outline

open Outlining

theorem vanishes_of_isCondition {node : Node} (h : node.Unburdened)
    (hcondition : node.isCondition = true) (depth : Nat) :
    (spent (ofNode depth node)).Vanishes := by
  have hspends := spends_ofNode .plain depth node
  rw [h node (Node.mem_walk_self _ node) hcondition] at hspends
  exact vanishes_spent hspends

theorem vanishes_ite {node : Node} (h : node.Unburdened) {depth : Nat}
    (htoll : (toll depth node).Vanishes) :
    Vanishes (if node.isCondition then spent (ofNode depth node) else toll depth node) := by
  split
  · next hcondition => exact vanishes_of_isCondition h hcondition depth
  · exact htoll

mutual

theorem vanishes_toll (node : Node) (h : node.Unburdened) (depth : Nat) :
    (toll depth node).Vanishes := by
  match node, h with
  | .char _, _ | .backreference _, _ | .classRange _ _, _ | .assertion _ _, _
  | .characterClass _ _, _ | .group (some _) _, _ => exact fun _ => rfl
  | .group none body, h =>
      exact vanishes_tollOption body
        (fun inner hinner => h.of_mem_children (Option.mem_toList.2 hinner)) (depth + 1)
  | .repetition body quantifier, h =>
      have hbody := vanishes_toll body (h.of_mem_children List.mem_cons_self) (depth + 1)
      intro account
      rw [toll, run_bind]
      cases ((takeCopies? quantifier.count).run account).1 with
      | some n => exact hbody.total n _
      | none => exact hbody _
  | .alternative parts, h =>
      exact vanishes_tollList parts (fun inner hinner => h.of_mem_children hinner) (depth + 1)
  | .disjunction left right, h =>
      have hleft := vanishes_tollSide left (fun inner hinner => h.of_mem_children
        (List.mem_append_left _ (Option.mem_toList.2 hinner))) (depth + 2)
      have hright := vanishes_tollSide right (fun inner hinner => h.of_mem_children
        (List.mem_append_right _ (Option.mem_toList.2 hinner))) (depth + 2)
      exact hleft.add hright

theorem vanishes_tollOption (node : Option Node) (h : ∀ inner ∈ node, inner.Unburdened)
    (depth : Nat) : (tollOption depth node).Vanishes := by
  match node, h with
  | none, _ => exact fun _ => rfl
  | some node, h => exact vanishes_ite (h node rfl) (vanishes_toll node (h node rfl) depth)

theorem vanishes_tollList (nodes : List Node) (h : ∀ node ∈ nodes, node.Unburdened) (depth : Nat) :
    (tollList depth nodes).Vanishes := by
  match nodes, h with
  | [], _ => exact fun _ => rfl
  | node :: nodes, h =>
      obtain ⟨hnode, hnodes⟩ := List.forall_mem_cons.1 h
      have hback := vanishes_tollList nodes hnodes depth
      rw [tollList]
      split
      · next hcondition => exact (vanishes_of_isCondition hnode hcondition depth).add hback
      · exact (vanishes_toll node hnode depth).add hback

theorem vanishes_tollSide (side : Option Node) (h : ∀ inner ∈ side, inner.Unburdened)
    (depth : Nat) : (tollSide depth side).Vanishes := by
  match side, h with
  | none, _ => exact fun _ => rfl
  | some (.disjunction left right), h =>
      have hinner := h _ rfl
      have hleft := vanishes_tollSide left (fun inner hmem => hinner.of_mem_children
        (List.mem_append_left _ (Option.mem_toList.2 hmem))) depth
      have hright := vanishes_tollSide right (fun inner hmem => hinner.of_mem_children
        (List.mem_append_right _ (Option.mem_toList.2 hmem))) depth
      exact hleft.add hright
  | some (.alternative parts), h =>
      exact vanishes_tollList parts (fun inner hinner => (h _ rfl).of_mem_children hinner) depth
  | some (.char _), h | some (.group _ _), h | some (.repetition _ _), h
  | some (.assertion _ _), h | some (.characterClass _ _), h | some (.classRange _ _), h
  | some (.backreference _), h => exact vanishes_ite (h _ rfl) (vanishes_toll _ (h _ rfl) depth)

end

end Outline

theorem Regex.toll_eq_zero {regex : Regex} (h : ∀ root ∈ regex.body, root.Unburdened) :
    regex.toll = 0 :=
  Outline.vanishes_tollOption regex.body h 1 {}

/-- If the copies made for conditions and the copies made without them are no more than there are,
then conditions change nothing but the number of copies made. -/
theorem Regex.render_unconditional {regex : Regex}
    (h : regex.toll + regex.unconditional.copies ≤ copyLimit) (mode : Mode) :
    regex.render mode = regex.unconditional.render mode ∧
      regex.copies = regex.toll + regex.unconditional.copies := by
  have hspares : Outlining.Spares (Outline.shown mode) (Outline.tollOption 1 regex.body)
      (Outline.ofNodeOption 1 regex.body)
      (Outline.ofNodeOption 1 (Node.unconditionalOption regex.body)) :=
    Outline.spares_ofNodeOption regex.body 1
  have hwhole := regex.copies_add_remaining
  have hpart := regex.unconditional.copies_add_remaining
  have hleft : 0 + regex.toll ≤ regex.unconditional.outline.2.remaining := by omega
  obtain ⟨hshown, -, hsum⟩ := hspares.spares {} {} {} 0 rfl rfl hleft
  change regex.outline.2.remaining + (0 + regex.toll) =
    regex.unconditional.outline.2.remaining at hsum
  rw [render_eq_shown, render_eq_shown]
  exact ⟨hshown, by omega⟩

/-- Conditions with and without a count before, inside and behind what is repeated. -/
def Regex.guarded : Regex where
  body := some <| .alternative [
    .repetition (.assertion .lookahead (some (.char (.simple 'a')))) ⟨.exact 3, true⟩,
    .repetition (.group none (some (.alternative [
      .characterClass false [.char (.simple 'b')],
      .repetition (.characterClass true []) ⟨.exact 5, true⟩,
      .group (some ⟨1, some "word"⟩) none]))) ⟨.exact 2, true⟩,
    .assertion .inputEnd none]
  flags := {}
  captures := 1

theorem Regex.render_unconditional_guarded :
    guarded.toll + guarded.unconditional.copies ≤ copyLimit ∧ guarded.toll = 13 ∧
      guarded.render .mustache = guarded.unconditional.render .mustache ∧
        guarded.copies = guarded.toll + guarded.unconditional.copies := by
  have htoll : guarded.toll = 13 := by decide +kernel
  have hcopies : guarded.unconditional.copies = 2 := by decide +kernel
  have h : guarded.toll + guarded.unconditional.copies ≤ copyLimit := by
    rw [htoll, hcopies]
    decide
  exact ⟨h, htoll, Regex.render_unconditional h .mustache⟩

def Regex.greedyCondition : Regex where
  body := some <| .alternative [
    .repetition (.assertion .lookahead (some (.char (.simple 'a')))) ⟨.exact copyLimit, true⟩,
    .repetition (.char (.simple 'b')) ⟨.exact 2, true⟩]
  flags := {}
  captures := 0

/-- A condition can take the copies that a repetition behind it would have been granted. -/
theorem Regex.render_unconditional_ne :
    Regex.ofPattern "(?=a)\x7b1024\x7db\x7b2\x7d" = .ok greedyCondition ∧
      greedyCondition.render .plain = "b" ∧
        greedyCondition.unconditional.render .plain = "bb" ∧
          greedyCondition.render .plain ≠ greedyCondition.unconditional.render .plain := by
  have hrender : greedyCondition.render .plain = "b" := by decide +kernel
  have hunconditional : greedyCondition.unconditional.render .plain = "bb" := by decide +kernel
  refine ⟨eq_ok_of_toOption_eq_some (by decide +kernel), hrender, hunconditional, ?_⟩
  rw [hrender, hunconditional]
  decide

end PatternTemplate
