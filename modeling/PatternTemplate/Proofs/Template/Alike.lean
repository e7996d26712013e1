import PatternTemplate.Proofs.Template.Expansion
import PatternTemplate.Proofs.Template.Text

/-!
# Outlining side by side

What outlining does depends on how many copies are left, and not on what was noted before. So two
actions are compared from accounts that hold the same number of copies, and by as much of their
results as matters (`Outlining.Alike`). How much that is, is said by a view of outlines: all of it,
or the text that is shown (`Outline.View`). For every view there is a rule for each kind of node,
by which nodes are outlined alike if what is in them is. In particular a node is outlined at a depth
as at every other one if rows can be sections at both of them (`Outline.alike_depth_ofNode`).
-/

namespace PatternTemplate

namespace Outlining

/-- From accounts with the same number of copies left, two actions have results of which the same is
seen, and leave the same number. -/
def Alike {α β : Type} (seen : α → β) (action other : Outlining α) : Prop :=
  ∀ account account' : Account, account.remaining = account'.remaining →
    seen (action.run account).1 = seen (other.run account').1 ∧
      (action.run account).2.remaining = (other.run account').2.remaining

section Alike

variable {α β γ δ : Type} {seen : α → β} {seenNext : γ → δ} {action other : Outlining α}

theorem alike_pure {a b : α} (h : seen a = seen b) : Alike seen (pure a) (pure b) :=
  fun _ _ hremaining => ⟨h, hremaining⟩

theorem Alike.bind {next next' : α → Outlining γ} (h : Alike seen action other)
    (hnext : ∀ a b, seen a = seen b → Alike seenNext (next a) (next' b)) :
    Alike seenNext (action >>= next) (other >>= next') := by
  intro account account' hremaining
  obtain ⟨hseen, hleft⟩ := h account account' hremaining
  rw [run_bind, run_bind]
  exact hnext _ _ hseen _ _ hleft

theorem Alike.map {f g : α → γ} (h : Alike seen action other)
    (hfg : ∀ a b, seen a = seen b → seenNext (f a) = seenNext (g b)) :
    Alike seenNext (do return f (← action)) (do return g (← other)) :=
  h.bind fun a b hseen => alike_pure (hfg a b hseen)

/-- After actions that do the same, it is enough to look at what is done with the same result. -/
theorem Alike.bind_id {next next' : α → Outlining γ} (h : Alike id action other)
    (hnext : ∀ a, Alike seenNext (next a) (next' a)) :
    Alike seenNext (action >>= next) (other >>= next') := by
  apply h.bind
  rintro a _ rfl
  exact hnext a

/-- An action that costs nothing might as well not be done, if nothing of its result is seen. -/
theorem alike_of_free {result : α → Prop} (h : Spends action 0 result) (a : α) :
    Alike (fun _ => ()) action (pure a) := by
  intro account account' hremaining
  obtain ⟨noted, -, hheld, -⟩ := h account
  obtain ⟨-, hleft, -⟩ := hheld (Nat.zero_le _)
  exact ⟨rfl, hleft.trans hremaining⟩

theorem alike_takeCopies? (count : Quantifier.Count) :
    Alike id (takeCopies? count) (takeCopies? count) := by
  intro account account' hremaining
  cases count with
  | exact n =>
      by_cases hle : n ≤ account.remaining
      · have hle' : n ≤ account'.remaining := hremaining ▸ hle
        simp [run_takeCopies?_of_le hle, run_takeCopies?_of_le hle', hremaining]
      · have hlt := Nat.lt_of_not_le hle
        have hlt' : account'.remaining < n := hremaining ▸ hlt
        simp [run_takeCopies?_of_lt hlt, run_takeCopies?_of_lt hlt', hremaining]
  | star | plus | optional | range => exact ⟨rfl, hremaining⟩

theorem Alike.of_id (h : Alike id action other) (seen : α → β) : Alike seen action other := by
  intro account account' hremaining
  obtain ⟨hsame, hleft⟩ := h account account' hremaining
  exact ⟨congrArg seen hsame, hleft⟩

theorem Alike.copies {seen : Option α → β} {seenList : List α → γ}
    {action other : Outlining (Option α)} (h : Alike seen action other)
    (hcons : ∀ first first' others others', seen first = seen first' →
      seenList others = seenList others' →
        seenList (first.toList ++ others) = seenList (first'.toList ++ others')) (n : Nat) :
    Alike seenList (Outlining.copies action n) (Outlining.copies other n) := by
  induction n with
  | zero => exact alike_pure rfl
  | succ n ih =>
      rw [copies_succ, copies_succ]
      exact h.bind fun first first' hfirst => ih.map fun others others' hothers =>
        hcons first first' others others' hfirst hothers

end Alike

end Outlining

namespace Outline

open Outlining

def shown (mode : Mode) (outline : Option Outline) : String :=
  Node.textOption (nodeOption mode outline)

def shownList (mode : Mode) (outlines : List Outline) : String :=
  Node.textList (nodes mode outlines)

theorem run_close (heading : Option String) (parts : List Outline) (account : Account) :
    ((close heading parts).run account).1 = .row heading parts ∧
      ((close heading parts).run account).2.remaining = account.remaining := by
  cases heading <;> exact ⟨rfl, rfl⟩

section Alike

variable {mode : Mode}

@[simp] theorem shownList_nil : shownList mode [] = "" := Node.textList_nil

@[simp] theorem shownList_append (front back : List Outline) :
    shownList mode (front ++ back) = shownList mode front ++ shownList mode back := by
  simp [shownList]

@[simp] theorem shownList_toList (outline : Option Outline) :
    shownList mode outline.toList = shown mode outline := by
  cases outline <;> simp [shownList, shown, nodes, nodeOption]

@[simp] theorem shownList_cons (outline : Outline) (outlines : List Outline) :
    shownList mode (outline :: outlines) = shown mode (some outline) ++ shownList mode outlines := by
  rw [← List.singleton_append, shownList_append]
  exact congrArg (· ++ shownList mode outlines) (shownList_toList (some outline))

@[simp] theorem shown_group (body : Option Outline) :
    shown mode (some (.group body)) = shown mode body := by
  simp [shown, nodeOption, node]

@[simp] theorem shown_map_repetition (body : Option Outline) (quantifier : Quantifier) :
    shown mode (body.map (.repetition · quantifier)) = shown mode body := by
  cases body <;> simp [shown, nodeOption, node]

@[simp] theorem shown_row (heading : Option String) (parts : List Outline) :
    shown mode (some (.row heading parts)) = mode.wrap heading (shownList mode parts) := by
  simp [shown, shownList, nodeOption, node]

@[simp] theorem shown_characterClass (items : List Outline) :
    shown mode (some (.characterClass items)) = "" := by
  simp [shown, nodeOption, node]

@[simp] theorem shown_backreference (target : Backreference) :
    shown mode (some (.backreference target)) = "" := by
  simp [shown, nodeOption, node]

end Alike

/-! ### Views -/

/-- A way of looking at outlines, each by itself and in a row. What is seen of a piece depends on
what is seen of the pieces in it. -/
structure View (β γ : Type) where
  single : Option Outline → β
  list : List Outline → γ
  group : ∀ {a b}, single a = single b → single (some (.group a)) = single (some (.group b))
  repetition : ∀ quantifier {a b}, single a = single b →
    single (a.map (.repetition · quantifier)) = single (b.map (.repetition · quantifier))
  row : ∀ heading {as bs}, list as = list bs →
    single (some (.row heading as)) = single (some (.row heading bs))
  characterClass : ∀ {as bs}, list as = list bs →
    single (some (.characterClass as)) = single (some (.characterClass bs))
  toList : ∀ {a b}, single a = single b → list a.toList = list b.toList
  append : ∀ {as bs as' bs'}, list as = list as' → list bs = list bs' →
    list (as ++ bs) = list (as' ++ bs')

namespace View

def whole : View (Option Outline) (List Outline) where
  single := id
  list := id
  group h := by simpa using h
  repetition quantifier _ _ h := congrArg (Option.map (Outline.repetition · quantifier)) h
  row heading _ _ h := by simpa using h
  characterClass h := by simpa using h
  toList h := congrArg Option.toList h
  append h h' := by simp_all

def text (mode : Mode) : View String String where
  single := shown mode
  list := shownList mode
  group h := by simpa using h
  repetition _ _ _ h := by simpa using h
  row _ _ _ h := by simp [h]
  characterClass _ := by simp
  toList h := by simpa using h
  append h h' := by simp [h, h']

section Rules

variable {β γ : Type} (view : View β γ)

theorem alike_close (heading : Option String) {parts others : List Outline}
    (h : view.list parts = view.list others) :
    Alike (view.single ∘ some) (close heading parts) (close heading others) := by
  intro account account' hremaining
  obtain ⟨hrow, hkept⟩ := run_close heading parts account
  obtain ⟨hrow', hkept'⟩ := run_close heading others account'
  rw [hrow, hrow', hkept, hkept']
  exact ⟨view.row heading h, hremaining⟩

section Single

variable {action other : Outlining (Option Outline)} (h : Alike view.single action other)

include h

theorem alike_group :
    Alike view.single (do return some (.group (← action))) (do return some (.group (← other))) :=
  h.map fun _ _ hbody => view.group hbody

theorem alike_copies (n : Nat) : Alike view.list (copies action n) (copies other n) :=
  h.copies (fun _ _ _ _ hfirst hothers => view.append (view.toList hfirst) hothers) n

theorem alike_cons {back back' : Outlining (List Outline)} (hback : Alike view.list back back') :
    Alike view.list (do return (← action).toList ++ (← back))
      (do return (← other).toList ++ (← back')) := by
  refine h.bind fun front front' hfront => ?_
  refine hback.map fun outlines outlines' houtlines => ?_
  exact view.append (view.toList hfront) houtlines

theorem alike_branch_part (heading : Option String) :
    Alike view.list (do return [← close heading (← action).toList])
      (do return [← close heading (← other).toList]) := by
  refine h.bind fun part part' hpart => ?_
  refine (view.alike_close heading (view.toList hpart)).map fun row row' hrow => ?_
  exact view.toList hrow

end Single

section List

variable {action other : Outlining (List Outline)} (h : Alike view.list action other)

include h

theorem alike_characterClass :
    Alike view.single (do return some (.characterClass (← action)))
      (do return some (.characterClass (← other))) :=
  h.map fun _ _ hitems => view.characterClass hitems

theorem alike_append {back back' : Outlining (List Outline)} (hback : Alike view.list back back') :
    Alike view.list (do return (← action) ++ (← back)) (do return (← other) ++ (← back')) := by
  refine h.bind fun front front' hfront => ?_
  exact hback.map fun outlines outlines' houtlines => view.append hfront houtlines

theorem alike_disjunction {back back' : Outlining (List Outline)}
    (hback : Alike view.list back back') :
    Alike view.single (do return some (.row none ((← action) ++ (← back))))
      (do return some (.row none ((← other) ++ (← back')))) := by
  refine h.bind fun front front' hfront => ?_
  refine hback.map fun outlines outlines' houtlines => ?_
  exact view.row none (view.append hfront houtlines)

theorem alike_alternative (heading : Option String) :
    Alike view.single (do return some (← close heading (← action)))
      (do return some (← close heading (← other))) := by
  refine h.bind fun parts parts' hparts => ?_
  exact (view.alike_close heading hparts).map fun row row' hrow => hrow

theorem alike_branch (heading : Option String) :
    Alike view.list (do return [← close heading (← action)])
      (do return [← close heading (← other)]) := by
  refine h.bind fun parts parts' hparts => ?_
  exact (view.alike_close heading hparts).map fun row row' hrow => view.toList hrow

end List

/-- Repetitions are outlined alike if their bodies are, since as many copies are granted to both. -/
theorem alike_repetition {depth depth' : Nat} {body body' : Node} (quantifier : Quantifier)
    (h : Alike view.single (ofNode (depth + 1) body) (ofNode (depth' + 1) body')) :
    Alike view.single (ofNode depth (.repetition body quantifier))
      (ofNode depth' (.repetition body' quantifier)) := by
  refine (alike_takeCopies? quantifier.count).bind_id fun granted => ?_
  cases granted with
  | some n => exact (view.alike_copies h n).map fun _ _ hcopies => view.row none hcopies
  | none => exact h.map fun _ _ hbody => view.repetition quantifier hbody

end Rules

end View

/-! ### Depths -/

/-- Rows at the one depth can be sections exactly if rows at the other can, and so it is for what is
further down. -/
def SameDepth (depth other : Nat) : Prop :=
  depth = other ∨ sectionDepth ≤ depth ∧ sectionDepth ≤ other

namespace SameDepth

variable {depth other : Nat}

theorem refl (depth : Nat) : SameDepth depth depth :=
  .inl rfl

theorem add (h : SameDepth depth other) (n : Nat) : SameDepth (depth + n) (other + n) := by
  rcases h with rfl | ⟨hdepth, hother⟩
  · exact .inl rfl
  · exact .inr ⟨Nat.le_add_right_of_le hdepth, Nat.le_add_right_of_le hother⟩

theorem le_iff (h : SameDepth depth other) : sectionDepth ≤ depth ↔ sectionDepth ≤ other := by
  rcases h with rfl | ⟨hdepth, hother⟩
  · exact Iff.rfl
  · exact iff_of_true hdepth hother

end SameDepth

mutual

/-- A node is outlined alike at depths at which the same rows can be sections. -/
theorem alike_depth_ofNode {depth other : Nat} (h : SameDepth depth other) (node : Node) :
    Alike id (ofNode depth node) (ofNode other node) := by
  match node with
  | .char _ | .backreference _ | .classRange _ _ | .assertion _ _ | .characterClass true _
  | .group (some _) _ => exact alike_pure rfl
  | .characterClass false items =>
      exact View.whole.alike_characterClass (alike_depth_ofNodes (h.add 1) items)
  | .group none body => exact View.whole.alike_group (alike_depth_ofNodeOption (h.add 1) body)
  | .repetition body quantifier =>
      exact View.whole.alike_repetition quantifier (alike_depth_ofNode (h.add 1) body)
  | .alternative parts =>
      simp only [ofNode, h.le_iff]
      exact View.whole.alike_alternative (alike_depth_ofNodes (h.add 1) parts) _
  | .disjunction left right =>
      exact View.whole.alike_disjunction (alike_depth_ofSide (h.add 2) left)
        (alike_depth_ofSide (h.add 2) right)

theorem alike_depth_ofNodeOption {depth other : Nat} (h : SameDepth depth other)
    (node : Option Node) : Alike id (ofNodeOption depth node) (ofNodeOption other node) := by
  match node with
  | none => exact alike_pure rfl
  | some node => exact alike_depth_ofNode h node

theorem alike_depth_ofNodes {depth other : Nat} (h : SameDepth depth other) (nodes : List Node) :
    Alike id (ofNodes depth nodes) (ofNodes other nodes) := by
  match nodes with
  | [] => exact alike_pure rfl
  | node :: nodes =>
      exact View.whole.alike_cons (alike_depth_ofNode h node) (alike_depth_ofNodes h nodes)

theorem alike_depth_ofSide {depth other : Nat} (h : SameDepth depth other) (side : Option Node) :
    Alike id (ofSide depth side) (ofSide other side) := by
  match side with
  | none => exact View.whole.alike_branch (alike_pure rfl) none
  | some (.disjunction left right) =>
      exact View.whole.alike_append (alike_depth_ofSide h left) (alike_depth_ofSide h right)
  | some (.alternative parts) => exact View.whole.alike_branch (alike_depth_ofNodes h parts) _
  | some (.char _) | some (.group _ _) | some (.repetition _ _) | some (.assertion _ _)
  | some (.characterClass _ _) | some (.classRange _ _) | some (.backreference _) =>
      simp only [ofSide]
      exact View.whole.alike_branch_part (alike_depth_ofNode h _) _

end

end Outline

theorem Regex.render_eq_shown (regex : Regex) (mode : Mode) :
    regex.render mode = Outline.shown mode regex.outline.1 :=
  text_eq _

end PatternTemplate
