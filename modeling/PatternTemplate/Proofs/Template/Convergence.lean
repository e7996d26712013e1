import Mathlib.Logic.Function.Iterate
import PatternTemplate.Proofs.Template.Denotation
import PatternTemplate.Proofs.Template.Settled

/-!
# Reducing again and again

What one reduction keeps for lack of copies, a later one may expand, since each starts with a fresh
account. A reduction that changes a settled tree expands something, so less is pending afterwards,
and after finitely many steps nothing changes any more. What the tree shows then can be said in
advance. Each step leaves it as it is what a tree denotes if every repetition is written as often as
it will be in the end (`Node.timed`): sections and placeholders are put in by the first step, and
the later ones copy them together with what they copy. No step can expand a repetition beyond the
limit, so this is once for such a repetition, and the count for every other fixed one
(`Regex.exists_iterate_reduce`).
-/

namespace PatternTemplate

/-- How often a repetition is written in the end: as often as its count says, if it has a fixed one
and so many copies can be made, and else once. -/
def Quantifier.Count.times : Quantifier.Count → Nat
  | exact n => if n ≤ copyLimit then n else 1
  | _ => 1

theorem Quantifier.Count.times_eq_one {count : Quantifier.Count}
    (h : ∀ n, count.fixed? = some n → copyLimit < n) : count.times = 1 := by
  cases count with
  | exact n => exact if_neg (Nat.not_le_of_lt (h n rfl))
  | star | plus | optional | range => rfl

namespace Node

mutual

/-- The tree with the number of times that a repetition is written in the end as its count. -/
def timed : Node → Node
  | char c => .char c
  | group capture body => .group capture (timedOption body)
  | repetition body quantifier =>
    .repetition (timed body) { quantifier with count := .exact quantifier.count.times }
  | alternative parts => .alternative (timedList parts)
  | disjunction left right => .disjunction (timedOption left) (timedOption right)
  | assertion kind body => .assertion kind (timedOption body)
  | characterClass negative items => .characterClass negative (timedList items)
  | classRange low high => .classRange low high
  | backreference target => .backreference target

def timedOption : Option Node → Option Node
  | none => none
  | some node => some (timed node)

def timedList : List Node → List Node
  | [] => []
  | node :: nodes => timed node :: timedList nodes

end

theorem timedList_eq_map (nodes : List Node) : timedList nodes = nodes.map timed := by
  induction nodes with
  | nil => rfl
  | cons node nodes ih => simp [timedList, ih]

theorem heading?_timedList (parts : List Node) :
    Outline.heading? (timedList parts) = Outline.heading? parts := by
  rw [timedList_eq_map]
  refine Outline.heading?_map (fun node => ?_) parts
  cases node <;> rfl

theorem timedList_frame (mode : Mode) (heading : Option String) (parts : List Node) :
    timedList (mode.frame heading parts) = mode.frame heading (timedList parts) := by
  unfold Mode.frame
  cases heading.bind mode.markers? <;> simp [timedList_eq_map, timed]

theorem denoteList_frame (mode : Mode) (depth : Nat) (heading : Option String)
    (parts : List Node) :
    denoteList mode depth (mode.frame heading parts) =
      mode.wrap heading (denoteList mode depth parts) := by
  unfold Mode.frame Mode.wrap
  cases heading.bind mode.markers? with
  | none => rfl
  | some markers =>
      simp [denoteList, denoteList_append, denote, Character.placeholder, String.append_assoc]

end Node

namespace Outline

open Node

/-- What outlines that are written out in a mode show in the end, at a depth. -/
def promise (mode : Mode) (depth : Nat) (outlines : List Outline) : String :=
  denoteList mode depth (timedList (nodes mode outlines))

section Promise

variable {mode : Mode} {depth : Nat}

@[simp] theorem promise_nil : promise mode depth [] = "" := by
  simp [promise, nodes, timedList, denoteList]

@[simp] theorem promise_append (front back : List Outline) :
    promise mode depth (front ++ back) = promise mode depth front ++ promise mode depth back := by
  simp [promise, timedList_eq_map, denoteList_append]

theorem promise_cons (outline : Outline) (outlines : List Outline) :
    promise mode depth (outline :: outlines) =
      promise mode depth [outline] ++ promise mode depth outlines :=
  promise_append [outline] outlines

theorem promise_singleton (outline : Outline) :
    promise mode depth [outline] = (outline.node mode).timed.denote mode depth := by
  simp [promise, nodes, timedList, denoteList]

theorem promise_toList (outline : Option Outline) :
    promise mode depth outline.toList =
      denoteOption mode depth (timedOption (nodeOption mode outline)) := by
  cases outline with
  | none => exact promise_nil
  | some outline => exact promise_singleton outline

@[simp] theorem promise_row (heading : Option String) (parts : List Outline) :
    promise mode depth [.row heading parts] = mode.wrap heading (promise mode (depth + 1) parts) := by
  have hsettled : Settled (mode.frame heading (nodes mode parts)) :=
    (settled_singleton.1 (settled_node mode (.row heading parts))).2
  rw [promise_singleton, Outline.node, timed, denote, heading?_timedList,
    hsettled.heading?_eq_none, ite_self, Mode.wrap_none, timedList_frame, denoteList_frame, promise]

@[simp] theorem promise_group (body : Option Outline) :
    promise mode depth [.group body] = promise mode (depth + 1) body.toList := by
  rw [promise_singleton, Outline.node, timed, denote]
  cases body with
  | none => simp [nodeOption, timedOption, denoteOption]
  | some body => simp [nodeOption, timedOption, denoteOption, promise_singleton]

@[simp] theorem promise_repetition (outline : Option Outline) (quantifier : Quantifier) :
    promise mode depth (outline.map (.repetition · quantifier)).toList =
      String.join (List.replicate quantifier.count.times
        (promise mode (depth + 1) outline.toList)) := by
  cases outline with
  | none =>
      have hempty : ∀ n : Nat, String.join (List.replicate n "") = "" := by
        intro n
        induction n with
        | zero => rfl
        | succ n ih => simp [List.replicate_succ, ih]
      simp [hempty]
  | some outline => simp [promise_singleton, Outline.node, timed, denote]

@[simp] theorem promise_characterClass (items : List Outline) :
    promise mode depth [.characterClass items] = "" := by
  simp [promise_singleton, Outline.node, timed, denote]

end Promise

/-- If never more copies are made at once than there may be, the outlines show the text in the end,
and the depth no longer matters. -/
def Promises (mode : Mode) (text : String) (noted : List Event) (outlines : List Outline) : Prop :=
  (∀ event ∈ noted, event.copies ≤ copyLimit) → ∀ depth, promise mode depth outlines = text

section Promises

open Outlining

variable {mode : Mode} {text more : String} {noted others : List Event}
  {outlines others' : List Outline}

theorem Promises.append (hfront : Promises mode text noted outlines)
    (hback : Promises mode more others others') :
    Promises mode (text ++ more) (noted ++ others) (outlines ++ others') := by
  intro hle depth
  rw [List.forall_mem_append] at hle
  rw [promise_append, hfront hle.1, hback hle.2]

theorem promises_close {heading : Option String} (h : Promises mode text noted outlines) :
    Records (close heading outlines) fun others row =>
      Promises mode (mode.wrap heading text) (noted ++ others) [row] := by
  cases heading with
  | none =>
      refine records_pure fun hle depth => ?_
      rw [List.append_nil] at hle
      rw [promise_row, h hle]
  | some identity =>
      refine (records_headed identity).map ?_
      rintro _ _ rfl hle depth
      rw [List.forall_mem_append] at hle
      rw [promise_row, h hle.1]

theorem promises_copies {action : Outlining (Option Outline)} (n : Nat)
    (h : Records action fun noted outline => Promises mode text noted outline.toList) :
    Records (copies action n)
      (Promises mode (String.join (List.replicate n text))) := by
  induction n with
  | zero => exact records_pure fun _ _ => promise_nil
  | succ n ih =>
      rw [copies_succ, List.replicate_succ, String.join_cons]
      refine h.bind fun noted first hfirst => ih.map fun others more hmore => ?_
      exact hfirst.append hmore

mutual

/-- Whatever is expanded and whatever is kept, outlining a node leaves what the node shows in the
end. -/
theorem promises_ofNode (mode : Mode) (depth : Nat) (node : Node) :
    Records (ofNode depth node) fun noted outline =>
      Promises mode (node.timed.denote mode depth) noted outline.toList := by
  match node with
  | .char c => exact records_pure fun _ _ => promise_singleton _
  | .backreference target => exact records_pure fun _ _ => promise_singleton _
  | .classRange low high => exact records_pure fun _ _ => promise_nil
  | .assertion kind body => exact records_pure fun _ _ => promise_nil
  | .characterClass true items => exact records_pure fun _ _ => promise_nil
  | .characterClass false items =>
      refine (promises_ofNodes mode (depth + 1) items).map fun noted outlines _ _ _ => ?_
      exact promise_characterClass outlines
  | .group (some capture) body => exact records_pure fun _ _ => promise_singleton _
  | .group none body =>
      refine (promises_ofNodeOption mode (depth + 1) body).map fun noted outline h hle other => ?_
      exact (promise_group outline).trans (h hle (other + 1))
  | .repetition body quantifier =>
      have hbody := promises_ofNode mode (depth + 1) body
      -- what is kept is written once now and may be expanded later
      have hrepeat : ∀ (noted : List Event) (outline : Option Outline),
          Promises mode (body.timed.denote mode (depth + 1)) noted outline.toList →
            Promises mode ((Node.repetition body quantifier).timed.denote mode depth) noted
              (outline.map (.repetition · quantifier)).toList := by
        intro noted outline h hle other
        rw [promise_repetition, h hle]
        rfl
      cases hcount : quantifier.count with
      | exact n =>
          rw [ofNode, hcount]
          refine records_takeCopies? (fun left => ?_) fun left hlt => ?_
          · refine (promises_copies n hbody).map fun noted outlines h hle other => ?_
            rw [List.forall_mem_cons] at hle
            -- copies that were made are within the limit, so the count is the one that is promised
            have hgranted : n ≤ copyLimit := hle.1
            have htimes : quantifier.count.times = n := by
              rw [hcount, Quantifier.Count.times, if_pos hgranted]
            rw [Option.toList_some, promise_row, Mode.wrap_none, h hle.2, timed, denote, htimes]
          · exact hbody.map fun noted outline h hle =>
              hrepeat noted outline h (List.forall_mem_cons.1 hle).2
      | star | plus | optional | range =>
          have hnot : ∀ n, quantifier.count ≠ .exact n := by simp [hcount]
          rw [ofNode, takeCopies?_of_not_exact hnot, pure_bind]
          exact hbody.map hrepeat
  | .alternative parts =>
      rw [timed, denote, heading?_timedList]
      refine (promises_ofNodes mode (depth + 1) parts).bind fun noted outlines h => ?_
      exact (promises_close h).map fun others row hrow => hrow
  | .disjunction left right =>
      refine (promises_ofSide mode (depth + 2) left).bind fun noted front hfront => ?_
      refine (promises_ofSide mode (depth + 2) right).map fun others back hback hle other => ?_
      exact (promise_row none _).trans (hfront.append hback hle (other + 1))

theorem promises_ofNodeOption (mode : Mode) (depth : Nat) (node : Option Node) :
    Records (ofNodeOption depth node) fun noted outline =>
      Promises mode (denoteOption mode depth (timedOption node)) noted outline.toList := by
  match node with
  | none => exact records_pure fun _ _ => promise_nil
  | some node => exact promises_ofNode mode depth node

theorem promises_ofNodes (mode : Mode) (depth : Nat) (nodes : List Node) :
    Records (ofNodes depth nodes) (Promises mode (denoteList mode depth (timedList nodes))) := by
  match nodes with
  | [] => exact records_pure fun _ _ => promise_nil
  | node :: nodes =>
      refine (promises_ofNode mode depth node).bind fun noted front hfront => ?_
      exact (promises_ofNodes mode depth nodes).map fun others back hback => hfront.append hback

theorem promises_ofSide (mode : Mode) (depth : Nat) (side : Option Node) :
    Records (ofSide depth side)
      (Promises mode (denoteSide mode depth (timedOption side))) := by
  match side with
  | none =>
      have hnil : Promises mode "" [] [] := fun _ _ => promise_nil
      exact (promises_close hnil).map fun noted row h => h
  | some (.disjunction left right) =>
      refine (promises_ofSide mode depth left).bind fun noted front hfront => ?_
      exact (promises_ofSide mode depth right).map fun others back hback => hfront.append hback
  | some (.alternative parts) =>
      rw [timedOption, timed, denoteSide, heading?_timedList]
      refine (promises_ofNodes mode depth parts).bind fun noted outlines h => ?_
      exact (promises_close h).map fun others row hrow => hrow
  | some (.char _) | some (.group _ _) | some (.repetition _ _) | some (.assertion _ _)
  | some (.characterClass _ _) | some (.classRange _ _) | some (.backreference _) =>
      simp only [ofSide, timedOption]
      refine (promises_ofNode mode depth _).bind fun noted outline h => ?_
      exact (promises_close h).map fun others row hrow => hrow

end

end Promises

section Written

variable (mode : Mode)

theorem fixedCounts_frame (heading : Option String) (parts : List Node) :
    gatherList fixedCount? (mode.frame heading parts) = gatherList fixedCount? parts := by
  unfold Mode.frame
  cases heading.bind mode.markers? <;> simp [fixedCount?]

mutual

/-- Where all fixed repetitions are beyond the limit, what is shown in the end is shown already. -/
theorem text_node (depth : Nat) (outline : Outline)
    (h : ∀ n ∈ gatherList fixedCount? [outline.node mode], copyLimit < n) :
    (outline.node mode).text = promise mode depth [outline] := by
  rw [gatherList_singleton] at h
  match outline with
  | .char c | .hole identity | .backreference target | .characterClass items =>
      simp [Outline.node, promise_singleton, timed, denote, Character.placeholder]
  | .group none => simp [Outline.node, nodeOption]
  | .group (some body) =>
      have hbody := text_node (depth + 1) body h
      rw [Outline.node, text_group, nodeOption, textOption_some, hbody, promise_group,
        Option.toList_some]
  | .repetition body quantifier =>
      rw [List.forall_mem_append] at h
      have hbody := text_node (depth + 1) body h.2
      -- a fixed count that is left is beyond the limit, and all others count once
      have htimes : quantifier.count.times = 1 :=
        Quantifier.Count.times_eq_one fun n hn => h.1 n (Option.mem_toList.2 hn)
      have hpromise := @promise_repetition mode depth (some body) quantifier
      rw [htimes] at hpromise
      simpa [Outline.node, hbody] using hpromise.symm
  | .row heading parts =>
      simp only [Outline.node, fixedCount?, children, fixedCounts_frame] at h
      have hparts := textList_nodes (depth + 1) parts h
      rw [Outline.node, text_alternative, Mode.textList_frame, hparts, promise_row]

theorem textList_nodes (depth : Nat) (outlines : List Outline)
    (h : ∀ n ∈ gatherList fixedCount? (nodes mode outlines), copyLimit < n) :
    textList (nodes mode outlines) = promise mode depth outlines := by
  match outlines with
  | [] => simp [nodes]
  | outline :: outlines =>
      rw [nodes, gatherList_cons, List.forall_mem_append] at h
      have hfirst := text_node depth outline (by simpa using h.1)
      rw [nodes, textList_cons, hfirst, textList_nodes depth outlines h.2, ← promise_cons]

end

end Written

end Outline

namespace Regex

variable (mode : Mode)

/-- A reduction that changes a settled regular expression expands something in it, so less is
pending. -/
theorem pending_reduce_lt {regex : Regex} (hsettled : Node.Settled regex.body.toList)
    (hne : regex.reduce mode ≠ regex) :
    Node.pendingOption (regex.reduce mode).body < Node.pendingOption regex.body := by
  have hle := regex.pending_reduce_add_le mode
  have hpos : 0 < regex.outline.2.events.toList.countP Event.isExpanded := by
    by_contra hzero
    have hnone := List.countP_eq_zero.1 (Nat.eq_zero_of_not_pos hzero)
    exact hne (reduce_eq_self_of_settled mode hsettled fun n _ left hmem => hnone _ hmem rfl).1
  omega

theorem exists_iterate_reduce_of_settled {regex : Regex}
    (hsettled : Node.Settled regex.body.toList) :
    ∃ steps, ((reduce mode)^[steps] regex).reduce mode = (reduce mode)^[steps] regex := by
  induction hrank : Node.pendingOption regex.body using Nat.strong_induction_on
    generalizing regex with
  | _ rank ih =>
      by_cases hself : regex.reduce mode = regex
      · exact ⟨0, hself⟩
      · have hlt := pending_reduce_lt mode hsettled hself
        rw [hrank] at hlt
        obtain ⟨steps, hsteps⟩ := ih _ hlt (regex.settled_reduce mode) rfl
        exact ⟨steps + 1, hsteps⟩

theorem promise_outline (depth : Nat) (regex : Regex) :
    Outline.promise mode depth regex.outline.1.toList =
      Node.denoteOption mode 1 (Node.timedOption regex.body) := by
  obtain ⟨noted, -, hledger, hpromises⟩ := Outline.promises_ofNodeOption mode 1 regex.body {}
  exact hpromises hledger.copies_le depth

theorem denoteOption_iterate_reduce (steps : Nat) (regex : Regex) :
    Node.denoteOption mode 1 (Node.timedOption ((reduce mode)^[steps] regex).body) =
      Node.denoteOption mode 1 (Node.timedOption regex.body) := by
  induction steps generalizing regex with
  | zero => rfl
  | succ steps ih =>
      rw [Function.iterate_succ_apply, ih, ← promise_outline mode 1 regex, Outline.promise_toList]
      rfl

theorem text_of_reduce_eq_self {regex : Regex} (h : regex.reduce mode = regex) :
    regex.text = Node.denoteOption mode 1 (Node.timedOption regex.body) := by
  obtain ⟨-, hcounts⟩ := (reduce_eq_self_iff mode regex).1 h
  have hbody : Outline.nodes mode regex.outline.1.toList = regex.body.toList := by
    rw [Outline.nodes_toList]
    exact congrArg (fun regex => regex.body.toList) h
  rw [← Node.gatherList_toList, ← hbody] at hcounts
  rw [Regex.text_eq, ← promise_outline mode 1 regex, ← Outline.textList_nodes mode 1 _ hcounts,
    hbody]
  cases regex.body <;> simp

/-- Reducing again and again comes to an end. The regular expression that is then left alone has the
text that the nodes of the pattern denote, where each repetition counts as often as it is written in
the end. -/
theorem exists_iterate_reduce (regex : Regex) :
    ∃ steps, ((reduce mode)^[steps] regex).reduce mode = (reduce mode)^[steps] regex ∧
      ((reduce mode)^[steps] regex).text =
        Node.denoteOption mode 1 (Node.timedOption regex.body) := by
  obtain ⟨steps, hsteps⟩ := exists_iterate_reduce_of_settled mode (regex.settled_reduce mode)
  refine ⟨steps + 1, hsteps, ?_⟩
  rw [← denoteOption_iterate_reduce mode (steps + 1) regex]
  exact text_of_reduce_eq_self mode hsteps

end Regex

end PatternTemplate
