import PatternTemplate.Proofs.Pattern.WellFormed
import PatternTemplate.Proofs.Template.Remains
import PatternTemplate.Proofs.Template.Text

/-!
# Trees that reducing leaves alone

A template written out is a tree without choices, without capturing groups and without anything that
only matches (`Node.Settled`), whatever it was made from. Reducing such a tree again can only expand
fixed repetitions. `Node.pending` counts the expansions that it would take to write out all of them,
and each expansion is taken off that number (`Outline.Remains.pending_add_le`). So nothing that
happens to a tree can make up for an expansion, and a tree is left alone exactly if it is settled
and none of its counts is granted. The first count that is not above the limit would be granted, as
nothing is spent before it (`Regex.reduce_eq_self_iff`).
-/

namespace PatternTemplate

def Quantifier.Count.fixed? : Quantifier.Count → Option Nat
  | exact n => some n
  | _ => none

theorem Quantifier.Count.fixed?_eq_none {count : Quantifier.Count} (h : ∀ n, count ≠ .exact n) :
    count.fixed? = none := by
  cases count with
  | exact n => exact absurd rfl (h n)
  | star | plus | optional | range => rfl

namespace Node

/-! ### Settled trees -/

/-- Tests for a node that can be in a template. What only matches is dropped, a choice becomes a row
and a capturing group a placeholder. -/
def isSettled : Node → Bool
  | assertion _ _ | classRange _ _ | characterClass true _ => false
  | disjunction _ _ | group (some _) _ => false
  | _ => true

def Settled (nodes : List Node) : Prop :=
  ∀ node ∈ walkList (fun _ => true) nodes, node.isSettled = true

@[simp] theorem settled_nil : Settled [] := by
  simp [Settled]

@[simp] theorem settled_append {front back : List Node} :
    Settled (front ++ back) ↔ Settled front ∧ Settled back := by
  simp [Settled, walkList_append, or_imp, forall_and]

theorem settled_cons {node : Node} {nodes : List Node} :
    Settled (node :: nodes) ↔ Settled [node] ∧ Settled nodes :=
  @settled_append [node] nodes

theorem settled_singleton {node : Node} :
    Settled [node] ↔ node.isSettled = true ∧ Settled node.children := by
  simp [Settled, walk_eq_cons _ node]

theorem strip?_of_isSettled {node : Node} (h : node.isSettled = true) :
    node.strip? = some node := by
  cases node with
  | characterClass negative items => cases negative <;> simp_all [isSettled, strip?]
  | _ => simp_all [isSettled, strip?]

theorem Settled.heading?_eq_none {parts : List Node} (h : Settled parts) :
    Outline.heading? parts = none := by
  rw [Outline.heading?_eq_none_iff]
  intro part hpart
  have hsettled := h part (mem_walkList.2 ⟨part, hpart, mem_walk_self _ part⟩)
  cases part with
  | group capture body => cases capture <;> simp_all [isSettled, capture?]
  | _ => rfl

/-! ### Fixed repetitions -/

def fixedCount? : Node → Option Nat
  | repetition _ quantifier => quantifier.count.fixed?
  | _ => none

mutual

/-- The number of expansions that it takes until no fixed repetition is left in a node, if there are
always copies left. -/
def pending : Node → Nat
  | group _ body | assertion _ body => pendingOption body
  | repetition body quantifier =>
    match quantifier.count.fixed? with
    | some n => 1 + n * pending body
    | none => pending body
  | alternative nodes | characterClass _ nodes => pendingList nodes
  | disjunction left right => pendingOption left + pendingOption right
  | char _ | classRange _ _ | backreference _ => 0

def pendingOption : Option Node → Nat
  | none => 0
  | some node => pending node

def pendingList : List Node → Nat
  | [] => 0
  | node :: nodes => pending node + pendingList nodes

end

@[simp] theorem pendingList_nil : pendingList [] = 0 := rfl

@[simp] theorem pendingList_cons (node : Node) (nodes : List Node) :
    pendingList (node :: nodes) = pending node + pendingList nodes := rfl

@[simp] theorem pendingList_append (front back : List Node) :
    pendingList (front ++ back) = pendingList front + pendingList back := by
  induction front with
  | nil => simp
  | cons node nodes ih => simp [ih, Nat.add_assoc]

theorem pendingList_replicate (n : Nat) (node : Node) :
    pendingList (List.replicate n node) = n * pending node := by
  induction n with
  | zero => simp
  | succ n ih => simp [List.replicate_succ, ih, Nat.succ_mul, Nat.add_comm]

theorem pendingList_toList (node : Option Node) :
    pendingList node.toList = pendingOption node := by
  cases node <;> rfl

theorem pendingList_branches (side : Option Node) :
    pendingList ((branches side).map .alternative) = pendingOption side := by
  fun_induction branches side with
  | case1 => rfl
  | case2 left right ihl ihr => simp [ihl, ihr, pendingOption, pending]
  | case3 parts => rfl
  | case4 node h₁ h₂ => simp [pendingOption, pending]

theorem pendingList_frame (mode : Mode) (heading : Option String) (parts : List Node) :
    pendingList (mode.frame heading parts) = pendingList parts := by
  unfold Mode.frame
  cases heading.bind mode.markers? with
  | none => rfl
  | some markers => simp [pending]

end Node

/-! ### What is expanded and what is kept -/

def Event.isExpanded : Event → Bool
  | expanded _ _ => true
  | _ => false

namespace Ledger

variable {before after : Nat} {events : List Event}

theorem copies_le (h : Ledger before events after) : ∀ event ∈ events, event.copies ≤ before := by
  have hsum := h.copiesMade_add
  clear h
  induction events generalizing before with
  | nil => simp
  | cons event events ih =>
      rw [copiesMade_cons] at hsum
      rw [List.forall_mem_cons]
      refine ⟨by omega, fun other hother => ?_⟩
      have hle := ih rfl other hother
      omega

/-- As long as nothing is expanded, what is kept has more copies than there are at first. -/
theorem lt_of_kept (h : Ledger before events after)
    (hnone : ∀ event ∈ events, event.isExpanded = false) :
    ∀ n left, .kept n left ∈ events → before < n := by
  induction h with
  | nil => simp
  | expanded => exact Bool.noConfusion (hnone _ List.mem_cons_self)
  | kept hlt _ ih =>
      intro n left hmem
      rcases List.mem_cons.1 hmem with heq | hmem
      · obtain ⟨rfl, rfl⟩ := Event.kept.inj heq
        exact hlt
      · exact ih (fun event hevent => hnone event (List.mem_cons_of_mem _ hevent)) n left hmem
  | headed _ ih =>
      intro n left hmem
      have htail := (List.mem_cons.1 hmem).resolve_left Event.noConfusion
      exact ih (fun event hevent => hnone event (List.mem_cons_of_mem _ hevent)) n left htail

end Ledger

namespace Outline

open Node

section Written

variable (mode : Mode)

mutual

theorem settled_node (outline : Outline) : Settled [outline.node mode] := by
  match outline with
  | .char c | .hole identity | .backreference target =>
      simp [settled_singleton, Outline.node, isSettled, children]
  | .group body =>
      have hbody := settled_nodeOption body
      simpa [settled_singleton, Outline.node, isSettled, children] using hbody
  | .repetition body quantifier =>
      have hbody := settled_node body
      rw [Outline.node, settled_singleton]
      exact ⟨rfl, hbody⟩
  | .row heading parts =>
      have hparts := settled_nodes parts
      -- the markers of a section are characters
      have hmarker : ∀ c, Settled [.char c] := by simp [settled_singleton, isSettled, children]
      rw [Outline.node, settled_singleton]
      refine ⟨rfl, ?_⟩
      unfold children Mode.frame
      cases heading.bind mode.markers? with
      | none => exact hparts
      | some markers =>
          exact settled_append.2 ⟨settled_cons.2 ⟨hmarker _, hparts⟩, hmarker _⟩
  | .characterClass items =>
      have hitems := settled_nodes items
      simpa [settled_singleton, Outline.node, isSettled, children] using hitems

theorem settled_nodeOption (outline : Option Outline) :
    Settled (nodeOption mode outline).toList := by
  match outline with
  | none => exact settled_nil
  | some outline => exact settled_node outline

theorem settled_nodes (outlines : List Outline) : Settled (nodes mode outlines) := by
  match outlines with
  | [] => exact settled_nil
  | outline :: outlines =>
      rw [nodes, settled_cons]
      exact ⟨settled_node outline, settled_nodes outlines⟩

end

end Written

variable {nodes : List Node} {noted : List Event} {outlines : List Outline}

/-- Each expansion is taken off what is pending. -/
theorem Remains.pending_add_le (mode : Mode) (h : Remains nodes noted outlines) :
    pendingList (Outline.nodes mode outlines) + noted.countP Event.isExpanded ≤
      pendingList nodes := by
  induction h with
  | nil => simp [Outline.nodes]
  | append _ _ ihfront ihback =>
      rw [nodes_append, pendingList_append, pendingList_append, List.countP_append]
      omega
  | char | backreference | nothing | hole => simp [Outline.nodes, Outline.node, pending]
  | characterClass _ ih => simpa [Outline.nodes, Outline.node, pending] using ih
  | group _ ih =>
      rw [nodes_toList, pendingList_toList, pendingList_toList] at ih
      simpa [Outline.nodes, Outline.node, pending] using ih
  | @expanded body quantifier n left noted outlines hcount _ ih =>
      rw [pendingList_replicate] at ih
      simp only [Outline.nodes, Outline.node, pendingList_cons, pendingList_nil, pending, hcount,
        Quantifier.Count.fixed?, Mode.frame_none, List.countP_cons, Event.isExpanded, if_true]
      omega
  | @kept body quantifier n left noted outline hcount hlt _ ih =>
      have hfixed : quantifier.count.fixed? = some n := by rw [hcount, Quantifier.Count.fixed?]
      -- what is kept has a body or is nothing
      have hkept : pendingList ((Outline.nodes mode outline.toList).map (.repetition · quantifier)) ≤
          1 + n * pendingList (Outline.nodes mode outline.toList) := by
        cases outline with
        | none => exact Nat.zero_le _
        | some outline => simp [Outline.nodes, pending, hfixed]
      -- a repetition of no times is never kept, so what is taken off its body counts at least once
      have hbody := Nat.mul_le_mul_left n ih
      have hevents := Nat.le_mul_of_pos_left (noted.countP Event.isExpanded) (Nat.zero_lt_of_lt hlt)
      rw [nodes_map_repetition]
      simp [pending, hfixed, Event.isExpanded, Nat.mul_add] at hbody ⊢
      omega
  | @unfixed body quantifier noted outline hcount _ ih =>
      have hfixed := Quantifier.Count.fixed?_eq_none hcount
      rw [nodes_map_repetition]
      cases outline with
      | none => simpa [Outline.nodes, pending, hfixed] using ih
      | some outline => simpa [Outline.nodes, pending, hfixed] using ih
  | row _ ih => simpa [Outline.nodes, Outline.node, pending, pendingList_frame] using ih
  | headed _ _ ih =>
      simpa [Outline.nodes, Outline.node, pending, pendingList_frame, Event.isExpanded] using ih
  | disjunction _ ih =>
      simpa [Outline.nodes, Outline.node, pending, pendingList_branches] using ih

/-- Where no fixed repetition of settled nodes is expanded, what remains is written out as these
nodes, and each fixed repetition is kept. -/
theorem Remains.nodes_eq_of_settled (mode : Mode) (h : Remains nodes noted outlines)
    (hsettled : Settled nodes)
    (hnone : ∀ n ∈ gatherList fixedCount? nodes, ∀ left, .expanded n left ∉ noted) :
    Outline.nodes mode outlines = nodes ∧
      ∀ n ∈ gatherList fixedCount? nodes, ∃ left, .kept n left ∈ noted := by
  induction h with
  | nil => simp [Outline.nodes]
  | @append front back noted others outlines more _ _ ihfront ihback =>
      rw [settled_append] at hsettled
      rw [gatherList_append] at hnone ⊢
      obtain ⟨hfront, hkept⟩ := ihfront hsettled.1 fun n hn left hmem =>
        hnone n (List.mem_append_left _ hn) left (List.mem_append_left _ hmem)
      obtain ⟨hback, hkept'⟩ := ihback hsettled.2 fun n hn left hmem =>
        hnone n (List.mem_append_right _ hn) left (List.mem_append_right _ hmem)
      refine ⟨by rw [nodes_append, hfront, hback], fun n hn => ?_⟩
      rcases List.mem_append.1 hn with hn | hn
      · exact (hkept n hn).imp fun left => List.mem_append_left _
      · exact (hkept' n hn).imp fun left => List.mem_append_right _
  | char | backreference => simp [Outline.nodes, Outline.node, fixedCount?]
  | nothing hstrip =>
      -- what is settled is not dropped
      have hroot := strip?_of_isSettled (settled_singleton.1 hsettled).1
      simp [hstrip] at hroot
  | characterClass _ ih | row _ ih =>
      rw [gatherList_singleton] at hnone ⊢
      obtain ⟨heq, hkept⟩ := ih (settled_singleton.1 hsettled).2 hnone
      exact ⟨by simp [Outline.nodes, Outline.node, heq], hkept⟩
  | @group body _ outline _ ih =>
      rw [gatherList_singleton] at hnone ⊢
      obtain ⟨heq, hkept⟩ := ih (settled_singleton.1 hsettled).2 hnone
      have hbody : nodeOption mode outline = body := nodeOption_eq_of_nodes heq
      exact ⟨by simp [Outline.nodes, Outline.node, hbody], hkept⟩
  | @expanded body quantifier n left noted outlines hcount _ ih =>
      refine absurd List.mem_cons_self (hnone n ?_ left)
      simp [fixedCount?, hcount, Quantifier.Count.fixed?]
  | @kept body quantifier n left noted outline hcount hlt _ ih =>
      rw [gatherList_singleton, fixedCount?, hcount, Quantifier.Count.fixed?] at hnone ⊢
      obtain ⟨heq, hkept⟩ := ih (settled_singleton.1 hsettled).2 fun m hm other hmem =>
        hnone m (List.mem_append_right _ hm) other (List.mem_cons_of_mem _ hmem)
      refine ⟨by rw [nodes_map_repetition, heq, List.map_singleton], fun m hm => ?_⟩
      rcases List.mem_cons.1 hm with rfl | hm
      · exact ⟨left, List.mem_cons_self⟩
      · exact (hkept m hm).imp fun other => List.mem_cons_of_mem _
  | @unfixed body quantifier noted outline hcount _ ih =>
      rw [gatherList_singleton, fixedCount?, Quantifier.Count.fixed?_eq_none hcount] at hnone ⊢
      obtain ⟨heq, hkept⟩ := ih (settled_singleton.1 hsettled).2 hnone
      exact ⟨by rw [nodes_map_repetition, heq, List.map_singleton], hkept⟩
  | headed hheading _ ih =>
      have hparts : Settled _ := (settled_singleton.1 hsettled).2
      -- a row of settled parts has no heading
      have hnot := hparts.heading?_eq_none
      simp [children, hheading] at hnot
  | hole | disjunction => exact Bool.noConfusion (settled_singleton.1 hsettled).1

end Outline

namespace Regex

theorem settled_reduce (mode : Mode) (regex : Regex) :
    Node.Settled (regex.reduce mode).body.toList := by
  have hsettled := Outline.settled_nodes mode regex.outline.1.toList
  rwa [Outline.nodes_toList] at hsettled

theorem pending_reduce_add_le (mode : Mode) (regex : Regex) :
    Node.pendingOption (regex.reduce mode).body +
        regex.outline.2.events.toList.countP Event.isExpanded ≤
      Node.pendingOption regex.body := by
  have hle := regex.remains_outline.1.pending_add_le mode
  rwa [Outline.nodes_toList, Node.pendingList_toList, Node.pendingList_toList] at hle

theorem reduce_eq_self_of_settled (mode : Mode) {regex : Regex}
    (hsettled : Node.Settled regex.body.toList)
    (hnone : ∀ n ∈ Node.gatherOption Node.fixedCount? regex.body, ∀ left,
      .expanded n left ∉ regex.outline.2.events.toList) :
    regex.reduce mode = regex ∧
      ∀ n ∈ Node.gatherOption Node.fixedCount? regex.body, ∃ left,
        .kept n left ∈ regex.outline.2.events.toList := by
  rw [← Node.gatherList_toList] at hnone ⊢
  obtain ⟨hnodes, hkept⟩ := regex.remains_outline.1.nodes_eq_of_settled mode hsettled hnone
  refine ⟨?_, hkept⟩
  rw [reduce, Outline.nodeOption_eq_of_nodes hnodes]

/-- Reducing leaves a regular expression alone if and only if it is settled and has no fixed
repetition that could be expanded. -/
theorem reduce_eq_self_iff (mode : Mode) (regex : Regex) :
    regex.reduce mode = regex ↔
      Node.Settled regex.body.toList ∧
        ∀ n ∈ Node.gatherOption Node.fixedCount? regex.body, copyLimit < n := by
  have hledger := regex.remains_outline.2
  constructor
  · intro h
    have hsettled : Node.Settled regex.body.toList := h ▸ regex.settled_reduce mode
    -- an expansion would have been taken off what is pending, and this is as much as before
    have hnone : ∀ event ∈ regex.outline.2.events.toList, event.isExpanded = false := by
      have hle := regex.pending_reduce_add_le mode
      rw [h] at hle
      simpa using List.countP_eq_zero.1 (Nat.le_zero.1 (Nat.add_le_add_iff_left.1 hle))
    obtain ⟨-, hkept⟩ := reduce_eq_self_of_settled mode hsettled fun n _ left hmem =>
      Bool.noConfusion (hnone _ hmem)
    refine ⟨hsettled, fun n hn => ?_⟩
    obtain ⟨left, hmem⟩ := hkept n hn
    exact hledger.lt_of_kept hnone n left hmem
  · rintro ⟨hsettled, hcounts⟩
    obtain ⟨heq, -⟩ := reduce_eq_self_of_settled mode hsettled fun n hn left hmem =>
      absurd (hledger.copies_le _ hmem) (Nat.not_le_of_lt (hcounts n hn))
    exact heq

/-- Whatever is reduced, there is no choice, no capturing group and nothing that only matches in what
is left. A regular expression is left alone exactly if that holds of it already and it has only fixed
repetitions above the limit. So reducing a second time changes nothing exactly if the first time
leaves no other fixed repetition, and there is never anything left to strip. -/
theorem reduce_settles (mode : Mode) (regex : Regex) :
    (∀ node ∈ Node.walkOption (fun _ => true) (regex.reduce mode).body, node.isSettled = true) ∧
      (regex.reduce mode = regex ↔
        (∀ node ∈ Node.walkOption (fun _ => true) regex.body, node.isSettled = true) ∧
          ∀ n ∈ Node.gatherOption Node.fixedCount? regex.body, copyLimit < n) ∧
      (∀ other, (regex.reduce mode).reduce other = regex.reduce mode ↔
        ∀ n ∈ Node.gatherOption Node.fixedCount? (regex.reduce mode).body, copyLimit < n) ∧
      (regex.reduce mode).strip = regex.reduce mode := by
  have hsettled := regex.settled_reduce mode
  refine ⟨?_, ?_, ?_, ?_⟩
  · rwa [Node.Settled, Node.walkList_toList] at hsettled
  · rw [← Node.walkList_toList]
    exact regex.reduce_eq_self_iff mode
  · intro other
    rw [reduce_eq_self_iff]
    exact and_iff_right hsettled
  · have hstrip : (regex.reduce mode).body.bind Node.strip? = (regex.reduce mode).body := by
      cases hbody : (regex.reduce mode).body with
      | none => rfl
      | some node =>
          rw [hbody] at hsettled
          exact Node.strip?_of_isSettled (Node.settled_singleton.1 hsettled).1
    rw [strip, hstrip]

/-- A group that is repeated too often to be expanded, and a character that is not. -/
def stutter : Regex where
  body := some <| .alternative [
    .repetition (.group (some ⟨1, some "word"⟩) none) ⟨.exact (copyLimit + 1), true⟩,
    .repetition (.char (.simple '!')) ⟨.exact 2, true⟩]
  flags := {}
  captures := 1

theorem reduce_settles_stutter :
    stutter.reduce .plain ≠ stutter ∧
      (stutter.reduce .plain).reduce .mustache = stutter.reduce .plain := by
  obtain ⟨-, hself, hagain, -⟩ := Regex.reduce_settles .plain stutter
  refine ⟨fun h => ?_, (hagain .mustache).2 ?_⟩
  · have hgroup := (hself.1 h).1 (.group (some ⟨1, some "word"⟩) none)
      (by simp [stutter, Node.walk])
    exact Bool.noConfusion hgroup
  · have hcounts : Node.gatherOption Node.fixedCount? (stutter.reduce .plain).body =
        [copyLimit + 1] := rfl
    rw [hcounts]
    simp

end Regex

end PatternTemplate
