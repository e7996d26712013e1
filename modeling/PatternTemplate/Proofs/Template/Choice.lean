import PatternTemplate.Proofs.Template.Frame

/-!
# A choice and its row

There are two ways to have a choice as a row of rows: stripping makes one of it before anything is
outlined, and outlining makes one on the way. The branches lie one level deeper in the row that
stripping makes, and outlining gives them headings because of their depth and not because they are
branches. Below the body of a pattern both come to the same, since all depths there are such that
rows can be sections: a choice may be replaced by its row anywhere (`Node.fill`), and neither the
text nor the copies that are left change. The branches of a choice that is the body have headings
only if they are outlined as branches, so there the results differ by the markers of these headings
(`Regex.strip_agrees`).
-/

namespace PatternTemplate

namespace Outline

open Outlining

theorem heading?_map_alternative (rows : List (List Node)) :
    heading? (rows.map .alternative) = none := by
  rw [heading?_eq_none_iff]
  intro part hpart
  obtain ⟨parts, -, rfl⟩ := List.mem_map.1 hpart
  rfl

/-! ### Branches as rows -/

theorem ofNodes_map_alternative (depth : Nat) (rows : List (List Node)) :
    ofNodes depth (rows.map .alternative) =
      rows.mapM fun parts => ofNodes (depth + 1) parts >>=
        close (if sectionDepth ≤ depth then heading? parts else none) := by
  induction rows with
  | nil => rfl
  | cons parts rows ih => simp [ofNodes, ofNode, ih]

/-- The branches of a side and the rows made of them are outlined alike, where rows can be
sections. -/
theorem alike_ofSide_branches {β γ : Type} (view : View β γ) {depth other : Nat}
    (hdepth : sectionDepth ≤ depth) (hother : sectionDepth ≤ other) (side : Option Node) :
    Alike view.list (ofSide depth side)
      (ofNodes other ((Node.branches side).map .alternative)) := by
  simp only [ofSide_eq_mapM, ofNodes_map_alternative, if_pos hother]
  induction Node.branches side with
  | nil => exact alike_pure rfl
  | cons parts rows ih =>
      have hparts := alike_depth_ofNodes (.inr ⟨hdepth, Nat.le_succ_of_le hother⟩) parts
      simp only [List.mapM_cons, bind_assoc]
      refine (hparts.of_id view.list).bind fun outlines outlines' hshown => ?_
      refine (view.alike_close (heading? parts) hshown).bind fun row row' hrow => ?_
      exact ih.map fun others others' hothers => view.append (view.toList hrow) hothers

theorem ofNode_disjunction (depth : Nat) (left right : Option Node) :
    ofNode depth (.disjunction left right) = do
      return some (.row none (← ofSide (depth + 2) (some (.disjunction left right)))) := rfl

theorem ofNode_alternative_map_alternative (depth : Nat) (rows : List (List Node)) :
    ofNode depth (.alternative (rows.map .alternative)) = do
      return some (.row none (← ofNodes (depth + 1) (rows.map .alternative))) := by
  simp [ofNode, heading?_map_alternative, close]

theorem ofSide_alternative_map_alternative (depth : Nat) (rows : List (List Node)) :
    ofSide depth (some (.alternative (rows.map .alternative))) = do
      return [.row none (← ofNodes depth (rows.map .alternative))] := by
  simp [ofSide, heading?_map_alternative, close]

theorem interchangeable_strip? {left right : Option Node} {row : Node}
    (h : (Node.disjunction left right).strip? = some row) (mode : Mode) :
    Interchangeable (.text mode) sectionDepth (.disjunction left right) row := by
  obtain rfl : .alternative
      ((Node.branches (some (.disjunction left right))).map .alternative) = row := by
    simpa [Node.strip?, Node.branches] using h
  constructor
  case capture? => rfl
  case inside =>
    intro depth hdepth
    rw [ofNode_disjunction, ofNode_alternative_map_alternative]
    have hrows := alike_ofSide_branches (.text mode) (Nat.le_succ_of_le hdepth) hdepth
      (some (.disjunction left right))
    exact hrows.map fun outlines outlines' hshown => (View.text mode).row none hshown
  case side =>
    intro depth hdepth
    rw [ofSide_alternative_map_alternative, ← bind_pure (ofSide depth _)]
    -- the choice leaves its rows as they are here, its row leaves them in a row of their own
    have hrows := alike_ofSide_branches (.text mode) hdepth hdepth
      (some (.disjunction left right))
    refine hrows.map fun outlines outlines' hshown => ?_
    simpa [View.text] using hshown

/-! ### A choice that is the body -/

/-- Branches that get their headings, and the same branches without them, leave rows that are the
same but for the headings. -/
theorem exists_outlines_branches (depth : Nat) (branches : List (List Node))
    {account account' : Account} (h : account.remaining = account'.remaining) :
    ∃ rows : List (List Outline), rows.length = branches.length ∧
      ((branches.mapM fun parts => ofNodes depth parts >>= close (heading? parts)).run
        account).1 = List.zipWith (fun parts row => .row (heading? parts) row) branches rows ∧
      ((branches.mapM fun parts => ofNodes depth parts >>= close none).run account').1 =
        rows.map (.row none) := by
  induction branches generalizing account account' with
  | nil => exact ⟨[], rfl, rfl, rfl⟩
  | cons parts branches ih =>
      -- what was noted for the branches before may differ, the copies that are left do not
      obtain ⟨hsame, hleft⟩ := alike_depth_ofNodes (.refl depth) parts account account' h
      simp only [id_eq] at hsame
      generalize hrun : (ofNodes depth parts).run account = first at hsame hleft
      generalize hrun' : (ofNodes depth parts).run account' = first' at hsame hleft
      obtain ⟨hrow, hkept⟩ := run_close (heading? parts) first.1 first.2
      obtain ⟨rows, hlength, hheaded, hbare⟩ := ih (hkept.trans hleft)
      refine ⟨first.1 :: rows, ?_, ?_, ?_⟩
      · rw [List.length_cons, List.length_cons, hlength]
      · simp only [List.mapM_cons, run_bind, run_pure, hrun, hrow, hheaded, List.zipWith_cons_cons]
      · simp only [List.mapM_cons, run_bind, run_pure, hrun', close, hbare, List.map_cons, hsame]

end Outline

theorem Mode.frame_eq_self_iff (mode : Mode) (heading : Option String) (parts : List Node) :
    mode.frame heading parts = parts ↔ heading.bind mode.markers? = none := by
  unfold frame
  cases heading.bind mode.markers? with
  | none => simp
  | some markers =>
      refine iff_of_false (fun h => ?_) nofun
      have hlength := congrArg List.length h
      simp only [List.cons_append, List.length_cons, List.length_append, List.length_nil] at hlength
      omega

theorem Mode.zipWith_frame_eq_iff (mode : Mode) {branches rows : List (List Node)}
    (h : rows.length = branches.length) :
    List.zipWith (fun parts row => .alternative (mode.frame (Outline.heading? parts) row))
        branches rows = rows.map Node.alternative ↔
      ∀ parts ∈ branches, (Outline.heading? parts).bind mode.markers? = none := by
  induction branches generalizing rows with
  | nil =>
      obtain rfl : rows = [] := List.eq_nil_of_length_eq_zero h
      simp
  | cons parts branches ih =>
      cases rows with
      | nil => cases h
      | cons row rows =>
          have hrows := ih (Nat.succ.inj h)
          simp [hrows, mode.frame_eq_self_iff]

namespace Regex

theorem render_eq_of_alike {regex other : Regex} {mode : Mode}
    (h : Outlining.Alike (Outline.shown mode) (Outline.ofNodeOption 1 regex.body)
      (Outline.ofNodeOption 1 other.body)) : regex.render mode = other.render mode := by
  rw [render_eq_shown, render_eq_shown]
  exact (h {} {} rfl).1

/-- A choice that is the body leaves a row for each branch, and the row that stripping makes of it
leaves the same rows without their markers. -/
theorem exists_rows_of_body {regex : Regex} {left right : Option Node}
    (h : regex.body = some (.disjunction left right)) (mode : Mode) :
    ∃ rows : List (List Node),
      rows.length = (Node.branches left ++ Node.branches right).length ∧
        (regex.strip.reduce mode).body = some (.alternative (rows.map .alternative)) ∧
        (regex.reduce mode).body = some (.alternative (List.zipWith
          (fun parts row => .alternative (mode.frame (Outline.heading? parts) row))
          (Node.branches left ++ Node.branches right) rows)) := by
  obtain ⟨rows, hlength, hheaded, hbare⟩ := @Outline.exists_outlines_branches sectionDepth
    (Node.branches (some (.disjunction left right))) {} {} rfl
  have hstrip : regex.strip.body =
      some (.alternative ((Node.branches (some (.disjunction left right))).map .alternative)) := by
    simp [strip, h, Node.strip?, Node.branches]
  have houtline : regex.outline.1 = some (.row none (List.zipWith
      (fun parts row => .row (Outline.heading? parts) row)
      (Node.branches (some (.disjunction left right))) rows)) := by
    rw [← hheaded, ← Outline.ofSide_eq_mapM, outline, h]
    rfl
  have hdepth : ¬ sectionDepth ≤ 2 := by decide
  have houtline' : regex.strip.outline.1 = some (.row none (rows.map (.row none))) := by
    simp only [outline, hstrip, Outline.ofNodeOption, Outline.ofNode_alternative_map_alternative,
      Outline.ofNodes_map_alternative, if_neg hdepth, ← hbare]
    rfl
  refine ⟨rows.map (Outline.nodes mode), by simpa [Node.branches] using hlength, ?_, ?_⟩
  · simp [reduce, houtline', Outline.nodeOption, Outline.node, Outline.nodes_eq_map]
  · simp [reduce, houtline, Outline.nodeOption, Outline.node, Outline.nodes_eq_map,
      Node.branches, List.map_zipWith, List.zipWith_map_right]

theorem strip_reduce_eq_iff {regex : Regex} {left right : Option Node}
    (h : regex.body = some (.disjunction left right)) (mode : Mode) :
    regex.strip.reduce mode = regex.reduce mode ↔
      ∀ parts ∈ Node.branches left ++ Node.branches right,
        (Outline.heading? parts).bind mode.markers? = none := by
  obtain ⟨rows, hlength, hstrip, hbody⟩ := exists_rows_of_body h mode
  rw [← mode.zipWith_frame_eq_iff hlength]
  constructor
  · intro heq
    rw [← heq, hstrip] at hbody
    simpa using hbody.symm
  · intro heq
    rw [heq, ← hstrip] at hbody
    exact congrArg (fun body => { regex with body }) hbody.symm

/-- Stripping a choice and outlining it make the same of it. A choice that is not the body itself
may be replaced by its row, and the template stays as it is. If it is the body, then the plain
reductions are the same, and the reductions in the Mustache mode are unless a branch has a capturing
group among its parts: they differ by the markers around such branches. -/
theorem strip_agrees (regex : Regex) {left right : Option Node} {row : Node}
    (hstrip : (Node.disjunction left right).strip? = some row) :
    (∀ frames : List Node.Frame, frames ≠ [] →
      regex.body = some (Node.fill frames (.disjunction left right)) →
        ∀ mode : Mode, ({ regex with body := some (Node.fill frames row) } : Regex).render mode =
          regex.render mode) ∧
    (regex.body = some (.disjunction left right) →
      regex.strip.reduce .plain = regex.reduce .plain ∧
      (regex.strip.reduce .mustache = regex.reduce .mustache ↔
        ∀ parts ∈ Node.branches left ++ Node.branches right,
          ∀ part ∈ parts, part.capture? = none) ∧
      ∀ mode : Mode, ∃ rows : List (List Node),
        rows.length = (Node.branches left ++ Node.branches right).length ∧
          (regex.strip.reduce mode).body = some (.alternative (rows.map .alternative)) ∧
          (regex.reduce mode).body = some (.alternative (List.zipWith
            (fun parts row => .alternative (mode.frame (Outline.heading? parts) row))
            (Node.branches left ++ Node.branches right) rows))) := by
  refine ⟨fun frames hframes hbody mode => ?_, fun hbody => ⟨?_, ?_, ?_⟩⟩
  · obtain ⟨frame, frames, rfl⟩ := List.exists_cons_of_ne_nil hframes
    have hfill := (Outline.interchangeable_strip? hstrip mode).fill frames
    symm
    apply render_eq_of_alike
    rw [hbody]
    exact hfill.alike_fill frame (Nat.le_refl _)
  · rw [strip_reduce_eq_iff hbody]
    intro parts _
    cases Outline.heading? parts <;> rfl
  · rw [strip_reduce_eq_iff hbody]
    refine forall₂_congr fun parts _ => ?_
    rw [← Outline.heading?_eq_none_iff]
    cases Outline.heading? parts <;> simp [Mode.markers?]
  · exact exists_rows_of_body hbody

def greeting : List Node :=
  [.group (some ⟨1, some "word"⟩) none, .char (.simple '!')]

def offered : Regex where
  body := some (.disjunction (some (.alternative greeting)) none)
  flags := {}
  captures := 1

def repeated : Regex where
  body := some (Node.fill [.repetition ⟨.exact (copyLimit + 1), true⟩, .group none]
    (.disjunction (some (.alternative greeting)) none))
  flags := {}
  captures := 1

theorem strip_agrees_offered :
    (Node.disjunction (some (.alternative greeting)) none).strip? =
      some (.alternative [.alternative greeting, .alternative []]) ∧
    ({ repeated with
      body := some (Node.fill [.repetition ⟨.exact (copyLimit + 1), true⟩, .group none]
        (.alternative [.alternative greeting, .alternative []])) } : Regex).render .mustache =
      repeated.render .mustache ∧
    offered.strip.reduce .plain = offered.reduce .plain ∧
    offered.strip.reduce .mustache ≠ offered.reduce .mustache := by
  have hstrip : (Node.disjunction (some (.alternative greeting)) none).strip? =
      some (.alternative [.alternative greeting, .alternative []]) := by
    simp [Node.strip?, Node.branches]
  obtain ⟨hframed, -⟩ := strip_agrees repeated hstrip
  obtain ⟨-, hbody⟩ := strip_agrees offered hstrip
  obtain ⟨hplain, hmustache, -⟩ := hbody rfl
  refine ⟨hstrip, hframed _ (List.cons_ne_nil _ _) rfl .mustache, hplain, ?_⟩
  rw [Ne, hmustache]
  simp [Node.branches, Node.capture?, greeting]

end Regex

end PatternTemplate
