import PatternTemplate.Proofs.Pattern.Opening

/-!
# A descent and the reader of tokens

A descent keeps its place in the groups by the calls that have not returned yet, a reading keeps it
as a list of open groups. At each place both have the same future: the rest of the pattern and what
is known so far decide what becomes of the pattern, and a reader of the descent goes from one place
to another at which the same will become of it (`Descent.Stands`). Either the reader comes to such a
place, or the pattern is refused with the error that will be reported (`Descent.Agrees`). There is
no third way, so no defect is met on the way.
-/

namespace PatternTemplate

namespace Token

theorem mem_quantifierMarks {offset width : Nat} {c : Char} {s : List Char}
    {quantifier : Quantifier} (h : Token.read offset c s = .ok (.quantifier quantifier, width)) :
    c ∈ Descent.quantifierMarks := by
  obtain ⟨text, rest, -, -, hfound⟩ := read_found h
  obtain ⟨front, hcount, heq⟩ := hfound.spells
  generalize quantifier.count = count at hcount
  cases hcount <;> simp [Descent.quantifierMarks, (List.cons.inj heq).1]

end Token

namespace Reading

/-- What becomes of a pattern of which a text is still to be read: its tree and the number of its
captures. -/
def outcome (reading : Reading) (offset : Nat) (s : List Char) :
    Except SyntaxError (Option Node × Nat) := do
  let last ← reading.run offset s
  return (← last.finish, last.captures)

variable {reading : Reading} {offset width : Nat} {c : Char} {s : List Char}

theorem outcome_nil (reading : Reading) (offset : Nat) :
    reading.outcome offset [] = do return (← reading.finish, reading.captures) := by
  unfold outcome
  rw [run_nil]
  rfl

theorem outcome_of_unread {error : SyntaxError} (h : Token.read offset c s = .error error) :
    reading.outcome offset (c :: s) = .error error := by
  unfold outcome
  rw [run, h]
  rfl

theorem outcome_of_read {token : Token} (h : Token.read offset c s = .ok (token, width)) :
    reading.outcome offset (c :: s) =
      (reading.step offset token).bind fun next =>
        next.outcome (offset + 1 + width) (s.drop width) := by
  unfold outcome
  rw [run, h]
  dsimp only
  cases reading.step offset token with
  | error error => rfl
  | ok next => rfl

end Reading

namespace Descent

variable {α β : Type} {text s : List Char} {c : Char} {width : Nat}
  {expected : Except SyntaxError (Option Node × Nat)} {level level' : Level}
  {groups groups' : List OpenGroup} {cursor next : Cursor}

/-! ### Places with the same future -/

/-- The cursor stands in the text, in groups in which this will become of the pattern. -/
structure Stands (text : List Char) (expected : Except SyntaxError (Option Node × Nat))
    (level : Level) (groups : List OpenGroup) (cursor : Cursor) : Prop where
  le_length : cursor.place ≤ text.length
  nesting : cursor.nesting = groups.length
  outcome : (cursor.reading level groups).outcome cursor.place (text.drop cursor.place) = expected

namespace Stands

theorem unread (h : Stands text expected level groups cursor) (hat : cursor.At text (c :: s))
    {error : SyntaxError} (hread : Token.read cursor.place c s = .error error) :
    expected = .error error := by
  rw [← h.outcome, hat.drop, Reading.outcome_of_unread hread]

theorem refused (h : Stands text expected level groups cursor) (hat : cursor.At text (c :: s))
    {token : Token} (hread : Token.read cursor.place c s = .ok (token, width))
    {error : SyntaxError}
    (hstep : (cursor.reading level groups).step cursor.place token = .error error) :
    expected = .error error := by
  rw [← h.outcome, hat.drop, Reading.outcome_of_read hread, hstep]
  rfl

theorem step (h : Stands text expected level groups cursor) (hat : cursor.At text (c :: s))
    {token : Token} (hread : Token.read cursor.place c s = .ok (token, width))
    (hstep : (cursor.reading level groups).step cursor.place token =
      .ok (next.reading level' groups'))
    (hplace : next.place = cursor.place + (1 + width)) (hnesting : next.nesting = groups'.length) :
    Stands text expected level' groups' next := by
  obtain ⟨front, rest, rfl, rfl, -⟩ := Token.read_found hread
  have hnext := hat.tail.append
  rw [Cursor.advance_advance] at hnext
  have hdrop : text.drop next.place = rest := by
    rw [hplace]
    exact hnext.drop
  refine ⟨hplace ▸ hnext.le_length, hnesting, ?_⟩
  rw [← h.outcome, hat.drop, Reading.outcome_of_read hread, hstep, List.drop_left, hdrop, hplace,
    ← Nat.add_assoc]
  rfl

end Stands

/-! ### Agreement -/

/-- A part of a descent either goes on, or refuses the pattern as it will be refused. -/
def Agrees (expected : Except SyntaxError (Option Node × Nat)) (post : α → Cursor → Prop) :
    Except Stop (α × Cursor) → Prop
  | .ok (a, next) => post a next
  | .error (.refused error) => expected = .error error
  | .error (.defect _) => False

theorem Agrees.bind {first : Descent α} {rest : α → Descent β} {post : α → Cursor → Prop}
    {post' : β → Cursor → Prop} (hfirst : Agrees expected post (first cursor))
    (hrest : ∀ a next, post a next → Agrees expected post' (rest a next)) :
    Agrees expected post' ((first >>= rest) cursor) := by
  cases h : first cursor with
  | ok found =>
      obtain ⟨a, next⟩ := found
      rw [h] at hfirst
      rw [bind_of_ok h]
      exact hrest a next hfirst
  | error stop =>
      rw [h] at hfirst
      rw [bind_of_error h]
      cases stop <;> exact hfirst

theorem Agrees.mono {post post' : α → Cursor → Prop} {outcome : Except Stop (α × Cursor)}
    (h : Agrees expected post outcome) (hpost : ∀ a next, post a next → post' a next) :
    Agrees expected post' outcome := by
  match outcome, h with
  | .ok (a, next), h => exact hpost a next h
  | .error (.refused error), h => exact h

/-! ### Atoms -/

theorem noting_reading (cursor : Cursor) (width offset : Nat) (node : Node) (level : Level)
    (groups : List OpenGroup) :
    ((cursor.advance width).noting offset node).reading (level.push node) groups =
      (cursor.reading level groups).atom offset node := by
  match node with
  | .backreference (.name name) => rfl
  | .backreference (.number number) => rfl
  | .char _ | .group _ _ | .repetition _ _ | .alternative _ | .disjunction _ _ | .assertion _ _
  | .characterClass _ _ | .classRange _ _ => rfl

@[simp] theorem noting_place (cursor : Cursor) (offset : Nat) (node : Node) :
    (cursor.noting offset node).place = cursor.place := by
  unfold Cursor.noting
  split <;> rfl

@[simp] theorem noting_nesting (cursor : Cursor) (offset : Nat) (node : Node) :
    (cursor.noting offset node).nesting = cursor.nesting := by
  unfold Cursor.noting
  split <;> rfl

/-- A piece has been read that no quantifier follows yet. -/
structure Read (text : List Char) (expected : Except SyntaxError (Option Node × Nat))
    (level : Level) (groups : List OpenGroup) (cursor : Cursor) (node : Node) (next : Cursor) :
    Prop where
  lt_place : cursor.place < next.place
  not_repetition : ∀ body quantifier, node ≠ .repetition body quantifier
  stands : Stands text expected (level.push node) groups next

theorem agrees_noted (h : Stands text expected level groups cursor)
    (hat : cursor.At text (c :: s)) (found : Except SyntaxError (Node × Nat))
    (hread : Token.read cursor.place c s = do
      let (node, width) ← found
      return (.atom node, width)) :
    Agrees expected (Read text expected level groups cursor)
      (noted (cursor.advance 1) cursor.place found) := by
  cases found with
  | error error => exact h.unread hat hread
  | ok found =>
      obtain ⟨node, width⟩ := found
      replace hread : Token.read cursor.place c s = .ok (.atom node, width) := hread
      obtain ⟨text', rest, -, -, hfound⟩ := Token.read_found hread
      have hatom : node.isAtom = true := hfound.wellFormed.1
      simp only [noted, Cursor.advance_advance]
      refine ⟨?_, ?_, ?_⟩
      · rw [noting_place, Cursor.advance_place]
        omega
      · rintro body quantifier rfl
        exact Bool.noConfusion hatom
      · apply h.step hat hread
        · exact congrArg Except.ok (noting_reading ..).symm
        · rw [noting_place, Cursor.advance_place]
        · rw [noting_nesting]
          exact h.nesting

/-- A quantifier that comes next is refused, because there is no piece that it can follow. -/
def Bare (text : List Char) (level : Level) (cursor : Cursor) : Prop :=
  ∀ part ∈ level.parts.head?, part.isRepeatable = true →
    ∀ c s quantifier width, text.drop cursor.place = c :: s →
      Token.read cursor.place c s ≠ .ok (.quantifier quantifier, width)

theorem Bare.expected_eq (hbare : Bare text level cursor)
    (h : Stands text expected level groups cursor) (hat : cursor.At text (c :: s))
    {count : Quantifier.Count} {rest : List Char}
    (hread : Token.read cursor.place c s = .ok (Token.ofCount count width rest)) :
    expected = .error ⟨cursor.place, .nothingToRepeat⟩ := by
  obtain ⟨quantifier, more, htoken⟩ : ∃ quantifier more,
      Token.ofCount count width rest = (.quantifier quantifier, more) := by
    unfold Token.ofCount
    split <;> exact ⟨_, _, rfl⟩
  rw [htoken] at hread
  apply h.refused hat hread
  simp only [Reading.step, Reading.quantify, Cursor.reading]
  cases hparts : level.parts with
  | nil => rfl
  | cons part parts =>
      dsimp only
      rw [if_neg]
      intro hpart
      exact hbare part (by rw [hparts]; rfl) hpart _ _ _ _ hat.drop hread

theorem atomFrom_brace (inner : Descent (Option Node))
    (h : Stands text expected level groups cursor) (hbare : Bare text level cursor)
    (hat : cursor.At text ('{' :: s)) :
    Agrees expected (Read text expected level groups cursor)
      (atomFrom text inner cursor.place '{' (cursor.advance 1)) := by
  have hback : goTo text cursor.place (cursor.advance 1) = .ok ((), cursor) :=
    goTo_of_le hat.le_length _
  have hforward : goTo text (cursor.place + 1) cursor = .ok ((), cursor.advance 1) :=
    goTo_of_le hat.tail.le_length _
  have hbraced := bracedCount_eq hat
  -- the brace is given back first, since a quantifier would begin with it
  change Agrees _ _ ((goTo text cursor.place >>= _) (cursor.advance 1))
  rw [bind_of_ok hback]
  cases hbounds : bounds? s with
  | none =>
      rw [hbounds] at hbraced
      rw [bind_of_ok hbraced]
      dsimp only
      rw [bind_of_ok hforward]
      apply agrees_noted h hat (.ok (.char (.simple '{'), 0))
      simp only [Token.read, Token.readBrace, hbounds]
      rfl
  | some found =>
      obtain ⟨bounds, width⟩ := found
      rw [hbounds] at hbraced
      simp only [braced] at hbraced
      cases hcount : bounds.count? with
      | none =>
          rw [hcount] at hbraced
          rw [bind_of_error hbraced]
          apply h.unread hat
          simp only [Token.read, Token.readBrace, hbounds, hcount]
      | some count =>
          rw [hcount] at hbraced
          rw [bind_of_ok hbraced]
          have hread : Token.read cursor.place '{' s =
              .ok (Token.ofCount count width (s.drop width)) := by
            simp only [Token.read, Token.readBrace, hbounds, hcount]
          -- bounds here are a quantifier with nothing in front of it
          exact hbare.expected_eq h hat hread

theorem behind_characterClass (cursor : Cursor) (start offset : Nat) (s : List Char) :
    cursor.behind (characterClass start s) = noted cursor offset (characterClass start s) := by
  cases hread : characterClass start s with
  | error error => rfl
  | ok found =>
      obtain ⟨node, width⟩ := found
      obtain ⟨text, rest, -, -, -, negative, items, rfl, -⟩ := characterClass_spells hread
      rfl

theorem agrees_atomFrom (inner : Descent (Option Node))
    (h : Stands text expected level groups cursor) (hbare : Bare text level cursor)
    (hat : cursor.At text (c :: s)) (hbar : c ≠ '|') (hclose : c ≠ ')') (hopen : c ≠ '(') :
    Agrees expected (Read text expected level groups cursor)
      (atomFrom text inner cursor.place c (cursor.advance 1)) := by
  unfold atomFrom
  split
  · exact absurd rfl hopen
  · rw [classFrom_eq hat.tail (Cursor.advance_place cursor 1), behind_characterClass]
    exact agrees_noted h hat _ rfl
  · rw [escapedAtom_eq hat.tail (Cursor.advance_place cursor 1)]
    exact agrees_noted h hat _ rfl
  · exact agrees_noted h hat (.ok (.char (.symbolic "." none), 0)) rfl
  · exact agrees_noted h hat (.ok (.anchor .inputStart, 0)) rfl
  · exact agrees_noted h hat (.ok (.anchor .inputEnd, 0)) rfl
  · exact hbare.expected_eq h hat rfl
  · exact hbare.expected_eq h hat rfl
  · exact hbare.expected_eq h hat rfl
  · exact atomFrom_brace inner h hbare hat
  · apply agrees_noted h hat (.ok (.char (.simple c), 0))
    apply Token.read_of_not_special
    simp_all [specialCharacters]

/-! ### Quantifiers -/

/-- A piece has been read with its quantifier, so none can follow it. -/
structure Passed (text : List Char) (expected : Except SyntaxError (Option Node × Nat))
    (level : Level) (groups : List OpenGroup) (cursor : Cursor) (node : Node) (next : Cursor) :
    Prop where
  lt_place : cursor.place < next.place
  bare : Bare text (level.push node) next
  stands : Stands text expected (level.push node) groups next

theorem Read.agrees_repeated {node : Node} (h : Read text expected level groups cursor node next)
    (hat : next.At text (c :: s)) {quantifier : Quantifier}
    (hread : Token.read next.place c s = .ok (.quantifier quantifier, width)) :
    Agrees expected (Passed text expected level groups cursor)
      (repeated next.place node quantifier (next.advance (1 + width))) := by
  have hrepeated : repeated next.place node quantifier =
      if node.isRepeatable then return .repetition node quantifier
      else refuse next.place .nothingToRepeat := by
    cases node with
    | repetition body quantifier => exact absurd rfl (h.not_repetition body quantifier)
    | _ => rfl
  rw [hrepeated]
  by_cases hnode : node.isRepeatable = true
  · rw [if_pos hnode]
    refine ⟨?_, ?_, ?_⟩
    · exact Nat.lt_of_lt_of_le h.lt_place (Nat.le_add_right ..)
    · rintro part hpart hrepeatable
      obtain rfl := Option.some.inj hpart
      exact Bool.noConfusion hrepeatable
    · refine h.stands.step hat hread ?_ rfl h.stands.nesting
      exact if_pos hnode
  · rw [if_neg hnode]
    exact h.stands.refused hat hread (if_neg hnode)

/-- A piece is passed with the quantifier behind it, or without one if there is none. -/
theorem Read.agrees_repetition {node : Node}
    (h : Read text expected level groups cursor node next) :
    Agrees expected (Passed text expected level groups cursor) (repetition text node next) := by
  have hat := Cursor.at_drop h.stands.le_length
  -- a piece without a quantifier is passed if none begins behind it
  have hpass : (∀ c s quantifier width, text.drop next.place = c :: s →
      Token.read next.place c s ≠ .ok (.quantifier quantifier, width)) →
      Passed text expected level groups cursor node next :=
    fun hnone => ⟨h.lt_place, fun _ _ _ => hnone, h.stands⟩
  unfold repetition
  rw [bind_of_ok (place_eq next)]
  by_cases hmark : ∃ c ∈ quantifierMarks, (text.drop next.place).head? = some c
  · obtain ⟨c, hc, hhead⟩ := hmark
    obtain ⟨s, hs⟩ := List.head?_eq_some_iff.1 hhead
    rw [hs] at hat
    have hquantifier := quantifier_of_mem hc hat
    cases hread : Token.read next.place c s with
    | error error =>
        rw [hread] at hquantifier
        rw [bind_of_error hquantifier]
        exact h.stands.unread hat hread
    | ok found =>
        obtain ⟨token, width⟩ := found
        rw [hread] at hquantifier
        cases token with
        | quantifier quantifier =>
            rw [bind_of_ok hquantifier]
            exact h.agrees_repeated hat hread
        | _ =>
            rw [bind_of_ok hquantifier]
            apply hpass
            intro c' s' quantifier more hs' hread'
            obtain ⟨rfl, rfl⟩ := List.cons.inj (hs.symm.trans hs')
            rw [hread] at hread'
            exact nomatch (Prod.mk.inj (Except.ok.inj hread')).1
  · have hnot : ∀ c ∈ quantifierMarks, (text.drop next.place).head? ≠ some c :=
      fun c hc hhead => hmark ⟨c, hc, hhead⟩
    rw [bind_of_ok (quantifier_of_not_mem hnot hat)]
    apply hpass
    intro c s quantifier width hs hread
    exact hnot c (Token.mem_quantifierMarks hread) (by rw [hs]; rfl)

/-! ### Groups -/

/-- A choice has been read, up to a closing parenthesis or the end. -/
structure Closed (text : List Char) (expected : Except SyntaxError (Option Node × Nat))
    (groups : List OpenGroup) (cursor : Cursor) (body : Option Node) (next : Cursor) : Prop where
  le_place : cursor.place ≤ next.place
  stands : ∃ level : Level, level.node? = body ∧ Stands text expected level groups next
  ends : ∀ c ∈ (text.drop next.place).head?, c = ')'

/-- What is in a group so deep is read as a choice. -/
def Fits (text : List Char) (inner : Descent (Option Node)) (depth : Nat) : Prop :=
  ∀ expected groups cursor, groups.length = depth → Stands text expected {} groups cursor →
    Agrees expected (Closed text expected groups cursor) (inner cursor)

theorem groupBody_full (inner : Descent (Option Node)) (start : Nat)
    (hfull : cursor.nesting = nestingLimit) :
    groupBody text inner start cursor = .error (.refused ⟨start, .nestingTooDeep⟩) := by
  unfold groupBody
  rw [bind_of_ok (get_eq cursor), if_pos hfull]
  rfl

section

-- what is read inside a group, if there is room for one
variable {inner : Descent (Option Node)}
  (hinner : groups.length ≠ nestingLimit → Fits text inner (groups.length + 1))

include hinner

theorem agrees_groupBody (group : OpenGroup)
    (hroom : groups.length ≠ nestingLimit) (hnesting : cursor.nesting = groups.length)
    (h : Stands text expected {} (group :: groups) { cursor with nesting := cursor.nesting + 1 }) :
    Agrees expected
      (fun body next => cursor.place < next.place ∧
        Stands text expected (group.outer.push (group.enclosure.node body)) groups next)
      (groupBody text inner group.offset cursor) := by
  unfold groupBody
  rw [bind_of_ok (get_eq cursor), if_neg (hnesting ▸ hroom), bind_of_ok (modify_eq ..)]
  refine Agrees.bind (hinner hroom expected _ _ rfl h) ?_
  rintro body next ⟨hle, ⟨level, rfl, hstands⟩, hends⟩
  rw [bind_of_ok (modify_eq ..)]
  have hat := Cursor.at_drop hstands.le_length
  generalize hrest : text.drop next.place = rest at hat hends
  -- the body ends where the pattern does or at a closing parenthesis
  cases rest with
  | nil =>
      have hend : ({ next with nesting := next.nesting - 1 } : Cursor).At text [] :=
        ⟨hat.le_length, hat.drop⟩
      rw [bind_of_ok (eat_of_ne hend (by simp))]
      change expected = _
      rw [← hstands.outcome, hrest, Reading.outcome_nil]
      rfl
  | cons c rest =>
      obtain rfl := hends c rfl
      have hclose : ({ next with nesting := next.nesting - 1 } : Cursor).At text (')' :: rest) :=
        ⟨hat.le_length, hat.drop⟩
      rw [bind_of_ok (eat_cons hclose)]
      have hread : Token.read next.place ')' rest = .ok (.closing, 0) := rfl
      have hnesting' : next.nesting - 1 = groups.length := by
        rw [hstands.nesting, List.length_cons, Nat.add_sub_cancel]
      refine ⟨Nat.lt_succ_of_le hle, ?_⟩
      refine hstands.step hat hread ?_ rfl hnesting'
      rfl

/-- A group is opened, read and closed, or refused on the way. -/
theorem agrees_group
    (h : Stands text expected level groups cursor) (hat : cursor.At text ('(' :: s)) :
    Agrees expected (Read text expected level groups cursor)
      (group text inner cursor.place (cursor.advance 1)) := by
  have henclosure := enclosure_eq hat.tail (Cursor.advance_place cursor 1) level groups
  unfold group
  cases hopening : Token.readOpening cursor.place s with
  | error error =>
      rw [hopening] at henclosure
      rw [bind_of_error henclosure]
      apply h.unread hat
      simp only [Token.read, hopening]
      rfl
  | ok found =>
      obtain ⟨opener, width⟩ := found
      have hread : Token.read cursor.place '(' s = .ok (.opening opener, width) := by
        simp only [Token.read, hopening]
        rfl
      rw [hopening] at henclosure
      simp only [opened] at henclosure
      cases hdeclare : (cursor.reading level groups).declare cursor.place opener with
      | error error =>
          have hdeclare' : ((cursor.advance 1).reading level groups).declare cursor.place opener =
              .error error := hdeclare
          rw [hdeclare'] at henclosure
          rw [bind_of_error henclosure]
          apply h.refused hat hread
          simp only [Reading.step, Reading.enter, hdeclare]
          rfl
      | ok found =>
          obtain ⟨enclosure, counted⟩ := found
          have hdeclare' : ((cursor.advance 1).reading level groups).declare cursor.place opener =
              .ok (enclosure, counted) := hdeclare
          obtain ⟨-, -, -, rfl⟩ := Reading.exists_of_declare hdeclare
          rw [hdeclare', Cursor.advance_advance] at henclosure
          rw [bind_of_ok henclosure]
          -- the limit is tested behind the opening, so its own faults come first
          by_cases hroom : groups.length = nestingLimit
          · have hfull : (cursor.reading level groups).step cursor.place (.opening opener) =
                .error ⟨cursor.place, .nestingTooDeep⟩ := by
              simp only [Reading.step, Reading.enter, hdeclare]
              exact if_pos hroom
            rw [bind_of_error (groupBody_full inner cursor.place ?_)]
            · exact h.refused hat hread hfull
            · exact h.nesting.trans hroom
          · have henter : (cursor.reading level groups).step cursor.place (.opening opener) =
                .ok ((cursor.reading level groups).opened cursor.place enclosure) := by
              simp only [Reading.step, Reading.enter, hdeclare]
              exact if_neg hroom
            refine Agrees.bind
              (agrees_groupBody hinner ⟨cursor.place, enclosure, level⟩ hroom h.nesting
                (h.step hat hread henter rfl (congrArg (· + 1) h.nesting))) ?_
            rintro body next ⟨hlt, hstands⟩
            refine ⟨Nat.lt_of_le_of_lt (Nat.le_add_right ..) hlt, ?_, hstands⟩
            -- a group is no repetition, so a quantifier may follow it
            intro inside quantifier hnode
            cases enclosure <;> exact Node.noConfusion hnode

theorem agrees_atom
    (h : Stands text expected level groups cursor) (hbare : Bare text level cursor)
    (hat : cursor.At text (c :: s)) (hbar : c ≠ '|') (hclose : c ≠ ')') :
    Agrees expected (Read text expected level groups cursor) (atom text inner cursor) := by
  unfold atom
  rw [bind_of_ok (place_eq cursor), bind_of_ok (bump_cons hat)]
  by_cases hopen : c = '('
  · subst hopen
    exact agrees_group hinner h hat
  · exact agrees_atomFrom inner h hbare hat hbar hclose hopen

/-! ### Terms and rows -/

theorem agrees_term
    (h : Stands text expected level groups cursor) (hbare : Bare text level cursor)
    (hat : cursor.At text (c :: s)) (hbar : c ≠ '|') (hclose : c ≠ ')') :
    Agrees expected (Passed text expected level groups cursor) (term text inner cursor) := by
  unfold term
  refine Agrees.bind (agrees_atom hinner h hbare hat hbar hclose) ?_
  intro node next hread
  exact hread.agrees_repetition

/-- A row has been read, up to a bar, a closing parenthesis or the end. -/
structure Rowed (text : List Char) (expected : Except SyntaxError (Option Node × Nat))
    (left : Option (Option Node)) (groups : List OpenGroup) (cursor : Cursor) (node : Option Node)
    (next : Cursor) : Prop where
  le_place : cursor.place ≤ next.place
  stands : ∃ parts, Node.ofParts parts.reverse = node ∧
    Stands text expected ⟨left, parts⟩ groups next
  ends : ∀ c ∈ (text.drop next.place).head?, c = '|' ∨ c = ')'

/-- A row is read term by term; so many turns are enough, because each term takes a character. -/
theorem agrees_row {turns : Nat}
    {left : Option (Option Node)} (parts : List Node)
    (hturns : text.length < cursor.place + turns)
    (h : Stands text expected ⟨left, parts⟩ groups cursor)
    (hbare : Bare text ⟨left, parts⟩ cursor) :
    Agrees expected (Rowed text expected left groups cursor)
      (row text inner turns parts.reverse cursor) := by
  -- on the turns: each term takes a character, so they last to the end of the text
  induction turns generalizing cursor parts with
  | zero => exact absurd h.le_length (Nat.not_le_of_lt hturns)
  | succ turns ih =>
      have hat := Cursor.at_drop h.le_length
      unfold row
      generalize hs : text.drop cursor.place = s at hat
      rw [bind_of_ok (peek_eq hat)]
      cases s with
      | nil => exact ⟨Nat.le_refl _, ⟨parts, rfl, h⟩, by rw [hs]; simp⟩
      | cons c s =>
          simp only [List.head?_cons]
          by_cases hend : c = '|' ∨ c = ')'
          · rw [if_pos hend]
            exact ⟨Nat.le_refl _, ⟨parts, rfl, h⟩, by rw [hs]; rintro _ ⟨⟩; exact hend⟩
          · rw [not_or] at hend
            rw [if_neg (not_or.2 hend)]
            refine Agrees.bind (agrees_term hinner h hbare hat hend.1 hend.2) ?_
            rintro node next ⟨hlt, hbare', hstands⟩
            rw [← List.reverse_cons]
            refine (ih (node :: parts) (by omega) hstands hbare').mono ?_
            rintro node last ⟨hle, hlast, hends⟩
            exact ⟨by omega, hlast, hends⟩

/-! ### Choices -/

theorem agrees_choice (level : Level) {turns : Nat}
    (hturns : text.length < cursor.place + turns) (h : Stands text expected level groups cursor)
    (hends : ∀ c ∈ (text.drop cursor.place).head?, c = '|' ∨ c = ')') :
    Agrees expected (Closed text expected groups cursor)
      (choice text inner turns level.node? cursor) := by
  -- on the turns: each row has a bar before it, so they last to the end of the text
  induction turns generalizing cursor level with
  | zero => exact absurd h.le_length (Nat.not_le_of_lt hturns)
  | succ turns ih =>
      have hat := Cursor.at_drop h.le_length
      unfold choice
      by_cases hbar : (text.drop cursor.place).head? = some '|'
      · obtain ⟨s, hs⟩ := List.head?_eq_some_iff.1 hbar
        rw [hs] at hat
        have hread : Token.read cursor.place '|' s = .ok (.bar, 0) := rfl
        have hstands : Stands text expected level.bar groups (cursor.advance 1) :=
          h.step hat hread rfl rfl h.nesting
        have hbare : Bare text level.bar (cursor.advance 1) := nofun
        rw [bind_of_ok (eat_cons hat), if_pos rfl]
        refine Agrees.bind (agrees_row hinner [] (by simp; omega) hstands hbare) ?_
        rintro right next ⟨hle, ⟨parts, rfl, hnext⟩, hends'⟩
        have hplace : cursor.place + 1 ≤ next.place := hle
        refine (ih ⟨some level.node?, parts⟩ (by omega) hnext hends').mono ?_
        rintro body last ⟨hle', hlast, hends''⟩
        exact ⟨by omega, hlast, hends''⟩
      · rw [bind_of_ok (eat_of_ne hat hbar)]
        refine ⟨Nat.le_refl _, ⟨level, rfl, h⟩, ?_⟩
        intro c hc
        rcases hends c hc with rfl | rfl
        · exact absurd hc hbar
        · rfl

theorem agrees_disjunction
    (h : Stands text expected {} groups cursor) :
    Agrees expected (Closed text expected groups cursor) (disjunction text inner cursor) := by
  have hturns : ∀ place, text.length < place + (text.length + 1) := by omega
  unfold disjunction
  refine Agrees.bind (agrees_row hinner [] (hturns _) h nofun) ?_
  rintro node next ⟨hle, ⟨parts, rfl, hstands⟩, hends⟩
  refine (agrees_choice hinner ⟨none, parts⟩ (hturns _) hstands hends).mono ?_
  rintro body last ⟨hle', hlast, hends'⟩
  exact ⟨Nat.le_trans hle hle', hlast, hends'⟩

end

/-- What is in a group is read as a choice. There is room for a group in it unless the limit has
been reached, and then none is opened. -/
theorem fits_within (text : List Char) {room depth : Nat} (h : depth + room = nestingLimit) :
    Fits text (within text (room + 1)) depth := by
  induction room generalizing depth with
  | zero =>
      rintro expected groups cursor rfl hstands
      exact agrees_disjunction (fun hroom => absurd h hroom) hstands
  | succ room ih =>
      rintro expected groups cursor rfl hstands
      exact agrees_disjunction (fun _ => ih (by omega)) hstands

/-! ### Patterns -/

theorem agrees_pattern (h : Stands text expected {} [] cursor) :
    Agrees expected (fun found _ => expected = .ok found) (pattern text cursor) := by
  unfold pattern
  refine Agrees.bind (agrees_disjunction (fun _ => fits_within text (by decide)) h) ?_
  rintro body next ⟨-, ⟨level, rfl, hstands⟩, hends⟩
  have hat := Cursor.at_drop hstands.le_length
  have houtcome := hstands.outcome
  generalize text.drop next.place = s at hat hends houtcome
  rw [bind_of_ok (peek_eq hat)]
  cases s with
  | nil =>
      rw [Reading.outcome_nil] at houtcome
      rw [List.head?_nil]
      dsimp only
      rw [bind_of_ok (get_eq next)]
      -- the places of references are kept last first, and looked through first to last
      cases hfind : (next.reading level []).unresolved? with
      | none =>
          have hfinish : (next.reading level []).finish = .ok level.node? := by
            simp only [Reading.finish, Cursor.reading] at hfind ⊢
            rw [hfind]
          have hnone : next.references.reverse.find? (·.2 ∉ next.names) = none := hfind
          rw [hfinish] at houtcome
          rw [hnone]
          exact houtcome.symm
      | some reference =>
          obtain ⟨offset, name⟩ := reference
          have hfinish : (next.reading level []).finish =
              .error ⟨offset, .unknownGroupName name⟩ := by
            simp only [Reading.finish, Cursor.reading] at hfind ⊢
            rw [hfind]
          have hsome : next.references.reverse.find? (·.2 ∉ next.names) = some (offset, name) :=
            hfind
          rw [hfinish] at houtcome
          rw [hsome]
          exact houtcome.symm
  | cons c s =>
      obtain rfl := hends c rfl
      exact hstands.refused hat rfl rfl

end Descent

/-- A descent reads what the reader of tokens reads, and refuses what it refuses. -/
theorem descend_eq (pattern : String) (flags : Flags) :
    descend pattern flags = (Regex.ofPattern pattern flags).mapError .refused := by
  have houtcome : Regex.ofPattern pattern flags =
      (Reading.outcome {} 0 pattern.toList).map
        fun (body, captures) => ⟨body, flags, captures⟩ := by
    unfold Regex.ofPattern Reading.outcome
    cases Reading.run {} 0 pattern.toList with
    | error error => rfl
    | ok last =>
        simp only [bind, Except.bind]
        cases last.finish with
        | error error => rfl
        | ok body => rfl
  have hagrees : Descent.Agrees (Reading.outcome {} 0 pattern.toList)
      (fun found _ => Reading.outcome {} 0 pattern.toList = .ok found)
      (Descent.pattern pattern.toList {}) :=
    Descent.agrees_pattern ⟨Nat.zero_le _, rfl, rfl⟩
  rw [houtcome]
  unfold descend
  match Descent.pattern pattern.toList {}, hagrees with
  | .ok (found, next), hagrees => rw [hagrees]; rfl
  | .error (.refused error), hagrees => rw [hagrees]; rfl

end PatternTemplate
