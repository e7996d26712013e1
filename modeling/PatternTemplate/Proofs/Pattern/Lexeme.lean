import PatternTemplate.Proofs.Pattern.Escape

/-!
# What the reader of tokens finds

`Token.read` takes the text of one token off the front of a pattern. What it takes spells the token
and nothing else is consumed; the token is one that can stand in a well-formed tree; and the text
behind it does not go on with a character that would have belonged to the token (`Token.Found`).
The last point is what later keeps a digit away from a numeric reference.
-/

namespace PatternTemplate

open Text

theorem bind_eq_ok {ε α β : Type} {first : Except ε α} {next : α → Except ε β} {a : α} {b : β}
    (hfirst : first = .ok a) (hnext : next a = .ok b) : first >>= next = .ok b := by
  subst hfirst
  exact hnext

theorem exists_of_bind_eq_ok {ε α β : Type} {first : Except ε α} {next : α → Except ε β} {b : β}
    (h : first >>= next = .ok b) : ∃ a, first = .ok a ∧ next a = .ok b := by
  cases first with
  | error e => exact nomatch h
  | ok a => exact ⟨a, rfl, h⟩

theorem eq_error_or_of_bind_eq_error {ε α β : Type} {first : Except ε α} {next : α → Except ε β}
    {e : ε} (h : first >>= next = .error e) :
    first = .error e ∨ ∃ a, first = .ok a ∧ next a = .error e := by
  cases first with
  | error e' => exact .inl (congrArg Except.error (Except.error.inj h))
  | ok a => exact .inr ⟨a, rfl, h⟩

theorem eq_error_of_bind_eq_error {ε α β : Type} {first : Except ε α} {next : α → Except ε β}
    {e : ε} (hnext : ∀ a, ∃ b, next a = .ok b) (h : first >>= next = .error e) :
    first = .error e := by
  rcases eq_error_or_of_bind_eq_error h with hfirst | ⟨a, -, hlast⟩
  · exact hfirst
  · obtain ⟨b, hb⟩ := hnext a
    simp [hb] at hlast

theorem eq_ok_of_toOption_eq_some {ε α : Type} {result : Except ε α} {a : α}
    (h : result.toOption = some a) : result = .ok a := by
  cases result with
  | error e => exact nomatch h
  | ok b => exact congrArg Except.ok (Option.some.inj h)

/-! ### Classes -/

theorem classCharacter_spells {start offset : Nat} {c : Char} {s : List Char}
    {character : Character} {width : Nat}
    (h : classCharacter start offset c s = .ok (character, width)) :
    ∃ text rest, s = text ++ rest ∧ width = text.length ∧ character.Spells (c :: text) ∧
      character.WellFormed true := by
  unfold classCharacter at h
  split at h
  · next hc =>
    subst hc
    split at h
    · simp at h
    · next letter back =>
      split at h
      · next read more hread =>
        obtain ⟨text, rest, rfl, rfl, hby⟩ := escape?_escapedBy hread
        obtain ⟨rfl, rfl⟩ := Prod.mk.inj (Except.ok.inj h)
        exact ⟨letter :: text, rest, rfl, rfl, hby.spells, hby.wellFormed true fun _ => rfl⟩
      · simp at h
  · obtain ⟨rfl, rfl⟩ := Prod.mk.inj (Except.ok.inj h)
    exact ⟨[], s, rfl, rfl, .inl (by simp [Character.simple]), .simple c⟩

/-- A dash between two characters is spelled by both of them with the dash between, whether it
makes a range or is a character of its own. -/
theorem classSpan_spells {offset : Nat} {low high : Character} {s t : List Char}
    {items : List Node} (hlow : low.Spells s) (hhigh : high.Spells t)
    (wlow : low.WellFormed true) (whigh : high.WellFormed true)
    (h : classSpan offset low high = .ok items) :
    Node.SpellsList items (s ++ '-' :: t) ∧ ∀ item ∈ items, item.WellFormedItem := by
  unfold classSpan at h
  split at h
  · next a b ha hb =>
    split at h
    · simp at h
    · next hle =>
      obtain rfl := Except.ok.inj h
      refine ⟨Node.spellsList_singleton_iff.2 (.classRange hlow hhigh), ?_⟩
      rintro item hitem
      obtain rfl := List.mem_singleton.1 hitem
      exact ⟨wlow, whigh, a, b, ha, hb, Nat.le_of_not_lt hle⟩
  · obtain rfl := Except.ok.inj h
    -- a class of characters is no end of a range, so the dash is a character
    have hdash : (Character.simple '-').Spells ['-'] := .inl (by simp [Character.simple])
    refine ⟨.cons (.char hlow) (.cons (s := ['-']) (.char hdash) ?_), ?_⟩
    · exact Node.spellsList_singleton_iff.2 (.char hhigh)
    · rintro item hitem
      simp only [List.mem_cons, List.not_mem_nil, or_false] at hitem
      rcases hitem with rfl | rfl | rfl
      · exact wlow
      · exact .simple '-'
      · exact whigh

theorem classItem_spells {start offset : Nat} {c : Char} {s : List Char} {items : List Node}
    {width : Nat} (h : classItem start offset c s = .ok (items, width)) :
    ∃ text rest, s = text ++ rest ∧ width = text.length ∧ Node.SpellsList items (c :: text) ∧
      ∀ item ∈ items, item.WellFormedItem := by
  unfold classItem at h
  obtain ⟨⟨low, wlow⟩, hread, hnext⟩ := exists_of_bind_eq_ok h
  clear h
  obtain ⟨text, rest, rfl, rfl, hlow, hw⟩ := classCharacter_spells hread
  have hsingle : ∀ item ∈ [Node.char low], item.WellFormedItem := by
    intro item hitem
    obtain rfl := List.mem_singleton.1 hitem
    exact hw
  simp only [List.drop_left] at hnext
  split at hnext
  · next d back =>
    split at hnext
    · obtain ⟨rfl, rfl⟩ := Prod.mk.inj (Except.ok.inj hnext)
      exact ⟨text, _, rfl, rfl, Node.spellsList_singleton_iff.2 (.char hlow), hsingle⟩
    · obtain ⟨⟨high, more⟩, hread', hnext'⟩ := exists_of_bind_eq_ok hnext
      obtain ⟨span, hspan, hlast⟩ := exists_of_bind_eq_ok hnext'
      obtain ⟨rfl, rfl⟩ := Prod.mk.inj (Except.ok.inj hlast)
      obtain ⟨text', rest, rfl, rfl, hhigh, hw'⟩ := classCharacter_spells hread'
      obtain ⟨hspells, hitems⟩ := classSpan_spells hlow hhigh hw hw' hspan
      refine ⟨text ++ '-' :: d :: text', rest, by simp, ?_, hspells, hitems⟩
      simp only [List.length_append, List.length_cons]
      omega
  · obtain ⟨rfl, rfl⟩ := Prod.mk.inj (Except.ok.inj hnext)
    exact ⟨text, rest, rfl, rfl, Node.spellsList_singleton_iff.2 (.char hlow), hsingle⟩

theorem classItems_spells {start offset : Nat} {s : List Char} {items : List Node} {width : Nat}
    (h : classItems start offset s = .ok (items, width)) :
    ∃ text rest, s = text ++ ']' :: rest ∧ width = (text ++ [']']).length ∧
      Node.SpellsList items text ∧ ∀ item ∈ items, item.WellFormedItem := by
  -- along the items, each of which begins where the one before ends
  fun_induction classItems start offset s generalizing items width with
  | case1 => simp at h
  | case2 offset rest =>
      obtain ⟨rfl, rfl⟩ := Prod.mk.inj (Except.ok.inj h)
      exact ⟨[], rest, rfl, rfl, .nil, by simp⟩
  | case3 offset c rest hc ih =>
      obtain ⟨⟨item, width⟩, hitem, hnext⟩ := exists_of_bind_eq_ok h
      obtain ⟨⟨others, more⟩, hothers, hlast⟩ := exists_of_bind_eq_ok hnext
      obtain ⟨rfl, rfl⟩ := Prod.mk.inj (Except.ok.inj hlast)
      obtain ⟨text, back, rfl, rfl, hspells, hw⟩ := classItem_spells hitem
      have hothers' := ih _ hothers
      rw [List.drop_left] at hothers'
      obtain ⟨text', rest, rfl, rfl, hspells', hw'⟩ := hothers'
      refine ⟨c :: text ++ text', rest, by simp, ?_, ?_, ?_⟩
      · simp only [List.length_append, List.length_cons]
        omega
      · exact Node.spellsList_append_iff.2 ⟨c :: text, text', rfl, hspells, hspells'⟩
      · intro node hnode
        rcases List.mem_append.1 hnode with hnode | hnode
        · exact hw node hnode
        · exact hw' node hnode

theorem characterClass_spells {start : Nat} {s : List Char} {node : Node} {width : Nat}
    (h : characterClass start s = .ok (node, width)) :
    ∃ text rest, s = text ++ rest ∧ width = text.length ∧ node.Spells ('[' :: text) ∧
      ∃ negative items, node = .characterClass negative items ∧
        ∀ item ∈ items, item.WellFormedItem := by
  unfold characterClass at h
  split at h
  · next back =>
    obtain ⟨⟨items, more⟩, hitems, hlast⟩ := exists_of_bind_eq_ok h
    obtain ⟨rfl, rfl⟩ := Prod.mk.inj (Except.ok.inj hlast)
    obtain ⟨text, rest, rfl, rfl, hspells, hw⟩ := classItems_spells hitems
    refine ⟨'^' :: text ++ [']'], rest, by simp, ?_, ?_, true, items, rfl, hw⟩
    · simp only [List.length_append, List.length_cons]
      omega
    · exact @Node.Spells.characterClass true items text hspells
  · obtain ⟨⟨items, more⟩, hitems, hlast⟩ := exists_of_bind_eq_ok h
    obtain ⟨rfl, rfl⟩ := Prod.mk.inj (Except.ok.inj hlast)
    obtain ⟨text, rest, rfl, rfl, hspells, hw⟩ := classItems_spells hitems
    exact ⟨text ++ [']'], rest, by simp, rfl, @Node.Spells.characterClass false items text hspells,
      false, items, rfl, hw⟩

/-! ### Tokens -/

def Opener.WellFormed : Opener → Prop
  | look kind => kind.isLook = true
  | capture (some name) => IsGroupName name
  | capture none | plain => True

def Node.isAtom : Node → Bool
  | char _ | characterClass _ _ | backreference _ => true
  | assertion kind _ => !kind.isLook
  | _ => false

namespace Token

def Spells : Token → List Char → Prop
  | bar, s => s = ['|']
  | opening opener, s => s = opener.text
  | closing, s => s = [')']
  | quantifier q, s => q.Spells s
  | atom node, s => node.Spells s

/-- The tokens of which well-formed trees are made. -/
def WellFormed : Token → Prop
  | bar | closing => True
  | opening opener => opener.WellFormed
  | quantifier q => q.count.WellFormed
  | atom node => node.isAtom = true ∧ node.WellFormed .part

/-- The text behind the token does not go on with a character that would belong to the token. -/
def StopsAt : Token → List Char → Prop
  | atom (.backreference (.number _)), s => Stops Char.isDigit s
  | quantifier q, s => q.greedy = true → Stops (· == '?') s
  | opening (.capture none), s => Stops (· == '?') s
  | _, _ => True

/-- The token is found at the front of a text and stops before the rest of it. -/
structure Found (token : Token) (text rest : List Char) : Prop where
  spells : token.Spells text
  wellFormed : token.WellFormed
  stops : token.StopsAt rest
  digit : ∀ node, token = .atom node → node.startsWithDigit = true →
    ¬ Stops Char.isDigit text

theorem readOpening_found {offset : Nat} {s : List Char} {opener : Opener} {width : Nat}
    (h : readOpening offset s = .ok (opener, width)) :
    ∃ text rest, s = text ++ rest ∧ width = text.length ∧
      (opening opener).Found ('(' :: text) rest := by
  -- no opener is an atom, so three facts are left for each of them
  have hfound : ∀ (text rest : List Char), '(' :: text = opener.text → opener.WellFormed →
      (opening opener).StopsAt rest → (opening opener).Found ('(' :: text) rest :=
    fun text rest htext hw hstops => ⟨htext, hw, hstops, fun node hnode => Token.noConfusion hnode⟩
  unfold readOpening at h
  split at h
  case h_1 rest =>
    obtain ⟨rfl, rfl⟩ := Prod.mk.inj (Except.ok.inj h)
    exact ⟨['?', '='], rest, rfl, rfl, hfound _ _ rfl rfl trivial⟩
  case h_2 rest =>
    obtain ⟨rfl, rfl⟩ := Prod.mk.inj (Except.ok.inj h)
    exact ⟨['?', '!'], rest, rfl, rfl, hfound _ _ rfl rfl trivial⟩
  case h_3 rest =>
    obtain ⟨rfl, rfl⟩ := Prod.mk.inj (Except.ok.inj h)
    exact ⟨['?', '<', '='], rest, rfl, rfl, hfound _ _ rfl rfl trivial⟩
  case h_4 rest =>
    obtain ⟨rfl, rfl⟩ := Prod.mk.inj (Except.ok.inj h)
    exact ⟨['?', '<', '!'], rest, rfl, rfl, hfound _ _ rfl rfl trivial⟩
  case h_5 rest =>
    obtain ⟨rfl, rfl⟩ := Prod.mk.inj (Except.ok.inj h)
    exact ⟨['?', ':'], rest, rfl, rfl, hfound _ _ rfl trivial trivial⟩
  case h_6 back _ _ =>
    split at h
    · next name more hname =>
      obtain ⟨hvalid, rest, rfl, rfl⟩ := groupName?_eq_some_iff.1 hname
      obtain ⟨rfl, rfl⟩ := Prod.mk.inj (Except.ok.inj h)
      exact ⟨'?' :: '<' :: (name.toList ++ ['>']), rest, by simp, rfl,
        hfound _ _ rfl hvalid trivial⟩
    · simp at h
  case h_7 => simp at h
  -- a plain group may be followed by all but a question mark
  case h_8 hnot =>
    obtain ⟨rfl, rfl⟩ := Prod.mk.inj (Except.ok.inj h)
    refine ⟨[], s, rfl, rfl, hfound _ _ rfl trivial ?_⟩
    cases s with
    | nil => exact stops_nil _
    | cons c s => exact stops_cons_iff.2 (beq_eq_false_iff_ne.2 fun hc => hnot s (hc ▸ rfl))

theorem readEscape_found {offset : Nat} {s : List Char} {node : Node} {width : Nat}
    (h : readEscape offset s = .ok (node, width)) :
    ∃ text rest, s = text ++ rest ∧ width = text.length ∧
      (atom node).Found ('\\' :: text) rest := by
  unfold readEscape at h
  split at h
  case h_1 => simp at h
  case h_2 rest =>
    obtain ⟨rfl, rfl⟩ := Prod.mk.inj (Except.ok.inj h)
    exact ⟨['b'], rest, rfl, rfl, .place rfl, ⟨rfl, rfl⟩, trivial, by rintro _ ⟨⟩ ⟨⟩⟩
  case h_3 rest =>
    obtain ⟨rfl, rfl⟩ := Prod.mk.inj (Except.ok.inj h)
    exact ⟨['B'], rest, rfl, rfl, .place rfl, ⟨rfl, rfl⟩, trivial, by rintro _ ⟨⟩ ⟨⟩⟩
  case h_4 back =>
    split at h
    · next name more hname =>
      obtain ⟨hvalid, rest, rfl, rfl⟩ := groupName?_eq_some_iff.1 hname
      obtain ⟨rfl, rfl⟩ := Prod.mk.inj (Except.ok.inj h)
      exact ⟨'k' :: '<' :: (name.toList ++ ['>']), rest, by simp, rfl,
        .backreference (.name name), ⟨rfl, hvalid⟩, trivial, by rintro _ ⟨⟩ ⟨⟩⟩
    · simp at h
  case h_5 letter back hb _ _ =>
    split at h
    · next hdigit =>
      rw [Bool.and_eq_true, bne_iff_ne] at hdigit
      obtain ⟨rest, hs, hrest⟩ := exists_eq_takeWhile_append Char.isDigit (letter :: back)
      -- the letter is the first digit of a number
      have hlead : leadingDigits (letter :: back) = letter :: leadingDigits back := by
        simp [leadingDigits, hdigit.1]
      have hwrites := writes_leadingDigits (s := letter :: back) (by rw [hlead]; simp)
      have h0 : (leadingDigits (letter :: back)).head? ≠ some '0' := by
        rw [hlead]
        simpa using hdigit.2
      obtain ⟨rfl, rfl⟩ := Prod.mk.inj (Except.ok.inj h)
      exact ⟨leadingDigits (letter :: back), rest, hs, rfl, .backreference (.number hwrites h0),
        ⟨rfl, hwrites.one_le h0, hwrites.le⟩, hrest, by rintro _ ⟨⟩ ⟨⟩⟩
    · next hdigit =>
      split at h
      · next character more hread =>
        obtain ⟨text, rest, rfl, rfl, hby⟩ := escape?_escapedBy hread
        obtain ⟨rfl, rfl⟩ := Prod.mk.inj (Except.ok.inj h)
        -- outside of classes this letter marks a place and does not come here
        have hbackspace : letter = 'b' → false = true := fun hl => (hb hl).elim
        refine ⟨letter :: text, rest, rfl, rfl, .char hby.spells,
          ⟨rfl, hby.wellFormed false hbackspace⟩, trivial, ?_⟩
        rintro _ ⟨⟩ hstarts
        refine absurd ?_ hdigit
        rw [Bool.and_eq_true, bne_iff_ne]
        exact hby.digit hstarts
      · simp at h

theorem ofCount_found {count : Quantifier.Count} {front : List Char} (hspells : count.Spells front)
    (hw : count.WellFormed) (width : Nat) (s : List Char) :
    ∃ text rest, s = text ++ rest ∧ (ofCount count width s).2 = width + text.length ∧
      (ofCount count width s).1.Found (front ++ text) rest := by
  have hfound : ∀ (greedy : Bool) (text rest : List Char),
      text = (if greedy then [] else ['?']) → (greedy = true → Stops (· == '?') rest) →
      (quantifier ⟨count, greedy⟩).Found (front ++ text) rest :=
    fun greedy text rest htext hstops =>
      ⟨⟨front, hspells, htext ▸ rfl⟩, hw, hstops, by rintro _ ⟨⟩⟩
  unfold ofCount
  split
  · next rest => exact ⟨['?'], rest, rfl, rfl, hfound false _ _ rfl (by simp)⟩
  · next hnot =>
    refine ⟨[], s, rfl, rfl, hfound true _ _ rfl fun _ => ?_⟩
    cases s with
    | nil => exact stops_nil _
    | cons c s => exact stops_cons_iff.2 (beq_eq_false_iff_ne.2 fun hc => hnot s (hc ▸ rfl))

theorem char_found {c : Char} (rest : List Char) :
    (atom (.char (.simple c))).Found [c] rest where
  spells := .char (.inl (by simp [Character.simple]))
  wellFormed := ⟨rfl, .simple c⟩
  stops := trivial
  digit := by
    rintro _ ⟨⟩ hstarts hstops
    have hc : c.isDigit = true := by simpa [Node.startsWithDigit, Character.simple] using hstarts
    simp [hc] at hstops

theorem readBrace_found {offset : Nat} {s : List Char} {token : Token} {width : Nat}
    (h : readBrace offset s = .ok (token, width)) :
    ∃ text rest, s = text ++ rest ∧ width = text.length ∧ token.Found ('{' :: text) rest := by
  unfold readBrace at h
  split at h
  · obtain ⟨rfl, rfl⟩ := Prod.mk.inj (Except.ok.inj h)
    exact ⟨[], s, rfl, rfl, char_found s⟩
  · next bounds more hbounds =>
    obtain ⟨front, back, rfl, rfl, hspells⟩ := spells_of_bounds? hbounds
    split at h
    · simp at h
    · next count hcount =>
      obtain ⟨hcs, hw⟩ := hspells.count hcount
      rw [List.drop_left] at h
      obtain ⟨text, rest, rfl, hwidth, hfound⟩ := ofCount_found hcs hw front.length back
      rw [Except.ok.inj h] at hwidth hfound
      exact ⟨front ++ text, rest, by simp, by simpa using hwidth, hfound⟩

/-- Reading takes the text of one token, which is fit for a well-formed tree and goes as far as it
can. -/
theorem read_found {offset : Nat} {c : Char} {s : List Char} {token : Token} {width : Nat}
    (h : read offset c s = .ok (token, width)) :
    ∃ text rest, s = text ++ rest ∧ width = text.length ∧ token.Found (c :: text) rest := by
  -- the tokens of one character, and the counts
  have hone : ∀ found : Token, found.Found [c] s → (.ok (found, 0) : Except SyntaxError _) =
      .ok (token, width) →
      ∃ text rest, s = text ++ rest ∧ width = text.length ∧ token.Found (c :: text) rest := by
    intro found hfound heq
    obtain ⟨rfl, rfl⟩ := Prod.mk.inj (Except.ok.inj heq)
    exact ⟨[], s, rfl, rfl, hfound⟩
  have hcount : ∀ {count : Quantifier.Count}, count.Spells [c] → count.WellFormed →
      (.ok (ofCount count 0 s) : Except SyntaxError _) = .ok (token, width) →
      ∃ text rest, s = text ++ rest ∧ width = text.length ∧ token.Found (c :: text) rest := by
    intro count hspells hw heq
    obtain ⟨text, rest, hs, hwidth, hfound⟩ := ofCount_found hspells hw 0 s
    rw [Except.ok.inj heq] at hwidth hfound
    exact ⟨text, rest, hs, by simpa using hwidth, hfound⟩
  unfold read at h
  split at h
  case h_1 => exact hone bar ⟨rfl, trivial, trivial, by rintro _ ⟨⟩⟩ h
  case h_2 =>
    obtain ⟨⟨opener, more⟩, hopening, hlast⟩ := exists_of_bind_eq_ok h
    obtain ⟨rfl, rfl⟩ := Prod.mk.inj (Except.ok.inj hlast)
    exact readOpening_found hopening
  case h_3 => exact hone closing ⟨rfl, trivial, trivial, by rintro _ ⟨⟩⟩ h
  case h_4 => exact hcount .star trivial h
  case h_5 => exact hcount .plus trivial h
  case h_6 => exact hcount .optional trivial h
  case h_7 => exact readBrace_found h
  case h_8 =>
    obtain ⟨⟨node, more⟩, hclass, hlast⟩ := exists_of_bind_eq_ok h
    obtain ⟨rfl, rfl⟩ := Prod.mk.inj (Except.ok.inj hlast)
    obtain ⟨text, rest, hs, hwidth, hspells, negative, items, rfl, hitems⟩ :=
      characterClass_spells hclass
    exact ⟨text, rest, hs, hwidth, hspells, ⟨rfl, hitems⟩, trivial, by rintro _ ⟨⟩ ⟨⟩⟩
  case h_9 =>
    obtain ⟨⟨node, more⟩, hescape, hlast⟩ := exists_of_bind_eq_ok h
    obtain ⟨rfl, rfl⟩ := Prod.mk.inj (Except.ok.inj hlast)
    exact readEscape_found hescape
  case h_10 =>
    exact hone (atom (.char (.symbolic "." none)))
      ⟨.char (.inl rfl), ⟨rfl, .dot rfl⟩, trivial, by rintro _ ⟨⟩ ⟨⟩⟩ h
  case h_11 =>
    exact hone (atom (.anchor .inputStart)) ⟨.place rfl, ⟨rfl, rfl⟩, trivial, by rintro _ ⟨⟩ ⟨⟩⟩ h
  case h_12 =>
    exact hone (atom (.anchor .inputEnd)) ⟨.place rfl, ⟨rfl, rfl⟩, trivial, by rintro _ ⟨⟩ ⟨⟩⟩ h
  case h_13 => exact hone _ (char_found s) h

theorem found_of_read {offset : Nat} {c : Char} {more rest : List Char} {token : Token}
    (h : read offset c (more ++ rest) = .ok (token, more.length)) :
    token.Found (c :: more) rest := by
  obtain ⟨text, back, hs, hwidth, hfound⟩ := read_found h
  obtain ⟨rfl, rfl⟩ := List.append_inj hs hwidth
  exact hfound

end Token

end PatternTemplate
