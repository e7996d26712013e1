import PatternTemplate.Proofs.Pattern.Run

/-!
# Zones of a pattern

Which brackets of a pattern are brackets can be told without reading the pattern. A character
behind a backslash never is one, and between the brackets of a class nothing is but the bracket
that ends it. A scanner therefore needs to know no more than the `Zone` that it is in. It knows no
group names, quantifiers or escapes of several characters, and takes each of their characters for
one that stands for itself.

Reading and scanning keep step, since what makes up a token beside its first character or two has
nothing that a scanner would stop at (`isDelimiter`). So a token leads from outside of classes to
outside of classes, and parentheses there are tokens of their own or the first characters of tokens
(`Token.crosses_of_read`).
-/

namespace PatternTemplate

open Text

/-- Where a scanner is in a pattern. -/
inductive Zone where
  | outside
  /-- Outside of classes, behind the backslash at that place. -/
  | escaped (offset : Nat)
  /-- In the class whose bracket is at that place. -/
  | inClass (start : Nat)
  /-- In that class, behind a backslash. -/
  | classEscaped (start : Nat)
  deriving DecidableEq, Repr

namespace Zone

def next (zone : Zone) (offset : Nat) (c : Char) : Zone :=
  match zone with
  | outside =>
    if c = '\\' then escaped offset else if c = '[' then inClass offset else outside
  | escaped _ => outside
  | inClass start =>
    if c = '\\' then classEscaped start else if c = ']' then outside else inClass start
  | classEscaped start => inClass start

def classStart? : Zone → Option Nat
  | inClass start | classEscaped start => some start
  | outside | escaped _ => none

def isClear : Zone → Bool
  | outside | inClass _ => true
  | escaped _ | classEscaped _ => false

/-- The text at the place `offset` leads from one zone to another, and it has no parenthesis outside
of classes and escapes. -/
inductive Passes : Zone → Nat → List Char → Zone → Prop
  | nil (zone : Zone) (offset : Nat) : Passes zone offset [] zone
  | cons {zone last : Zone} {offset : Nat} {c : Char} {s : List Char}
      (hc : zone = outside → c ≠ '(' ∧ c ≠ ')')
      (h : Passes (zone.next offset c) (offset + 1) s last) : Passes zone offset (c :: s) last

theorem Passes.cons_of_ne {zone last : Zone} {offset : Nat} {c : Char} {s : List Char}
    (hzone : zone ≠ outside) (h : Passes (zone.next offset c) (offset + 1) s last) :
    zone.Passes offset (c :: s) last :=
  .cons (fun h => absurd h hzone) h

theorem Passes.append {zone middle last : Zone} {offset : Nat} {front back : List Char}
    (h : zone.Passes offset front middle)
    (h' : middle.Passes (offset + front.length) back last) :
    zone.Passes offset (front ++ back) last := by
  induction h with
  | nil => exact h'
  | @cons zone _ offset c s hc _ ih =>
      refine .cons hc (ih ?_)
      rwa [List.length_cons, Nat.add_comm s.length, ← Nat.add_assoc] at h'

end Zone

/-- The characters at which a scanner may change its zone or meet a parenthesis. -/
def delimiters : List Char :=
  ['\\', '[', ']', '(', ')']

def isDelimiter (c : Char) : Bool :=
  c ∈ delimiters

theorem not_isDelimiter_of_all {s : List Char} (h : s.all (fun c => !isDelimiter c) = true) :
    ∀ c ∈ s, isDelimiter c = false := by
  simpa using h

theorem isDelimiter_eq_false {p : Char → Bool} (hp : delimiters.all (fun c => !p c) = true)
    {c : Char} (hc : p c = true) : isDelimiter c = false := by
  rw [isDelimiter, decide_eq_false_iff_not]
  intro hmem
  have hnot := List.all_eq_true.1 hp c hmem
  rw [hc] at hnot
  exact Bool.noConfusion hnot

theorem isDelimiter_of_isDigit {c : Char} (h : c.isDigit = true) : isDelimiter c = false :=
  isDelimiter_eq_false (by decide) h

theorem isDelimiter_of_isHexDigit {c : Char} (h : isHexDigit c = true) : isDelimiter c = false :=
  isDelimiter_eq_false (by decide) h

theorem isDelimiter_of_isNameChar {c : Char} (h : isNameChar c = true) : isDelimiter c = false :=
  isDelimiter_eq_false (by decide) h

namespace Zone

theorem next_of_not_isDelimiter {zone : Zone} (hzone : zone.isClear = true) {c : Char}
    (hc : isDelimiter c = false) (offset : Nat) : zone.next offset c = zone := by
  simp only [isDelimiter, delimiters, List.mem_cons, List.not_mem_nil, decide_eq_false_iff_not,
    not_or] at hc
  obtain ⟨hbackslash, hopen, hclose, -⟩ := hc
  cases zone with
  | outside => simp [next, hbackslash, hopen]
  | inClass start => simp [next, hbackslash, hclose]
  | escaped offset | classEscaped start => exact Bool.noConfusion hzone

/-- Text without delimiters does not lead to another zone. -/
theorem passes_of_not_isDelimiter {zone : Zone} (hzone : zone.isClear = true) {s : List Char}
    (hs : ∀ c ∈ s, isDelimiter c = false) (offset : Nat) : zone.Passes offset s zone := by
  induction s generalizing offset with
  | nil => exact .nil zone offset
  | cons c s ih =>
      have hc := hs c List.mem_cons_self
      have hrest := ih (fun d hd => hs d (List.mem_cons_of_mem c hd)) (offset + 1)
      refine .cons (fun _ => ?_) ?_
      · constructor <;> rintro rfl <;> exact Bool.noConfusion hc
      · rwa [next_of_not_isDelimiter hzone hc]

theorem passes_escape {zone : Zone} (hzone : zone.isClear = true) (letter : Char)
    {s : List Char} (hs : ∀ c ∈ s, isDelimiter c = false) (offset : Nat) :
    zone.Passes offset ('\\' :: letter :: s) zone := by
  have hrest := passes_of_not_isDelimiter hzone hs (offset + 1 + 1)
  cases zone with
  | outside => exact .cons (fun _ => by decide) (.cons_of_ne (by simp [next]) hrest)
  | inClass start => exact .cons_of_ne (by simp) (.cons_of_ne (by simp [next]) hrest)
  | escaped offset | classEscaped start => exact Bool.noConfusion hzone

end Zone

/-! ### Escapes -/

theorem Character.EscapedBy.not_isDelimiter {character : Character} {letter : Char}
    {text : List Char} (h : character.EscapedBy letter text) :
    ∀ c ∈ text, isDelimiter c = false := by
  have hspells := h.spells
  have hhex : ∀ digits : List Char, (∀ d ∈ digits, isHexDigit d = true) →
      ∀ c ∈ digits, isDelimiter c = false :=
    fun digits hd c hc => isDelimiter_of_isHexDigit (hd c hc)
  -- the text behind the letter is empty, a letter, digits, or digits in braces
  cases h.wellFormed true fun _ => rfl with
  | simple c =>
      obtain ⟨rfl, rfl⟩ : letter = c ∧ text = [] := by
        simpa [Spells, Character.simple] using hspells
      simp
  | dot hdot => exact Bool.noConfusion hdot
  | @classLetter letter' _ | @letterCode letter' _ _ =>
      obtain ⟨rfl, rfl⟩ : letter = letter' ∧ text = [] := by
        simpa [Spells, Character.symbolic] using hspells
      simp
  | backspace _ =>
      obtain ⟨rfl, rfl⟩ : letter = 'b' ∧ text = [] := by
        simpa [Spells, Character.symbolic] using hspells
      simp
  | @control letter' halpha =>
      obtain ⟨rfl, rfl⟩ : letter = 'c' ∧ text = [letter'] := by simpa [Spells] using hspells
      have hletter : isDelimiter letter' = false := isDelimiter_eq_false (by decide) halpha
      simpa using hletter
  | @hex digits _ hd =>
      obtain ⟨rfl, rfl⟩ : letter = 'x' ∧ text = digits := by simpa [Spells] using hspells
      exact hhex text hd
  | @unicode digits _ hd =>
      obtain ⟨rfl, rfl⟩ : letter = 'u' ∧ text = digits := by simpa [Spells] using hspells
      exact hhex text hd
  | @braced digits _ hd _ =>
      obtain ⟨rfl, rfl⟩ : letter = 'u' ∧ text = '{' :: digits ++ ['}'] := by
        simpa [Spells] using hspells
      intro c hc
      simp only [List.mem_append, List.mem_cons, List.not_mem_nil, or_false] at hc
      rcases hc with (rfl | hc) | rfl
      · decide
      · exact hhex digits hd c hc
      · decide

theorem Token.readEscape_not_isDelimiter {offset : Nat} {s : List Char} {node : Node} {width : Nat}
    (h : readEscape offset s = .ok (node, width)) :
    ∃ letter text rest, s = letter :: text ++ rest ∧ width = (letter :: text).length ∧
      ∀ c ∈ text, isDelimiter c = false := by
  unfold readEscape at h
  split at h
  case h_1 => simp at h
  case h_2 rest =>
    obtain ⟨-, rfl⟩ := Prod.mk.inj (Except.ok.inj h)
    exact ⟨'b', [], rest, rfl, rfl, by simp⟩
  case h_3 rest =>
    obtain ⟨-, rfl⟩ := Prod.mk.inj (Except.ok.inj h)
    exact ⟨'B', [], rest, rfl, rfl, by simp⟩
  case h_4 back =>
    split at h
    · next name more hname =>
      obtain ⟨hvalid, rest, rfl, rfl⟩ := groupName?_eq_some_iff.1 hname
      obtain ⟨-, rfl⟩ := Prod.mk.inj (Except.ok.inj h)
      -- the letter of a named reference takes the name with its brackets
      refine ⟨'k', '<' :: name.toList ++ ['>'], rest, by simp, by simp, ?_⟩
      intro c hc
      simp only [List.mem_append, List.mem_cons, List.not_mem_nil, or_false] at hc
      rcases hc with (rfl | hc) | rfl
      · decide
      · exact isDelimiter_of_isNameChar (hvalid.isNameChar c hc)
      · decide
    · simp at h
  case h_5 letter back _ _ _ =>
    split at h
    · next hdigit =>
      rw [Bool.and_eq_true, bne_iff_ne] at hdigit
      have hs := leadingDigits_append_drop back
      have hlead : leadingDigits (letter :: back) = letter :: leadingDigits back := by
        simp [leadingDigits, hdigit.1]
      obtain ⟨-, rfl⟩ := Prod.mk.inj (Except.ok.inj h)
      refine ⟨letter, leadingDigits back, _, by rw [List.cons_append, hs], by rw [hlead], ?_⟩
      exact fun c hc => isDelimiter_of_isDigit (isDigit_of_mem_leadingDigits hc)
    · split at h
      · next character more hread =>
        obtain ⟨text, rest, rfl, rfl, hby⟩ := escape?_escapedBy hread
        obtain ⟨-, rfl⟩ := Prod.mk.inj (Except.ok.inj h)
        exact ⟨letter, text, rest, rfl, rfl, hby.not_isDelimiter⟩
      · simp at h

/-! ### Classes -/

theorem classCharacter_passes {start offset : Nat} {c : Char} {s : List Char}
    {character : Character} {width : Nat} (hc : c ≠ ']')
    (h : classCharacter start offset c s = .ok (character, width)) :
    ∃ text rest, s = text ++ rest ∧ width = text.length ∧ ∀ k place,
      (Zone.inClass k).Passes place (c :: text) (.inClass k) := by
  unfold classCharacter at h
  split at h
  · next hbackslash =>
    subst hbackslash
    split at h
    · simp at h
    · next letter back =>
      split at h
      · next read more hread =>
        obtain ⟨text, rest, rfl, rfl, hby⟩ := escape?_escapedBy hread
        obtain ⟨-, rfl⟩ := Prod.mk.inj (Except.ok.inj h)
        refine ⟨letter :: text, rest, rfl, rfl, fun k place => ?_⟩
        exact Zone.passes_escape rfl letter hby.not_isDelimiter place
      · simp at h
  · next hbackslash =>
    obtain ⟨-, rfl⟩ := Prod.mk.inj (Except.ok.inj h)
    refine ⟨[], s, rfl, rfl, fun k place => .cons_of_ne (by simp) ?_⟩
    simpa [Zone.next, hbackslash, hc] using Zone.Passes.nil (.inClass k) (place + 1)

theorem classItem_passes {start offset : Nat} {c : Char} {s : List Char} {items : List Node}
    {width : Nat} (hc : c ≠ ']') (h : classItem start offset c s = .ok (items, width)) :
    ∃ text rest, s = text ++ rest ∧ width = text.length ∧ ∀ k place,
      (Zone.inClass k).Passes place (c :: text) (.inClass k) := by
  unfold classItem at h
  obtain ⟨⟨low, wlow⟩, hread, hnext⟩ := exists_of_bind_eq_ok h
  clear h
  obtain ⟨text, rest, rfl, rfl, hlow⟩ := classCharacter_passes hc hread
  simp only [List.drop_left] at hnext
  split at hnext
  · next d back =>
    split at hnext
    · obtain ⟨-, rfl⟩ := Prod.mk.inj (Except.ok.inj hnext)
      exact ⟨text, _, rfl, rfl, hlow⟩
    · next hd =>
      obtain ⟨⟨high, more⟩, hread', hnext'⟩ := exists_of_bind_eq_ok hnext
      obtain ⟨span, -, hlast⟩ := exists_of_bind_eq_ok hnext'
      obtain ⟨-, rfl⟩ := Prod.mk.inj (Except.ok.inj hlast)
      obtain ⟨text', rest, rfl, rfl, hhigh⟩ := classCharacter_passes hd hread'
      refine ⟨text ++ '-' :: d :: text', rest, by simp, ?_, fun k place => ?_⟩
      · simp only [List.length_append, List.length_cons]
        omega
      · exact (hlow k place).append (.cons_of_ne (by simp) (hhigh k _))
  · obtain ⟨-, rfl⟩ := Prod.mk.inj (Except.ok.inj hnext)
    exact ⟨text, rest, rfl, rfl, hlow⟩

theorem classItems_passes {start offset : Nat} {s : List Char} {items : List Node} {width : Nat}
    (h : classItems start offset s = .ok (items, width)) :
    ∃ text rest, s = text ++ rest ∧ width = text.length ∧ ∀ k place,
      (Zone.inClass k).Passes place text .outside := by
  fun_induction classItems start offset s generalizing items width with
  | case1 => simp at h
  | case2 offset rest =>
      obtain ⟨-, rfl⟩ := Prod.mk.inj (Except.ok.inj h)
      exact ⟨[']'], rest, rfl, rfl, fun k place => .cons_of_ne (by simp) (.nil .outside _)⟩
  | case3 offset c rest hc ih =>
      obtain ⟨⟨item, width⟩, hitem, hnext⟩ := exists_of_bind_eq_ok h
      obtain ⟨⟨others, more⟩, hothers, hlast⟩ := exists_of_bind_eq_ok hnext
      obtain ⟨-, rfl⟩ := Prod.mk.inj (Except.ok.inj hlast)
      obtain ⟨text, back, rfl, rfl, hpasses⟩ := classItem_passes hc hitem
      have hothers' := ih _ hothers
      rw [List.drop_left] at hothers'
      obtain ⟨text', rest, rfl, rfl, hpasses'⟩ := hothers'
      refine ⟨c :: text ++ text', rest, by simp, ?_, fun k place => ?_⟩
      · simp only [List.length_append, List.length_cons]
        omega
      · exact (hpasses k place).append (hpasses' k _)

theorem characterClass_passes {start : Nat} {s : List Char} {node : Node} {width : Nat}
    (h : characterClass start s = .ok (node, width)) :
    ∃ text rest, s = text ++ rest ∧ width = text.length ∧ ∀ place,
      Zone.outside.Passes place ('[' :: text) .outside := by
  unfold characterClass at h
  split at h
  · obtain ⟨⟨items, more⟩, hitems, hlast⟩ := exists_of_bind_eq_ok h
    obtain ⟨-, rfl⟩ := Prod.mk.inj (Except.ok.inj hlast)
    obtain ⟨text, rest, rfl, rfl, hpasses⟩ := classItems_passes hitems
    refine ⟨'^' :: text, rest, rfl, Nat.add_comm .., fun place => ?_⟩
    exact .cons (fun _ => by decide) (.cons_of_ne (by simp [Zone.next]) (hpasses place _))
  · obtain ⟨⟨items, more⟩, hitems, hlast⟩ := exists_of_bind_eq_ok h
    obtain ⟨-, rfl⟩ := Prod.mk.inj (Except.ok.inj hlast)
    obtain ⟨text, rest, rfl, rfl, hpasses⟩ := classItems_passes hitems
    exact ⟨text, rest, rfl, rfl, fun place => .cons (fun _ => by decide) (hpasses place _)⟩

/-! ### Tokens -/

theorem Opener.exists_text_eq_cons {opener : Opener} (hw : opener.WellFormed) :
    ∃ more, opener.text = '(' :: more ∧ ∀ c ∈ more, isDelimiter c = false := by
  match opener, hw with
  | .plain, _ => exact ⟨['?', ':'], rfl, not_isDelimiter_of_all rfl⟩
  | .look .lookahead, _ => exact ⟨['?', '='], rfl, not_isDelimiter_of_all rfl⟩
  | .look .negativeLookahead, _ => exact ⟨['?', '!'], rfl, not_isDelimiter_of_all rfl⟩
  | .look .lookbehind, _ => exact ⟨['?', '<', '='], rfl, not_isDelimiter_of_all rfl⟩
  | .look .negativeLookbehind, _ => exact ⟨['?', '<', '!'], rfl, not_isDelimiter_of_all rfl⟩
  | .capture none, _ => exact ⟨[], rfl, not_isDelimiter_of_all rfl⟩
  | .capture (some name), hname =>
      refine ⟨'?' :: '<' :: name.toList ++ ['>'], rfl, fun c hc => ?_⟩
      simp only [List.mem_append, List.mem_cons, List.not_mem_nil, or_false] at hc
      rcases hc with (rfl | rfl | hc) | rfl
      · decide
      · decide
      · exact isDelimiter_of_isNameChar (IsGroupName.isNameChar hname c hc)
      · decide

theorem Text.Writes.not_isDelimiter {digits : List Char} {n : Nat} (h : Writes digits n) :
    ∀ c ∈ digits, isDelimiter c = false :=
  fun c hc => isDelimiter_of_isDigit (h.isDigit c hc)

theorem Quantifier.Count.Spells.not_isDelimiter {count : Quantifier.Count} {s : List Char}
    (h : count.Spells s) : ∀ c ∈ s, isDelimiter c = false := by
  have hbraced : ∀ text : List Char, (∀ c ∈ text, isDelimiter c = false) →
      ∀ c ∈ '{' :: text ++ ['}'], isDelimiter c = false := by
    intro text htext
    exact List.forall_mem_append.2
      ⟨List.forall_mem_cons.2 ⟨by decide, htext⟩, not_isDelimiter_of_all rfl⟩
  have hcomma : ∀ low high : List Char, (∀ c ∈ low, isDelimiter c = false) →
      (∀ c ∈ high, isDelimiter c = false) → ∀ c ∈ low ++ ',' :: high, isDelimiter c = false := by
    intro low high hlow hhigh
    exact List.forall_mem_append.2 ⟨hlow, List.forall_mem_cons.2 ⟨by decide, hhigh⟩⟩
  cases h with
  | star | plus | optional => exact not_isDelimiter_of_all rfl
  | once h => exact hbraced _ h.not_isDelimiter
  | atLeast h =>
      have htext := hbraced _ (hcomma _ [] h.not_isDelimiter (by simp))
      simpa using htext
  | twice hl hh | between hl hh _ =>
      have htext := hbraced _ (hcomma _ _ hl.not_isDelimiter hh.not_isDelimiter)
      simpa using htext

theorem Quantifier.Spells.not_isDelimiter {quantifier : Quantifier} {s : List Char}
    (h : quantifier.Spells s) : ∀ c ∈ s, isDelimiter c = false := by
  obtain ⟨t, hcount, rfl⟩ := h
  refine List.forall_mem_append.2 ⟨hcount.not_isDelimiter, ?_⟩
  split <;> exact not_isDelimiter_of_all rfl

namespace Token

/-- An atom is a class, an escape or a single character. -/
theorem atom_of_read {offset : Nat} {c : Char} {s : List Char} {node : Node} {width : Nat}
    (h : read offset c s = .ok (.atom node, width)) :
    (c = '[' ∧ characterClass offset s = .ok (node, width)) ∨
      (c = '\\' ∧ readEscape offset s = .ok (node, width)) ∨
      (c ∉ ['[', '\\', '(', ')'] ∧ width = 0) := by
  have hcount : ∀ count width' s', ofCount count width' s' ≠ (.atom node, width) := by
    intro count width' s'
    unfold ofCount
    split <;> simp
  unfold read at h
  split at h
  case h_1 | h_3 => simp at h
  case h_2 =>
    obtain ⟨_, -, hlast⟩ := exists_of_bind_eq_ok h
    simp [pure, Except.pure] at hlast
  case h_4 | h_5 | h_6 => exact absurd (Except.ok.inj h) (hcount _ _ _)
  case h_7 =>
    unfold readBrace at h
    split at h
    · obtain ⟨-, rfl⟩ := Prod.mk.inj (Except.ok.inj h)
      exact .inr (.inr ⟨by decide, rfl⟩)
    · split at h
      · simp at h
      · exact absurd (Except.ok.inj h) (hcount _ _ _)
  case h_8 =>
    obtain ⟨⟨read, more⟩, hclass, hlast⟩ := exists_of_bind_eq_ok h
    obtain ⟨hnode, rfl⟩ := Prod.mk.inj (Except.ok.inj hlast)
    obtain rfl := Token.atom.inj hnode
    exact .inl ⟨rfl, hclass⟩
  case h_9 =>
    obtain ⟨⟨read, more⟩, hescape, hlast⟩ := exists_of_bind_eq_ok h
    obtain ⟨hnode, rfl⟩ := Prod.mk.inj (Except.ok.inj hlast)
    obtain rfl := Token.atom.inj hnode
    exact .inr (.inl ⟨rfl, hescape⟩)
  case h_10 | h_11 | h_12 =>
    obtain ⟨-, rfl⟩ := Prod.mk.inj (Except.ok.inj h)
    exact .inr (.inr ⟨by decide, rfl⟩)
  case h_13 =>
    obtain ⟨-, rfl⟩ := Prod.mk.inj (Except.ok.inj h)
    refine .inr (.inr ⟨?_, rfl⟩)
    simp only [List.mem_cons, List.not_mem_nil, or_false, not_or]
    exact ⟨by assumption, by assumption, by assumption, by assumption⟩

/-- A token leads from outside of classes to outside of classes. Parentheses there are the closing
token and the first character of an opening one, and no others. -/
def Crosses (token : Token) (offset : Nat) (text : List Char) : Prop :=
  match token with
  | opening _ => ∃ more, text = '(' :: more ∧ Zone.outside.Passes (offset + 1) more .outside
  | closing => text = [')']
  | bar | quantifier _ | atom _ => Zone.outside.Passes offset text .outside

theorem crosses_of_read {offset : Nat} {c : Char} {more rest : List Char} {token : Token}
    (h : read offset c (more ++ rest) = .ok (token, more.length)) :
    token.Crosses offset (c :: more) := by
  have hfound := found_of_read h
  have hspells := hfound.spells
  cases token with
  | bar =>
      obtain ⟨rfl, rfl⟩ := List.cons.inj hspells
      exact Zone.passes_of_not_isDelimiter rfl (not_isDelimiter_of_all rfl) offset
  | opening opener =>
      obtain ⟨text, htext, hplain⟩ := Opener.exists_text_eq_cons hfound.wellFormed
      exact ⟨text, hspells.trans htext, Zone.passes_of_not_isDelimiter rfl hplain (offset + 1)⟩
  | closing => exact hspells
  | quantifier q => exact Zone.passes_of_not_isDelimiter rfl hspells.not_isDelimiter offset
  | atom node =>
      rcases atom_of_read h with ⟨rfl, hclass⟩ | ⟨rfl, hescape⟩ | ⟨hc, hwidth⟩
      · obtain ⟨text, back, hs, hwidth, hpasses⟩ := characterClass_passes hclass
        obtain ⟨rfl, rfl⟩ := List.append_inj hs hwidth
        exact hpasses offset
      · obtain ⟨letter, text, back, hs, hwidth, hplain⟩ := readEscape_not_isDelimiter hescape
        obtain ⟨rfl, rfl⟩ := List.append_inj hs hwidth
        exact Zone.passes_escape rfl letter hplain offset
      · obtain rfl := List.eq_nil_of_length_eq_zero hwidth
        simp only [List.mem_cons, List.not_mem_nil, or_false, not_or] at hc
        obtain ⟨hbracket, hbackslash, hopen, hclose⟩ := hc
        refine .cons (fun _ => ⟨hopen, hclose⟩) ?_
        simpa [Zone.next, hbackslash, hbracket] using Zone.Passes.nil .outside (offset + 1)

end Token

end PatternTemplate
