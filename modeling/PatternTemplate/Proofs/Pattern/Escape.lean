import PatternTemplate.Proofs.Pattern.WellFormed
import PatternTemplate.Proofs.Text.Numeral

/-!
# What the readers of names, bounds and escapes find

Each of these readers takes some characters from the front of a text and gives the rest back. Names
and bounds have one reading, so their readers are described by an equivalence that serves in both
directions. An escape can be a spelling of a character that has others (`Character.EscapedBy`), so
for escapes only what is found is described here.
-/

namespace PatternTemplate

open Text

/-! ### Names -/

theorem isNameChar_of_isNameStart {c : Char} (h : isNameStart c = true) : isNameChar c = true := by
  simp [isNameChar, h]

theorem IsGroupName.isNameChar {name : String} (h : IsGroupName name) :
    ∀ c ∈ name.toList, isNameChar c = true := by
  obtain ⟨first, more, hname, hfirst, hmore⟩ := h
  intro c hc
  rw [hname, List.mem_cons] at hc
  rcases hc with rfl | hc
  · exact isNameChar_of_isNameStart hfirst
  · exact hmore c hc

theorem groupName?_eq_some_iff {s : List Char} {name : String} {width : Nat} :
    groupName? s = some (name, width) ↔
      IsGroupName name ∧
        ∃ rest, s = name.toList ++ '>' :: rest ∧ width = (name.toList ++ ['>']).length := by
  constructor
  · intro h
    unfold groupName? at h
    obtain ⟨back, hs, -⟩ := exists_eq_takeWhile_append isNameChar s
    have hall : ∀ c ∈ s.takeWhile isNameChar, isNameChar c = true :=
      fun c hc => List.all_eq_true.1 List.all_takeWhile c hc
    generalize s.takeWhile isNameChar = run at h hs hall
    subst hs
    simp only [List.drop_left] at h
    split at h
    · next first more rest =>
      split at h
      · next hfirst =>
        obtain ⟨rfl, rfl⟩ := by simpa using h
        refine ⟨⟨first, more, by simp, hfirst, fun c hc => hall c (by simp [hc])⟩, rest, ?_, ?_⟩
        · simp
        · simp
      · simp at h
    · simp at h
  · rintro ⟨hname, rest, rfl, rfl⟩
    -- no character of a name is an angle bracket, so the run ends there
    have hstops : Stops isNameChar ('>' :: rest) := by
      rw [stops_cons_iff]
      decide
    unfold groupName?
    rw [takeWhile_append_of_stops hname.isNameChar hstops]
    simp only [List.drop_left]
    obtain ⟨first, more, heq, hfirst, -⟩ := hname
    have hback : String.ofList (first :: more) = name := by rw [← heq, String.ofList_toList]
    simp [heq, hfirst, hback]

/-! ### Bounds -/

/-- The texts behind an opening brace that give bounds. -/
inductive Bounds.Spells : Bounds → List Char → Prop
  | once {n : Nat} {digits : List Char} (h : Writes digits n) :
      Spells ⟨n, some n⟩ (digits ++ ['}'])
  | atLeast {n : Nat} {digits : List Char} (h : Writes digits n) :
      Spells ⟨n, none⟩ (digits ++ [',', '}'])
  | between {m n : Nat} {low high : List Char} (hl : Writes low m) (hh : Writes high n) :
      Spells ⟨m, some n⟩ (low ++ ',' :: high ++ ['}'])

theorem spells_of_bounds? {s : List Char} {bounds : Bounds} {width : Nat}
    (h : bounds? s = some (bounds, width)) :
    ∃ text rest, s = text ++ rest ∧ width = text.length ∧ bounds.Spells text := by
  have hs := leadingDigits_append_drop s
  unfold bounds? at h
  simp only [List.isEmpty_iff] at h
  split at h
  · simp at h
  · next hlow =>
    have hl := writes_leadingDigits hlow
    generalize leadingDigits s = low at h hs hl
    split at h
    · next rest hrest =>
      obtain ⟨rfl, rfl⟩ := by simpa using h
      rw [hrest] at hs
      exact ⟨low ++ ['}'], rest, by simp [hs], by simp, .once hl⟩
    · next back hback =>
      have hb := leadingDigits_append_drop back
      rw [hback] at hs
      split at h
      · next rest hrest =>
        rw [hrest] at hb
        obtain ⟨rfl, rfl⟩ := by simpa using h
        -- behind a comma there may be no digits
        by_cases hhigh : leadingDigits back = []
        · rw [hhigh] at hb hrest ⊢
          rw [List.nil_append] at hb
          refine ⟨low ++ [',', '}'], rest, ?_, by simp, ?_⟩
          · simp [← hs, ← hb]
          · simpa [hhigh] using Bounds.Spells.atLeast hl
        · have hh := writes_leadingDigits hhigh
          refine ⟨low ++ ',' :: leadingDigits back ++ ['}'], rest, ?_, ?_, ?_⟩
          · rw [← hs, ← hb]
            simp [hb]
          · simp
            omega
          · simpa [hhigh] using Bounds.Spells.between hl hh
      · simp at h
    · simp at h

theorem bounds?_of_spells {bounds : Bounds} {text : List Char} (h : bounds.Spells text)
    (rest : List Char) : bounds? (text ++ rest) = some (bounds, text.length) := by
  have hbrace : ∀ back, Stops Char.isDigit ('}' :: back) := fun back => by simp
  have hcomma : ∀ back, Stops Char.isDigit (',' :: back) := fun back => by simp
  unfold bounds?
  cases h with
  | once h =>
      rw [List.append_assoc, List.singleton_append, leadingDigits_append h.isDigit (hbrace rest)]
      simp [h.ne_nil, h.value]
  | atLeast h =>
      rw [List.append_assoc, List.cons_append, leadingDigits_append h.isDigit (hcomma _)]
      simp [h.ne_nil, h.value, leadingDigits]
  | between hl hh =>
      rw [List.append_assoc, List.append_assoc, List.cons_append,
        leadingDigits_append hl.isDigit (hcomma _)]
      simp [hl.ne_nil, hl.value, hh.ne_nil, hh.value, leadingDigits_append hh.isDigit (hbrace rest)]
      omega

theorem Bounds.Spells.count {bounds : Bounds} {text : List Char} (h : bounds.Spells text)
    {count : Quantifier.Count} (hcount : bounds.count? = some count) :
    count.Spells ('{' :: text) ∧ count.WellFormed := by
  unfold Bounds.count? at hcount
  cases h with
  | once h =>
      obtain rfl : .exact _ = count := by simpa using hcount
      exact ⟨.once h, h.le⟩
  | atLeast h =>
      obtain rfl : .range _ none = count := by simpa using hcount
      exact ⟨.atLeast h, h.le⟩
  | between hl hh =>
      simp only at hcount
      split at hcount
      · simp at hcount
      · next hnlt =>
        split at hcount
        · next heq =>
          obtain rfl := Option.some.inj hcount
          subst heq
          -- equal bounds are a fixed count that is given twice
          exact ⟨.twice hl hh, hh.le⟩
        · next hne =>
          obtain rfl := Option.some.inj hcount
          have hlt := lt_of_le_of_ne (Nat.le_of_not_lt hnlt) (Ne.symm hne)
          exact ⟨.between hl hh hlt, hlt, hh.le⟩

/-! ### Escapes -/

/-- A backslash, the letter and the text behind it write the character. Only a backspace needs a
class around it, and the characters that show a digit are those of which the letter is one. -/
structure Character.EscapedBy (character : Character) (letter : Char) (text : List Char) :
    Prop where
  spells : character.Spells ('\\' :: letter :: text)
  wellFormed : ∀ inClass, (letter = 'b' → inClass = true) → character.WellFormed inClass
  digit : (Node.char character).startsWithDigit = true → letter.isDigit = true ∧ letter ≠ '0'

theorem Character.escapedBy_simple {letter : Char} (h : letter ≠ '0') :
    (Character.simple letter).EscapedBy letter [] where
  spells := .inr ⟨rfl, by simp [Character.simple]⟩
  wellFormed _ _ := .simple letter
  digit hdigit := ⟨by simpa [Node.startsWithDigit, Character.simple] using hdigit, h⟩

theorem Character.escapedBy_of_text {character : Character} {letter : Char} {text : List Char}
    (htext : character.text.toList = '\\' :: letter :: text)
    (hw : ∀ inClass, (letter = 'b' → inClass = true) → character.WellFormed inClass) :
    character.EscapedBy letter text where
  spells := .inl htext.symm
  wellFormed := hw
  digit hdigit := by simp [Node.startsWithDigit, htext] at hdigit

theorem hexDigits?_eq_some_iff {count : Nat} {s digits : List Char} :
    hexDigits? count s = some digits ↔
      digits.length = count ∧ (∀ d ∈ digits, isHexDigit d = true) ∧ ∃ rest, s = digits ++ rest := by
  unfold hexDigits?
  simp only
  split
  · next h =>
    obtain ⟨hlen, hall⟩ := h
    simp only [Option.some.injEq]
    constructor
    · rintro rfl
      exact ⟨hlen, List.all_eq_true.1 hall, s.drop count, (List.take_append_drop count s).symm⟩
    · rintro ⟨rfl, -, rest, rfl⟩
      simp
  · next h =>
    simp only [reduceCtorEq, false_iff]
    rintro ⟨rfl, hd, rest, rfl⟩
    exact h ⟨by simp, by simpa using hd⟩

theorem bracedHexDigits?_eq_some_iff {s digits : List Char} :
    bracedHexDigits? s = some digits ↔
      digits ≠ [] ∧ (∀ d ∈ digits, isHexDigit d = true) ∧
        numeralValue 16 digits ≤ maxCodePoint ∧ ∃ rest, s = digits ++ '}' :: rest := by
  constructor
  · intro h
    unfold bracedHexDigits? at h
    have hs := leadingHexDigits_append_drop s
    have hall : ∀ d ∈ leadingHexDigits s, isHexDigit d = true :=
      fun d hd => isHexDigit_of_mem_leadingHexDigits hd
    generalize leadingHexDigits s = run at h hs hall
    simp only at h
    split at h
    · next d ds rest hrest =>
      split at h
      · next hle =>
        obtain rfl := Option.some.inj h
        rw [hrest] at hs
        exact ⟨by simp, hall, hle, rest, hs.symm⟩
      · simp at h
    · simp at h
  · rintro ⟨hne, hd, hle, rest, rfl⟩
    have hstops : Stops isHexDigit ('}' :: rest) := by
      rw [stops_cons_iff]
      decide
    unfold bracedHexDigits?
    rw [leadingHexDigits_append hd hstops]
    simp only [List.drop_left]
    obtain ⟨d, ds, rfl⟩ := List.exists_cons_of_ne_nil hne
    simp [hle]

theorem hexEscape_escapedBy (s : List Char) :
    ∃ text rest, s = text ++ rest ∧ (hexEscape s).2 = text.length ∧
      (hexEscape s).1.EscapedBy 'x' text := by
  unfold hexEscape
  split
  · next digits h =>
    obtain ⟨hlen, hd, rest, rfl⟩ := hexDigits?_eq_some_iff.1 h
    exact ⟨digits, rest, rfl, hlen.symm,
      Character.escapedBy_of_text (by simp) fun _ _ => .hex hlen hd⟩
  · exact ⟨[], s, rfl, rfl, Character.escapedBy_simple (by decide)⟩

theorem unicodeEscape_escapedBy (s : List Char) :
    ∃ text rest, s = text ++ rest ∧ (unicodeEscape s).2 = text.length ∧
      (unicodeEscape s).1.EscapedBy 'u' text := by
  have hsimple : (Character.simple 'u').EscapedBy 'u' [] :=
    Character.escapedBy_simple (by decide)
  unfold unicodeEscape
  split
  · next back =>
    split
    · next digits h =>
      obtain ⟨hne, hd, hle, rest, rfl⟩ := bracedHexDigits?_eq_some_iff.1 h
      exact ⟨'{' :: digits ++ ['}'], rest, by simp, by simp,
        Character.escapedBy_of_text (by simp) fun _ _ => .braced hne hd hle⟩
    · exact ⟨[], '{' :: back, rfl, rfl, hsimple⟩
  · split
    · next digits h =>
      obtain ⟨hlen, hd, rest, rfl⟩ := hexDigits?_eq_some_iff.1 h
      exact ⟨digits, rest, rfl, hlen.symm,
        Character.escapedBy_of_text (by simp) fun _ _ => .unicode hlen hd⟩
    · exact ⟨[], s, rfl, rfl, hsimple⟩

theorem controlEscape?_escapedBy {s : List Char} {character : Character} {width : Nat}
    (h : controlEscape? s = some (character, width)) :
    ∃ text rest, s = text ++ rest ∧ width = text.length ∧ character.EscapedBy 'c' text := by
  unfold controlEscape? at h
  split at h
  · next letter rest =>
    split at h
    · next halpha =>
      obtain ⟨rfl, rfl⟩ := Prod.mk.inj (Option.some.inj h)
      exact ⟨[letter], rest, rfl, rfl,
        Character.escapedBy_of_text (by simp) fun _ _ => .control halpha⟩
    · simp at h
  · simp at h

/-- An escape takes from the text behind its letter what it is written with. -/
theorem escape?_escapedBy {letter : Char} {s : List Char} {character : Character} {width : Nat}
    (h : escape? letter s = some (character, width)) :
    ∃ text rest, s = text ++ rest ∧ width = text.length ∧ character.EscapedBy letter text := by
  -- the letters that take nothing from the text behind them
  have hletter : ∀ codePoint,
      (∀ inClass, (letter = 'b' → inClass = true) →
        (Character.symbolic (String.ofList ['\\', letter]) codePoint).WellFormed inClass) →
      some (Character.symbolic (String.ofList ['\\', letter]) codePoint, 0) =
        some (character, width) →
      ∃ text rest, s = text ++ rest ∧ width = text.length ∧ character.EscapedBy letter text := by
    intro codePoint hw heq
    obtain ⟨rfl, rfl⟩ := Prod.mk.inj (Option.some.inj heq)
    exact ⟨[], s, rfl, rfl, Character.escapedBy_of_text (by simp [Character.symbolic]) hw⟩
  unfold escape? at h
  split at h
  case h_1 | h_2 | h_3 | h_4 | h_5 | h_6 =>
    exact hletter none (fun _ _ => .classLetter (by decide)) h
  case h_7 => exact hletter (some 0x0a) (fun _ _ => .letterCode (by decide)) h
  case h_8 => exact hletter (some 0x09) (fun _ _ => .letterCode (by decide)) h
  case h_9 => exact hletter (some 0x0d) (fun _ _ => .letterCode (by decide)) h
  case h_10 => exact hletter (some 0x0c) (fun _ _ => .letterCode (by decide)) h
  case h_11 => exact hletter (some 0x0b) (fun _ _ => .letterCode (by decide)) h
  case h_12 => exact hletter (some 0x00) (fun _ _ => .letterCode (by decide)) h
  case h_13 => exact hletter (some 0x08) (fun _ hb => hb rfl ▸ .backspace rfl) h
  case h_14 => exact controlEscape?_escapedBy h
  case h_15 =>
    obtain ⟨text, rest, hs, hwidth, hby⟩ := hexEscape_escapedBy s
    obtain ⟨hc, hw⟩ := Prod.mk.inj (Option.some.inj h)
    exact ⟨text, rest, hs, hw ▸ hwidth, hc ▸ hby⟩
  case h_16 =>
    obtain ⟨text, rest, hs, hwidth, hby⟩ := unicodeEscape_escapedBy s
    obtain ⟨hc, hw⟩ := Prod.mk.inj (Option.some.inj h)
    exact ⟨text, rest, hs, hw ▸ hwidth, hc ▸ hby⟩
  case h_17 =>
    obtain ⟨rfl, rfl⟩ := by simpa using h
    exact ⟨[], s, rfl, rfl, Character.escapedBy_simple (by assumption)⟩

end PatternTemplate
