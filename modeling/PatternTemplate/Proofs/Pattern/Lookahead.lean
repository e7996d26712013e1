import PatternTemplate.Proofs.Pattern.Lexeme

/-!
# Tokens in front of a parenthesis

Many readers look ahead: they go by whether a digit, a brace, a dash or a question mark comes next.
What they look for is never a parenthesis, so at the end of a text they decide as they would in
front of a parenthesis. A token that is found in a text is therefore found in the same text as the
body of a group, or with a group behind it, wherever the text stands and whatever comes behind the
parenthesis (`Token.read_paren`). That holds for what a reader has found; a class without an end,
for one, would go on behind the parenthesis.
-/

namespace PatternTemplate

open Text

def parentheses : List Char :=
  ['(', ')']

section Paren

variable {p : Char}

theorem eq_false_of_mem_parentheses {kind : Char → Bool}
    (hkind : parentheses.all (fun c => !kind c) = true) (hp : p ∈ parentheses) : kind p = false := by
  simpa using List.all_eq_true.1 hkind p hp

theorem ne_of_mem_parentheses {c : Char} (hc : c ∉ parentheses) (hp : p ∈ parentheses) : p ≠ c := by
  rintro rfl
  exact hc hp

theorem paren_not_mem_of_forall {kind : Char → Bool}
    (hkind : parentheses.all (fun c => !kind c) = true) (hp : p ∈ parentheses) {s : List Char}
    (hs : ∀ c ∈ s, kind c = true) : p ∉ s :=
  fun hmem => absurd (hs p hmem) (by simp [eq_false_of_mem_parentheses hkind hp])

/-- What has no such parenthesis in it begins the text up to the parenthesis if it begins the text
with all that comes behind it. -/
theorem Text.exists_eq_append_paren_iff {run : List Char} (hrun : p ∉ run) (s t : List Char) :
    (∃ rest, s ++ p :: t = run ++ rest) ↔ ∃ rest, s = run ++ rest := by
  constructor
  · rintro ⟨rest, h⟩
    rcases List.append_eq_append_iff.1 h with ⟨more, rfl, hparen⟩ | ⟨more, rfl, -⟩
    · cases more with
      | nil => exact ⟨[], by simp⟩
      | cons c more =>
          obtain ⟨rfl, -⟩ := List.cons.inj hparen
          simp at hrun
    · exact ⟨more, rfl⟩
  · rintro ⟨rest, rfl⟩
    exact ⟨rest ++ p :: t, List.append_assoc ..⟩

theorem Text.append_paren_ne_cons (hp : p ∈ parentheses) {c : Char} (hc : c ∉ parentheses)
    {s : List Char} (h : ∀ back, s ≠ c :: back) (t back : List Char) : s ++ p :: t ≠ c :: back := by
  cases s with
  | nil => exact fun hcons => ne_of_mem_parentheses hc hp (List.cons.inj hcons).1
  | cons d s =>
      rintro ⟨⟩
      exact h s rfl

theorem Text.Writes.paren_not_mem {digits : List Char} {n : Nat} (h : Writes digits n)
    (hp : p ∈ parentheses) : p ∉ digits :=
  paren_not_mem_of_forall (by decide) hp h.isDigit

theorem IsGroupName.paren_not_mem {name : String} (h : IsGroupName name) (hp : p ∈ parentheses) :
    p ∉ name.toList :=
  paren_not_mem_of_forall (by decide) hp h.isNameChar

theorem Bounds.Spells.paren_not_mem {bounds : Bounds} {text : List Char} (h : bounds.Spells text)
    (hp : p ∈ parentheses) : p ∉ text := by
  have hcomma : p ≠ ',' := ne_of_mem_parentheses (by decide) hp
  have hbrace : p ≠ '}' := ne_of_mem_parentheses (by decide) hp
  cases h with
  | once h | atLeast h => simp [h.paren_not_mem hp, hcomma, hbrace]
  | between hl hh => simp [hl.paren_not_mem hp, hh.paren_not_mem hp, hcomma, hbrace]

/-! ### Names, bounds and escapes -/

variable (hp : p ∈ parentheses)

include hp

section Readers

variable (s t : List Char)

theorem Text.leadingDigits_paren : leadingDigits (s ++ p :: t) = leadingDigits s := by
  have hdigit : p.isDigit = false := eq_false_of_mem_parentheses (by decide) hp
  unfold leadingDigits
  induction s with
  | nil => simp [hdigit]
  | cons c s ih => simp only [List.cons_append, List.takeWhile_cons, ih]

theorem groupName?_paren : groupName? (s ++ p :: t) = groupName? s := by
  refine Option.ext fun ⟨name, width⟩ => ?_
  rw [groupName?_eq_some_iff, groupName?_eq_some_iff]
  refine and_congr_right fun hname => ?_
  have hrun : p ∉ name.toList ++ ['>'] := by
    have hangle : p ≠ '>' := ne_of_mem_parentheses (by decide) hp
    simp [hname.paren_not_mem hp, hangle]
  have hiff := exists_eq_append_paren_iff hrun s t
  simp only [List.append_assoc, List.singleton_append] at hiff
  rw [exists_and_right, exists_and_right, hiff]

theorem bounds?_paren : bounds? (s ++ p :: t) = bounds? s := by
  refine Option.ext fun ⟨bounds, width⟩ => ⟨fun h => ?_, fun h => ?_⟩
  · obtain ⟨text, rest, hs, rfl, hspells⟩ := spells_of_bounds? h
    obtain ⟨rest, rfl⟩ :=
      (exists_eq_append_paren_iff (hspells.paren_not_mem hp) s t).1 ⟨rest, hs⟩
    exact bounds?_of_spells hspells rest
  · obtain ⟨text, rest, rfl, rfl, hspells⟩ := spells_of_bounds? h
    rw [List.append_assoc]
    exact bounds?_of_spells hspells _

theorem hexDigits?_paren (count : Nat) :
    hexDigits? count (s ++ p :: t) = hexDigits? count s := by
  refine Option.ext fun digits => ?_
  rw [hexDigits?_eq_some_iff, hexDigits?_eq_some_iff]
  refine and_congr_right fun _ => and_congr_right fun hd => ?_
  exact exists_eq_append_paren_iff (paren_not_mem_of_forall (by decide) hp hd) s t

theorem bracedHexDigits?_paren : bracedHexDigits? (s ++ p :: t) = bracedHexDigits? s := by
  refine Option.ext fun digits => ?_
  rw [bracedHexDigits?_eq_some_iff, bracedHexDigits?_eq_some_iff]
  refine and_congr_right fun _ => and_congr_right fun hd => and_congr_right fun _ => ?_
  have hrun : p ∉ digits ++ ['}'] := by
    have hbrace : p ≠ '}' := ne_of_mem_parentheses (by decide) hp
    simp [paren_not_mem_of_forall (by decide) hp hd, hbrace]
  have hiff := exists_eq_append_paren_iff hrun s t
  simpa only [List.append_assoc, List.singleton_append] using hiff

theorem hexEscape_paren : hexEscape (s ++ p :: t) = hexEscape s := by
  rw [hexEscape, hexDigits?_paren hp, hexEscape]

theorem unicodeEscape_paren : unicodeEscape (s ++ p :: t) = unicodeEscape s := by
  by_cases hbrace : ∃ back, s = '{' :: back
  · obtain ⟨back, rfl⟩ := hbrace
    simp only [List.cons_append, unicodeEscape, bracedHexDigits?_paren hp]
  · have hother : ∀ back, s ≠ '{' :: back := fun back h => hbrace ⟨back, h⟩
    rw [unicodeEscape.eq_2 _ hother,
      unicodeEscape.eq_2 _ (append_paren_ne_cons hp (by decide) hother t), hexDigits?_paren hp]

theorem controlEscape?_paren : controlEscape? (s ++ p :: t) = controlEscape? s := by
  cases s with
  | nil =>
      have halpha : p.isAlpha = false := eq_false_of_mem_parentheses (by decide) hp
      simp [controlEscape?, halpha]
  | cons c s => rfl

theorem escape?_paren (letter : Char) : escape? letter (s ++ p :: t) = escape? letter s := by
  unfold escape?
  simp only [controlEscape?_paren hp, hexEscape_paren hp, unicodeEscape_paren hp]

end Readers

/-! ### Classes -/

theorem classCharacter_paren {start offset : Nat} {c : Char} {s : List Char}
    {character : Character} {width : Nat}
    (h : classCharacter start offset c s = .ok (character, width)) (start' offset' : Nat)
    (t : List Char) :
    classCharacter start' offset' c (s ++ p :: t) = .ok (character, width) := by
  unfold classCharacter at h ⊢
  split at h
  · next hc =>
    rw [if_pos hc]
    split at h
    · simp at h
    · next letter back =>
      simp only [List.cons_append, escape?_paren hp]
      split at h
      · exact h
      · simp at h
  · next hc =>
    rw [if_neg hc]
    exact h

omit hp in
theorem classSpan_eq_ok {offset : Nat} {low high : Character} {items : List Node}
    (h : classSpan offset low high = .ok items) (offset' : Nat) :
    classSpan offset' low high = .ok items := by
  unfold classSpan at h ⊢
  split at h
  · split at h
    · simp at h
    · next hle =>
      rw [if_neg hle]
      exact h
  · exact h

/-- An item is found again if the bracket that ends its class is somewhere behind it. -/
theorem classItem_paren {start offset : Nat} {c : Char} {s : List Char} {items : List Node}
    {width : Nat} (h : classItem start offset c s = .ok (items, width))
    (hbracket : ']' ∈ s.drop width) (start' offset' : Nat) (t : List Char) :
    classItem start' offset' c (s ++ p :: t) = .ok (items, width) := by
  obtain ⟨⟨low, wlow⟩, hread, hnext⟩ := exists_of_bind_eq_ok h
  obtain ⟨text, rest, rfl, rfl, -⟩ := classCharacter_spells hread
  refine bind_eq_ok (classCharacter_paren hp hread start' offset' t) ?_
  simp only [List.append_assoc, List.drop_left] at hnext ⊢
  split at hnext
  · next d back =>
    simp only [List.cons_append]
    split at hnext
    · next hd =>
      rw [if_pos hd]
      exact hnext
    · next hd =>
      rw [if_neg hd]
      obtain ⟨⟨high, more⟩, hread', hnext'⟩ := exists_of_bind_eq_ok hnext
      obtain ⟨span, hspan, hlast⟩ := exists_of_bind_eq_ok hnext'
      exact bind_eq_ok (classCharacter_paren hp hread' _ _ t)
        (bind_eq_ok (classSpan_eq_ok hspan _) hlast)
  · next hdash =>
    -- a dash at the end of the text would have the parenthesis for its other side
    obtain ⟨rfl, rfl⟩ := Prod.mk.inj (Except.ok.inj hnext)
    rw [List.drop_left] at hbracket
    split
    · next d back heq =>
      cases rest with
      | nil => simp at hbracket
      | cons e rest =>
          obtain ⟨rfl, hback⟩ := List.cons.inj heq
          cases rest with
          | nil => simp at hbracket
          | cons f rest => exact absurd rfl (hdash f rest)
    · rfl

theorem classItems_paren {start offset : Nat} {s : List Char} {items : List Node} {width : Nat}
    (h : classItems start offset s = .ok (items, width)) (start' offset' : Nat) (t : List Char) :
    classItems start' offset' (s ++ p :: t) = .ok (items, width) := by
  fun_induction classItems start offset s generalizing items width offset' with
  | case1 => simp at h
  | case2 offset rest =>
      rw [List.cons_append, classItems, if_pos rfl]
      exact h
  | case3 offset c rest hc ih =>
      obtain ⟨⟨item, width⟩, hitem, hnext⟩ := exists_of_bind_eq_ok h
      obtain ⟨⟨others, more⟩, hothers, hlast⟩ := exists_of_bind_eq_ok hnext
      have hothers' := ih _ hothers (offset' + 1 + width)
      obtain ⟨text, back, hrest, -⟩ := classItems_spells hothers
      have hbracket : ']' ∈ rest.drop width := by simp [hrest]
      obtain ⟨front, back, rfl, rfl, -⟩ := classItem_spells hitem
      rw [List.cons_append, classItems, if_neg hc]
      refine bind_eq_ok (classItem_paren hp hitem hbracket _ _ t) ?_
      simp only [List.append_assoc, List.drop_left] at hothers' ⊢
      exact bind_eq_ok hothers' hlast

theorem characterClass_paren {start : Nat} {s : List Char} {node : Node} {width : Nat}
    (h : characterClass start s = .ok (node, width)) (start' : Nat) (t : List Char) :
    characterClass start' (s ++ p :: t) = .ok (node, width) := by
  unfold characterClass at h
  split at h
  · obtain ⟨⟨items, more⟩, hitems, hlast⟩ := exists_of_bind_eq_ok h
    exact bind_eq_ok (classItems_paren hp hitems _ _ t) hlast
  · next hcaret =>
    obtain ⟨⟨items, more⟩, hitems, hlast⟩ := exists_of_bind_eq_ok h
    rw [characterClass.eq_2 _ _ (append_paren_ne_cons hp (by decide) hcaret t)]
    exact bind_eq_ok (classItems_paren hp hitems _ _ t) hlast

/-! ### Tokens -/

namespace Token

theorem readOpening_paren {offset : Nat} {s : List Char} {opener : Opener} {width : Nat}
    (h : readOpening offset s = .ok (opener, width)) (offset' : Nat) (t : List Char) :
    readOpening offset' (s ++ p :: t) = .ok (opener, width) := by
  unfold readOpening at h
  split at h
  case h_1 | h_2 | h_3 | h_4 | h_5 => exact h
  case h_6 back hequals hbang =>
    rw [List.cons_append, List.cons_append,
      readOpening.eq_6 _ _ (append_paren_ne_cons hp (by decide) hequals t)
        (append_paren_ne_cons hp (by decide) hbang t), groupName?_paren hp]
    split at h
    · exact h
    · simp at h
  case h_7 => simp at h
  case h_8 hquestion =>
    have hother := append_paren_ne_cons hp (by decide) hquestion t
    rw [readOpening.eq_8 _ _ (fun _ => hother _) (fun _ => hother _) (fun _ => hother _)
      (fun _ => hother _) (fun _ => hother _) (fun _ => hother _) hother]
    exact h

theorem readEscape_paren {offset : Nat} {s : List Char} {node : Node} {width : Nat}
    (h : readEscape offset s = .ok (node, width)) (offset' : Nat) (t : List Char) :
    readEscape offset' (s ++ p :: t) = .ok (node, width) := by
  unfold readEscape at h
  split at h
  case h_1 => simp at h
  case h_2 | h_3 => exact h
  case h_4 back =>
    rw [List.cons_append, List.cons_append, readEscape.eq_4, groupName?_paren hp]
    split at h
    · exact h
    · simp at h
  case h_5 letter back hb hB hname =>
    -- the parenthesis does not make a name of what was none
    have hname' : ∀ rest, letter = 'k' → back ++ p :: t = '<' :: rest → False :=
      fun rest hk => append_paren_ne_cons hp (by decide) (fun more => hname more hk) t rest
    rw [List.cons_append, readEscape.eq_5 _ _ _ hb hB hname', ← List.cons_append,
      leadingDigits_paren hp, escape?_paren hp]
    split at h
    · next hdigit =>
      rw [if_pos hdigit]
      exact h
    · next hdigit =>
      rw [if_neg hdigit]
      split at h
      · exact h
      · simp at h

theorem ofCount_paren (count : Quantifier.Count) (width : Nat) (s t : List Char) :
    ofCount count width (s ++ p :: t) = ofCount count width s := by
  by_cases hlazy : ∃ back, s = '?' :: back
  · obtain ⟨back, rfl⟩ := hlazy
    rfl
  · have hother : ∀ back, s ≠ '?' :: back := fun back h => hlazy ⟨back, h⟩
    rw [ofCount.eq_2 _ _ _ hother,
      ofCount.eq_2 _ _ _ (append_paren_ne_cons hp (by decide) hother t)]

theorem readBrace_paren {offset : Nat} {s : List Char} {token : Token} {width : Nat}
    (h : readBrace offset s = .ok (token, width)) (offset' : Nat) (t : List Char) :
    readBrace offset' (s ++ p :: t) = .ok (token, width) := by
  unfold readBrace at h ⊢
  rw [bounds?_paren hp]
  split at h
  · exact h
  · next bounds more hbounds =>
    obtain ⟨text, rest, rfl, rfl, -⟩ := spells_of_bounds? hbounds
    rw [List.drop_left] at h
    simp only [List.append_assoc, List.drop_left, ofCount_paren hp]
    split at h
    · simp at h
    · exact h

/-- What is read at a place of a text is read there in front of a parenthesis. -/
theorem read_paren {offset : Nat} {c : Char} {s : List Char} {token : Token} {width : Nat}
    (h : read offset c s = .ok (token, width)) (offset' : Nat) (t : List Char) :
    read offset' c (s ++ p :: t) = .ok (token, width) := by
  unfold read at h
  split at h
  case h_2 =>
    obtain ⟨⟨opener, more⟩, hopening, hlast⟩ := exists_of_bind_eq_ok h
    exact bind_eq_ok (readOpening_paren hp hopening _ t) hlast
  case h_4 | h_5 | h_6 =>
    rw [read, ofCount_paren hp]
    exact h
  case h_7 => exact readBrace_paren hp h _ t
  case h_8 =>
    obtain ⟨⟨node, more⟩, hclass, hlast⟩ := exists_of_bind_eq_ok h
    exact bind_eq_ok (characterClass_paren hp hclass _ t) hlast
  case h_9 =>
    obtain ⟨⟨node, more⟩, hescape, hlast⟩ := exists_of_bind_eq_ok h
    exact bind_eq_ok (readEscape_paren hp hescape _ t) hlast
  case h_1 | h_3 | h_10 | h_11 | h_12 => exact h
  case h_13 => rw [read.eq_13] <;> assumption

end Token

end Paren

end PatternTemplate
