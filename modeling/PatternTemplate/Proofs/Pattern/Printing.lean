import Mathlib.Tactic.FinCases
import PatternTemplate.Proofs.Pattern.Lexeme

/-!
# Printing a tree

`Regex.print` writes a pattern for a tree. Of the spellings that a tree has it takes a plain one: a
character that stands for itself gets a backslash only where it would mean something else
(`specialCharacters`), a count is given once, and numbers have no leading zeros. So every token that
is printed is read again as that token, in front of any text that does not go on with a character
of the token (`Token.read_print`).
-/

namespace PatternTemplate

open Text

def specialCharacters (inClass : Bool) : List Char :=
  if inClass then ['\\', ']', '-', '^']
  else ['|', '(', ')', '*', '+', '?', '{', '[', '\\', '.', '^', '$']

def Character.print (inClass : Bool) (character : Character) : List Char :=
  match character.kind, character.text.toList with
  | .simple, [c] => if c ∈ specialCharacters inClass then ['\\', c] else [c]
  | _, text => text

def Quantifier.Count.print : Quantifier.Count → List Char
  | star => ['*']
  | plus => ['+']
  | optional => ['?']
  | exact n => '{' :: Nat.toDigits 10 n ++ ['}']
  | range min none => '{' :: Nat.toDigits 10 min ++ [',', '}']
  | range min (some max) => '{' :: Nat.toDigits 10 min ++ ',' :: Nat.toDigits 10 max ++ ['}']

def Quantifier.print (quantifier : Quantifier) : List Char :=
  quantifier.count.print ++ if quantifier.greedy then [] else ['?']

def Backreference.print : Backreference → List Char
  | number n => '\\' :: Nat.toDigits 10 n
  | name text => '\\' :: 'k' :: '<' :: text.toList ++ ['>']

namespace Node

def printItem : Node → List Char
  | char c => c.print true
  | classRange low high => low.print true ++ '-' :: high.print true
  | _ => []

mutual

def print : Node → List Char
  | char c => c.print false
  | group capture body => (Opener.ofCapture capture).text ++ printOption body ++ [')']
  | repetition body quantifier => print body ++ quantifier.print
  | alternative parts => printList parts
  | disjunction left right => printOption left ++ '|' :: printOption right
  | assertion kind body =>
    if kind.isLook then kind.opening ++ printOption body ++ [')'] else kind.opening
  | characterClass negative items =>
    '[' :: (if negative then ['^'] else []) ++ items.flatMap printItem ++ [']']
  | classRange low high => printItem (.classRange low high)
  | backreference target => target.print

def printOption : Option Node → List Char
  | none => []
  | some node => print node

def printList : List Node → List Char
  | [] => []
  | node :: nodes => print node ++ printList nodes

end

end Node

/-- The pattern that is printed for a regular expression. -/
def Regex.print (regex : Regex) : String :=
  String.ofList (Node.printOption regex.body)

/-! ### Characters -/

/-- A text is read as the character: by itself, or as the letter of an escape that takes what is
behind it. A letter that outside of classes begins something else is no letter of an escape
there. -/
inductive Character.ReadFrom (inClass : Bool) : Character → List Char → Prop
  | bare {c : Char} (hc : c ∉ specialCharacters inClass) : ReadFrom inClass (.simple c) [c]
  | dot (h : inClass = false) : ReadFrom inClass (.symbolic "." none) ['.']
  | escape {character : Character} {letter : Char} {text : List Char}
      (hread : ∀ rest, escape? letter (text ++ rest) = some (character, text.length))
      (hletter : inClass = false → letter ∉ ['b', 'B', 'k'] ∧ (letter.isDigit → letter = '0')) :
      ReadFrom inClass character ('\\' :: letter :: text)

theorem hexEscape_append {digits : List Char} (hlen : digits.length = 2)
    (hd : ∀ d ∈ digits, isHexDigit d = true) (rest : List Char) :
    hexEscape (digits ++ rest) =
      (⟨String.ofList ('\\' :: 'x' :: digits), .hex, some (numeralValue 16 digits)⟩,
        digits.length) := by
  have hread := hexDigits?_eq_some_iff.2 ⟨hlen, hd, rest, rfl⟩
  simp only [hexEscape, hread, hlen]

theorem unicodeEscape_append {digits : List Char} (hlen : digits.length = 4)
    (hd : ∀ d ∈ digits, isHexDigit d = true) (rest : List Char) :
    unicodeEscape (digits ++ rest) =
      (⟨String.ofList ('\\' :: 'u' :: digits), .unicode, some (numeralValue 16 digits)⟩,
        digits.length) := by
  have hread := hexDigits?_eq_some_iff.2 ⟨hlen, hd, rest, rfl⟩
  obtain ⟨d, ds, rfl⟩ := List.exists_cons_of_length_eq_add_one hlen
  have hbrace : d ≠ '{' := by
    rintro rfl
    exact absurd (hd '{' (by simp)) (by decide)
  unfold unicodeEscape
  split
  · next heq => exact absurd (List.cons.inj heq).1 hbrace
  · simp only [hread, hlen]

theorem unicodeEscape_braced {digits : List Char} (hne : digits ≠ [])
    (hd : ∀ d ∈ digits, isHexDigit d = true) (hle : numeralValue 16 digits ≤ maxCodePoint)
    (rest : List Char) :
    unicodeEscape (('{' :: digits ++ ['}']) ++ rest) =
      (⟨String.ofList ('\\' :: 'u' :: '{' :: digits ++ ['}']), .unicode,
        some (numeralValue 16 digits)⟩, ('{' :: digits ++ ['}']).length) := by
  have hread := bracedHexDigits?_eq_some_iff.2 ⟨hne, hd, hle, rest, rfl⟩
  simp [unicodeEscape, hread]

theorem Character.readFrom_print {inClass : Bool} {character : Character}
    (h : character.WellFormed inClass) :
    character.ReadFrom inClass (character.print inClass) := by
  cases h with
  | simple c =>
      have htext : (Character.simple c).print inClass =
          if c ∈ specialCharacters inClass then ['\\', c] else [c] := by
        simp [print, simple]
      rw [htext]
      split
      · next hc =>
        -- a character with a meaning is printed with a backslash, and is no letter of an escape
        have hescape : ∀ inClass, ∀ c ∈ specialCharacters inClass, ∀ rest,
            escape? c ([] ++ rest) = some (.simple c, 0) ∧ c ∉ ['b', 'B', 'k'] ∧
              (c.isDigit → c = '0') := by
          intro inClass c hc rest
          cases inClass <;> fin_cases hc <;> exact ⟨rfl, by decide, by decide⟩
        exact .escape (fun rest => (hescape inClass c hc rest).1)
          fun _ => (hescape inClass c hc []).2
      · next hc => exact .bare hc
  | dot h => exact .dot h
  | @classLetter letter h =>
      have htext : (Character.symbolic (String.ofList ['\\', letter]) none).print inClass =
          ['\\', letter] := by
        simp [print, symbolic]
      rw [htext]
      fin_cases h <;> exact .escape (fun _ => rfl) fun _ => by decide
  | @letterCode letter code h =>
      have htext : (Character.symbolic (String.ofList ['\\', letter]) (some code)).print inClass =
          ['\\', letter] := by
        simp [print, symbolic]
      rw [htext]
      fin_cases h <;> exact .escape (fun _ => rfl) fun _ => by decide
  | backspace h => exact .escape (fun _ => rfl) fun hc => absurd (h.symm.trans hc) (by decide)
  | @control letter h =>
      have htext : (⟨String.ofList ['\\', 'c', letter], .control, some (letter.toNat % 32)⟩ :
          Character).print inClass = '\\' :: 'c' :: [letter] := by
        simp [print]
      rw [htext]
      exact .escape (fun rest => if_pos h) fun _ => by decide
  | @hex digits hlen hd =>
      have htext : (⟨String.ofList ('\\' :: 'x' :: digits), .hex, some (numeralValue 16 digits)⟩ :
          Character).print inClass = '\\' :: 'x' :: digits := by
        simp [print]
      rw [htext]
      exact .escape (fun rest => congrArg some (hexEscape_append hlen hd rest))
        fun _ => by decide
  | @unicode digits hlen hd =>
      have htext : (⟨String.ofList ('\\' :: 'u' :: digits), .unicode,
          some (numeralValue 16 digits)⟩ : Character).print inClass =
            '\\' :: 'u' :: digits := by
        simp [print]
      rw [htext]
      exact .escape (fun rest => congrArg some (unicodeEscape_append hlen hd rest))
        fun _ => by decide
  | @braced digits hne hd hle =>
      have htext : (⟨String.ofList ('\\' :: 'u' :: '{' :: digits ++ ['}']), .unicode,
          some (numeralValue 16 digits)⟩ : Character).print inClass =
            '\\' :: 'u' :: ('{' :: digits ++ ['}']) := by
        simp [print]
      rw [htext]
      exact .escape (fun rest => congrArg some (unicodeEscape_braced hne hd hle rest))
        fun _ => by decide

/-! ### Classes -/

theorem classCharacter_of_readFrom {character : Character} {text : List Char}
    (h : character.ReadFrom true text) :
    ∃ c more, text = c :: more ∧ c ∉ [']', '-', '^'] ∧ ∀ start offset rest,
      classCharacter start offset c (more ++ rest) = .ok (character, more.length) := by
  cases h with
  | @bare c hc =>
      have hspecial : c ≠ '\\' ∧ c ∉ [']', '-', '^'] := by
        simpa [specialCharacters] using hc
      refine ⟨c, [], rfl, hspecial.2, ?_⟩
      intro start offset rest
      exact if_neg hspecial.1
  | dot h => exact Bool.noConfusion h
  | @escape _ letter text hread =>
      refine ⟨'\\', letter :: text, rfl, by decide, ?_⟩
      intro start offset rest
      simp [classCharacter, hread]

/-- An item is read back in front of a text that does not go on with a dash. -/
theorem classItem_printItem {item : Node} (h : item.WellFormedItem) :
    ∃ c more, item.printItem = c :: more ∧ c ∉ [']', '-', '^'] ∧ ∀ start offset rest,
      Stops (· == '-') rest →
        classItem start offset c (more ++ rest) = .ok ([item], more.length) := by
  match item, h with
  | .char character, h =>
      obtain ⟨c, more, htext, hc, hread⟩ :=
        classCharacter_of_readFrom (Character.readFrom_print h)
      refine ⟨c, more, htext, hc, ?_⟩
      intro start offset rest hrest
      unfold classItem
      simp only [hread, bind, Except.bind, List.drop_left]
      split
      · simp at hrest
      · rfl
  | .classRange low high, ⟨hlow, hhigh, a, b, ha, hb, hle⟩ =>
      obtain ⟨c, more, htext, hc, hread⟩ :=
        classCharacter_of_readFrom (Character.readFrom_print hlow)
      obtain ⟨d, others, htext', hd, hread'⟩ :=
        classCharacter_of_readFrom (Character.readFrom_print hhigh)
      -- a closing bracket is printed with a backslash, so the class goes on
      have hclose : d ≠ ']' := by
        rintro rfl
        simp at hd
      refine ⟨c, more ++ '-' :: d :: others, ?_, hc, ?_⟩
      · rw [Node.printItem, htext, htext', List.cons_append]
      · intro start offset rest _
        have hspan : classSpan offset low high = .ok [.classRange low high] := by
          simp [classSpan, ha, hb, Nat.not_lt_of_le hle]
        unfold classItem
        simp only [List.append_assoc, List.cons_append, hread, bind, Except.bind, List.drop_left,
          hclose, if_false, hread', hspan, pure, Except.pure, List.length_append, List.length_cons]
        congr 2
        omega

theorem stops_printItems {p : Char → Bool} {items : List Node} {rest : List Char}
    (hw : ∀ item ∈ items, item.WellFormedItem) (hp : ∀ c, c ∉ [']', '-', '^'] → p c = false)
    (hrest : Stops p rest) : Stops p (items.flatMap Node.printItem ++ rest) := by
  cases items with
  | nil => exact hrest
  | cons item items =>
      obtain ⟨c, more, htext, hc, -⟩ := classItem_printItem (hw item (by simp))
      rw [List.flatMap_cons, htext, List.cons_append, List.cons_append, stops_cons_iff]
      exact hp c hc

theorem classItems_printItems {items : List Node} (hw : ∀ item ∈ items, item.WellFormedItem)
    (start offset : Nat) (rest : List Char) :
    classItems start offset (items.flatMap Node.printItem ++ ']' :: rest) =
      .ok (items, (items.flatMap Node.printItem ++ [']']).length) := by
  induction items generalizing offset with
  | nil =>
      rw [List.flatMap_nil, List.nil_append, classItems]
      rfl
  | cons item items ih =>
      have hothers : ∀ item ∈ items, item.WellFormedItem :=
        fun other hother => hw other (by simp [hother])
      obtain ⟨c, more, htext, hc, hread⟩ := classItem_printItem (hw item (by simp))
      have hclose : c ≠ ']' := by
        rintro rfl
        simp at hc
      -- a dash behind the item would be read as the middle of a range
      have hdash : Stops (· == '-') (items.flatMap Node.printItem ++ ']' :: rest) := by
        refine stops_printItems hothers ?_ (by simp)
        intro d hd
        rw [beq_eq_false_iff_ne]
        rintro rfl
        simp at hd
      rw [List.flatMap_cons, htext, List.append_assoc, List.cons_append, classItems,
        if_neg hclose, hread _ _ _ hdash]
      simp only [bind, Except.bind, List.drop_left, ih hothers, pure, Except.pure,
        List.singleton_append, List.length_append, List.length_cons, List.length_nil]
      congr 2
      omega

theorem characterClass_print {items : List Node} (hw : ∀ item ∈ items, item.WellFormedItem)
    (negative : Bool) (start : Nat) (rest : List Char) :
    characterClass start
        (((if negative then ['^'] else []) ++ items.flatMap Node.printItem ++ [']']) ++ rest) =
      .ok (.characterClass negative items,
        ((if negative then ['^'] else []) ++ items.flatMap Node.printItem ++ [']']).length) := by
  cases negative with
  | true =>
      unfold characterClass
      simp only [if_true, List.append_assoc, List.cons_append, List.nil_append,
        classItems_printItems hw, bind, Except.bind, pure, Except.pure, List.length_cons]
      congr 2
      omega
  | false =>
      -- a caret is printed with a backslash, so it does not negate the class
      have hcaret : Stops (· == '^') (items.flatMap Node.printItem ++ ']' :: rest) := by
        refine stops_printItems hw ?_ (by simp)
        intro d hd
        rw [beq_eq_false_iff_ne]
        rintro rfl
        simp at hd
      simp only [Bool.false_eq_true, if_false, List.append_assoc, List.nil_append,
        List.cons_append]
      unfold characterClass
      split
      · next heq =>
        rw [heq] at hcaret
        simp at hcaret
      · rw [classItems_printItems hw]
        rfl

/-! ### Tokens -/

namespace Token

def print : Token → List Char
  | bar => ['|']
  | opening opener => opener.text
  | closing => [')']
  | quantifier q => q.print
  | atom node => node.print

/-- In front of the rest, the text is read as the token. -/
def ReadFrom (token : Token) (text rest : List Char) : Prop :=
  ∃ c more, text = c :: more ∧ ∀ offset, read offset c (more ++ rest) = .ok (token, more.length)

theorem readFrom_opening {opener : Opener} (hw : opener.WellFormed) {rest : List Char}
    (hstops : (opening opener).StopsAt rest) : (opening opener).ReadFrom opener.text rest := by
  have hparen : ∀ more, opener.text = '(' :: more →
      (∀ offset, readOpening offset (more ++ rest) = .ok (opener, more.length)) →
      (opening opener).ReadFrom opener.text rest := by
    intro more htext hread
    refine ⟨'(', more, htext, fun offset => ?_⟩
    simp only [read, hread]
    rfl
  match opener, hw, hstops with
  | .plain, _, _ => exact hparen _ rfl fun _ => rfl
  | .look .lookahead, _, _ => exact hparen _ rfl fun _ => rfl
  | .look .negativeLookahead, _, _ => exact hparen _ rfl fun _ => rfl
  | .look .lookbehind, _, _ => exact hparen _ rfl fun _ => rfl
  | .look .negativeLookbehind, _, _ => exact hparen _ rfl fun _ => rfl
  | .capture none, _, hstops =>
      refine hparen [] rfl fun offset => ?_
      have hquestion : ∀ back, rest ≠ '?' :: back := by
        rintro back rfl
        simp [StopsAt] at hstops
      unfold readOpening
      split <;> first | exact absurd ‹_› (hquestion _) | rfl
  | .capture (some name), hw, _ =>
      refine hparen ('?' :: '<' :: (name.toList ++ ['>'])) rfl fun offset => ?_
      have hread := groupName?_eq_some_iff.2 ⟨hw, rest, rfl, rfl⟩
      -- no name begins like the rest of an opening that looks behind
      have hlook : ∀ c back, isNameStart c = false → name.toList ++ '>' :: rest ≠ c :: back := by
        obtain ⟨first, more, hname, hfirst, -⟩ := hw
        intro c back hc heq
        rw [hname, List.cons_append] at heq
        rw [(List.cons.inj heq).1, hc] at hfirst
        exact Bool.noConfusion hfirst
      simp only [List.cons_append, List.append_assoc, List.nil_append]
      unfold readOpening
      split
      case h_3 back heq => simp [hlook '=' back (by decide)] at heq
      case h_4 back heq => simp [hlook '!' back (by decide)] at heq
      case h_6 heq =>
        simp only [List.cons.injEq, true_and] at heq
        rw [← heq, hread]
        simp
      case h_1 heq | h_2 heq | h_5 heq => simp at heq
      case h_7 hnot heq => exact absurd (List.cons.inj heq).2.symm (hnot _)
      case h_8 hnot => exact absurd rfl (hnot _)

theorem readBrace_spells {bounds : Bounds} {text : List Char} (h : bounds.Spells text)
    {count : Quantifier.Count} (hcount : bounds.count? = some count) (offset : Nat)
    (s : List Char) :
    readBrace offset (text ++ s) = .ok (ofCount count text.length s) := by
  simp only [readBrace, bounds?_of_spells h, hcount, List.drop_left]

private theorem ofCount_print {q : Quantifier} {rest : List Char}
    (hstops : (quantifier q).StopsAt rest) (width : Nat) :
    ofCount q.count width ((if q.greedy then [] else ['?']) ++ rest) =
      (quantifier q, width + (if q.greedy then [] else ['?']).length) := by
  obtain ⟨count, greedy⟩ := q
  cases greedy with
  | false => rfl
  | true =>
      unfold ofCount
      split
      · next heq => 
        have hquestion := hstops rfl
        rw [show rest = _ from heq] at hquestion
        simp at hquestion
      · rfl

theorem readFrom_quantifier {q : Quantifier} (hw : q.count.WellFormed) {rest : List Char}
    (hstops : (quantifier q).StopsAt rest) : (quantifier q).ReadFrom q.print rest := by
  have hofCount := ofCount_print hstops
  have hbrace : ∀ (bounds : Bounds) (text : List Char), bounds.Spells text →
      bounds.count? = some q.count → q.count.print = '{' :: text →
      (quantifier q).ReadFrom q.print rest := by
    intro bounds text hspells hcount hprint
    refine ⟨'{', text ++ (if q.greedy then [] else ['?']), ?_, fun offset => ?_⟩
    · rw [Quantifier.print, hprint, List.cons_append]
    · rw [List.append_assoc, List.length_append, ← hofCount]
      exact readBrace_spells hspells hcount offset _
  have hone : ∀ c, q.count.print = [c] →
      (∀ offset s, read offset c s = .ok (ofCount q.count 0 s)) →
      (quantifier q).ReadFrom q.print rest := by
    intro c hprint hread
    refine ⟨c, if q.greedy then [] else ['?'], ?_, fun offset => ?_⟩
    · rw [Quantifier.print, hprint, List.singleton_append]
    · rw [hread, hofCount, Nat.zero_add]
  obtain ⟨count, greedy⟩ := q
  match count, hw with
  | .star, _ => exact hone '*' rfl fun _ _ => rfl
  | .plus, _ => exact hone '+' rfl fun _ _ => rfl
  | .optional, _ => exact hone '?' rfl fun _ _ => rfl
  | .exact n, hn =>
      have hn := writes_toDigits hn
      exact hbrace ⟨n, some n⟩ (Nat.toDigits 10 n ++ ['}']) (.once hn) (by simp [Bounds.count?]) rfl
  | .range min none, hmin =>
      have hmin := writes_toDigits hmin
      exact hbrace ⟨min, none⟩ (Nat.toDigits 10 min ++ [',', '}']) (.atLeast hmin) rfl rfl
  | .range min (some max), ⟨hlt, hmax⟩ =>
      have hlow := writes_toDigits (Nat.le_of_lt (Nat.lt_of_lt_of_le hlt hmax))
      have hcount : (⟨min, some max⟩ : Bounds).count? = some (.range min (some max)) := by
        simp [Bounds.count?, Nat.not_lt_of_lt hlt, Nat.ne_of_gt hlt]
      exact hbrace _ _ (.between hlow (writes_toDigits hmax)) hcount rfl

theorem readEscape_letter {letter : Char} (h : letter ∉ ['b', 'B', 'k']) (offset : Nat)
    (s : List Char) :
    readEscape offset (letter :: s) =
      if letter.isDigit && letter != '0' then
        .ok (.backreference (.number (decimalNumber (leadingDigits (letter :: s)))),
          (leadingDigits (letter :: s)).length)
      else
        match escape? letter s with
        | some (character, width) => .ok (.char character, width + 1)
        | none => .error ⟨offset, .invalidEscape⟩ := by
  unfold readEscape
  split
  case h_1 heq => exact List.noConfusion rfl (heq_of_eq heq)
  case h_2 heq | h_3 heq | h_4 heq => simp [(List.cons.inj heq).1] at h
  case h_5 heq =>
    obtain ⟨rfl, rfl⟩ := List.cons.inj heq
    rfl

theorem readFrom_escape {node : Node} {text rest : List Char}
    (hread : ∀ offset, readEscape offset (text ++ rest) = .ok (node, text.length)) :
    (atom node).ReadFrom ('\\' :: text) rest := by
  refine ⟨'\\', text, rfl, fun offset => ?_⟩
  simp only [read, hread]
  rfl

theorem readEscape_number {digits rest : List Char} {n : Nat} (h : Writes digits n)
    (h0 : digits.head? ≠ some '0') (hstops : Stops Char.isDigit rest) (offset : Nat) :
    readEscape offset (digits ++ rest) = .ok (.backreference (.number n), digits.length) := by
  have hlead := leadingDigits_append h.isDigit hstops
  obtain ⟨d, ds, rfl⟩ := List.exists_cons_of_ne_nil h.ne_nil
  have hd := h.isDigit d (by simp)
  have hletter : d ∉ ['b', 'B', 'k'] := by
    intro hmem
    fin_cases hmem <;> exact absurd hd (by decide)
  have hd0 : (d.isDigit && d != '0') = true := by simpa [hd] using h0
  rw [List.cons_append] at hlead ⊢
  rw [readEscape_letter hletter, if_pos hd0, hlead, h.value]

theorem readFrom_backreference {target : Backreference} (hw : target.WellFormed)
    {rest : List Char} (hstops : (atom (.backreference target)).StopsAt rest) :
    (atom (.backreference target)).ReadFrom target.print rest := by
  match target, hw, hstops with
  | .name name, hw, _ =>
      have hread := groupName?_eq_some_iff.2 ⟨hw, rest, rfl, rfl⟩
      refine readFrom_escape fun offset => ?_
      simp [readEscape, hread]
  | .number n, ⟨hone, hn⟩, hstops =>
      exact readFrom_escape fun offset =>
        readEscape_number (writes_toDigits hn) (head?_toDigits_ne_zero hone) hstops offset

theorem read_of_not_special {c : Char} (h : c ∉ specialCharacters false) (offset : Nat)
    (s : List Char) : read offset c s = .ok (.atom (.char (.simple c)), 0) := by
  unfold read
  split
  case h_13 => rfl
  all_goals simp [specialCharacters] at h

theorem readFrom_char {character : Character} (hw : character.WellFormed false)
    (rest : List Char) : (atom (.char character)).ReadFrom (character.print false) rest := by
  have h := Character.readFrom_print hw
  generalize character.print false = text at h
  cases h with
  | @bare c hc => exact ⟨c, [], rfl, fun offset => read_of_not_special hc offset rest⟩
  | dot h => exact ⟨'.', [], rfl, fun _ => rfl⟩
  | @escape _ letter text hread hletter =>
      obtain ⟨hbegins, hdigit⟩ := hletter rfl
      refine readFrom_escape fun offset => ?_
      have hd : ¬ (letter.isDigit && letter != '0') = true := by
        rw [Bool.and_eq_true, bne_iff_ne]
        exact fun h => h.2 (hdigit h.1)
      rw [List.cons_append, readEscape_letter hbegins, if_neg hd, hread]
      rfl

theorem readFrom_place {kind : AssertionKind} (h : kind.isLook = false) (rest : List Char) :
    (atom (.anchor kind)).ReadFrom kind.opening rest := by
  cases kind with
  | inputStart => exact ⟨'^', [], rfl, fun _ => rfl⟩
  | inputEnd => exact ⟨'$', [], rfl, fun _ => rfl⟩
  | wordBoundary => exact ⟨'\\', ['b'], rfl, fun _ => rfl⟩
  | nonWordBoundary => exact ⟨'\\', ['B'], rfl, fun _ => rfl⟩
  | _ => exact Bool.noConfusion h

theorem readFrom_characterClass {items : List Node} (hw : ∀ item ∈ items, item.WellFormedItem)
    (negative : Bool) (rest : List Char) :
    (atom (.characterClass negative items)).ReadFrom (Node.characterClass negative items).print
      rest := by
  refine ⟨'[', (if negative then ['^'] else []) ++ items.flatMap Node.printItem ++ [']'],
    by simp [Node.print], fun offset => ?_⟩
  simp only [read, characterClass_print hw]
  rfl

/-- A token is read back in front of every text at which it stops. -/
theorem readFrom_print {token : Token} (hw : token.WellFormed) {rest : List Char}
    (hstops : token.StopsAt rest) : token.ReadFrom token.print rest := by
  match token, hw, hstops with
  | bar, _, _ => exact ⟨'|', [], rfl, fun _ => rfl⟩
  | closing, _, _ => exact ⟨')', [], rfl, fun _ => rfl⟩
  | opening opener, hw, hstops => exact readFrom_opening hw hstops
  | quantifier q, hw, hstops => exact readFrom_quantifier hw hstops
  | atom (.char character), hw, _ => exact readFrom_char hw.2 rest
  | atom (.backreference target), hw, hstops => exact readFrom_backreference hw.2 hstops
  | atom (.characterClass negative items), hw, _ => exact readFrom_characterClass hw.2 negative rest
  | atom (.assertion kind body), ⟨hatom, hw⟩, _ =>
      have hkind : kind.isLook = false := by simpa [Node.isAtom] using hatom
      obtain rfl : body = none := by simpa [Node.WellFormed, hkind] using hw
      have hprint : (Node.assertion kind none).print = kind.opening := by
        simp [Node.print, hkind]
      rw [print, hprint]
      exact readFrom_place hkind rest

end Token

end PatternTemplate
