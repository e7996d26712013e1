import PatternTemplate.Proofs.Pattern.Shape
import PatternTemplate.Proofs.Template.Leaf
import PatternTemplate.Proofs.Template.Remains
import PatternTemplate.Template.Log

/-!
# The log traces the conversion

A record is a line of text, and what it says can be checked against the records before it and
against the template. A record of a request for copies says how many are left: those of the limit
that the records before do not report as made (`LogRecord.copiesReported`), less its own. A record
of a section says which markers the section has, and the sections are reported in the order in
which they end (`Piece.sections`). Both follow from the events of outlining. The events are a
ledger, so the copies they report add up, and a row is closed after everything in it. A class
leaves no event: its items are characters and ranges.
-/

namespace PatternTemplate

open Text

def Text.behind? (front s : List Char) : Option (List Char) :=
  if front.isPrefixOf s then some (s.drop front.length) else none

theorem Text.behind?_append (front rest : List Char) :
    behind? front (front ++ rest) = some rest := by
  have hfront : front.isPrefixOf (front ++ rest) = true :=
    List.isPrefixOf_iff_prefix.2 (List.prefix_append front rest)
  rw [behind?, if_pos hfront, List.drop_left]

theorem Text.behind?_eq_none {c : Char} {front s : List Char} (h : s.head? ≠ some c) :
    behind? (c :: front) s = none := by
  have hfront : ¬ (c :: front).isPrefixOf s = true := by
    rw [List.isPrefixOf_iff_prefix]
    rintro ⟨rest, rfl⟩
    exact h rfl
  exact if_neg hfront

/-! ### Records -/

namespace LogRecord

def expanding (count left : Nat) : LogRecord :=
  ⟨.trace, s!"Expanding fixed repetition into {count} copies ({left} left)"⟩

def keeping (count left : Nat) : LogRecord :=
  ⟨.warn, s!"Not expanding repetition of {count} copies ({left} of {copyLimit} " ++
    "left), rendering it once"⟩

def wrapping (first last : String) : LogRecord :=
  ⟨.trace, s!"Wrapping alternative in {first}...{last}"⟩

def copies (record : LogRecord) : Nat :=
  match behind? "Expanding fixed repetition into ".toList record.message.toList with
  | some rest => numeralValue 10 (leadingDigits rest)
  | none => 0

def copiesReported : List LogRecord → Nat
  | [] => 0
  | record :: log => record.copies + copiesReported log

@[simp] theorem copiesReported_nil : copiesReported [] = 0 := rfl

@[simp] theorem copiesReported_cons (record : LogRecord) (log : List LogRecord) :
    copiesReported (record :: log) = record.copies + copiesReported log := rfl

def isWrapping (record : LogRecord) : Bool :=
  (behind? "Wrapping alternative in ".toList record.message.toList).isSome

/-- The first character of a record tells what the record is about. -/
def initial (record : LogRecord) : Option Char :=
  record.message.toList.head?

variable {record : LogRecord}

theorem toList_expanding (count left : Nat) :
    (expanding count left).message.toList =
      "Expanding fixed repetition into ".toList ++ (Nat.toDigits 10 count ++
        (" copies (".toList ++ (Nat.toDigits 10 left ++ " left)".toList))) := by
  simp only [expanding, String.toList_append, List.append_assoc, Nat.toList_repr, toString]

theorem toList_keeping (count left : Nat) :
    (keeping count left).message.toList =
      "Not expanding repetition of ".toList ++ (Nat.toDigits 10 count ++
        (" copies (".toList ++ (Nat.toDigits 10 left ++
          " of 1024 left), rendering it once".toList))) := by
  simp only [keeping, String.toList_append, List.append_assoc, Nat.toList_repr, toString]
  rfl

theorem toList_wrapping (first last : String) :
    (wrapping first last).message.toList =
      "Wrapping alternative in ".toList ++ (first.toList ++ ("...".toList ++ last.toList)) := by
  simp only [wrapping, String.toList_append, List.append_assoc, toString]

@[simp] theorem initial_expanding (count left : Nat) :
    (expanding count left).initial = some 'E' := by
  rw [initial, toList_expanding]
  rfl

@[simp] theorem initial_keeping (count left : Nat) : (keeping count left).initial = some 'N' := by
  rw [initial, toList_keeping]
  rfl

@[simp] theorem initial_wrapping (first last : String) :
    (wrapping first last).initial = some 'W' := by
  rw [initial, toList_wrapping]
  rfl

@[simp] theorem copies_expanding (count left : Nat) : (expanding count left).copies = count := by
  have hstops : Stops Char.isDigit
      (" copies (".toList ++ (Nat.toDigits 10 left ++ " left)".toList)) :=
    stops_of_head? rfl (by decide)
  rw [copies, toList_expanding, behind?_append]
  simp only [leadingDigits_append (fun _ => isDigit_of_mem_toDigits) hstops, numeralValue_toDigits]

theorem copies_eq_zero (h : record.initial ≠ some 'E') : record.copies = 0 := by
  have hnone : behind? "Expanding fixed repetition into ".toList record.message.toList = none :=
    behind?_eq_none h
  rw [copies, hnone]

theorem isWrapping_wrapping (first last : String) : (wrapping first last).isWrapping = true := by
  rw [isWrapping, toList_wrapping, behind?_append]
  rfl

theorem isWrapping_eq_false (h : record.initial ≠ some 'W') : record.isWrapping = false := by
  have hnone : behind? "Wrapping alternative in ".toList record.message.toList = none :=
    behind?_eq_none h
  rw [isWrapping, hnone]
  rfl

/-- Records of the same wording with the same text have the same numbers. -/
private theorem numbers_inj {count left count' left' : Nat} {front last : List Char}
    (hlast : last.head? = some ' ')
    (h : front ++ (Nat.toDigits 10 count ++
        (" copies (".toList ++ (Nat.toDigits 10 left ++ last))) =
      front ++ (Nat.toDigits 10 count' ++
        (" copies (".toList ++ (Nat.toDigits 10 left' ++ last)))) :
    count = count' ∧ left = left' := by
  have hmiddle : ∀ rest, Stops Char.isDigit (" copies (".toList ++ rest) :=
    fun rest => stops_of_head? rfl (by decide)
  have hstops : Stops Char.isDigit last := stops_of_head? hlast (by decide)
  obtain ⟨hcount, hrest⟩ :=
    toDigits_append_inj (hmiddle _) (hmiddle _) (List.append_cancel_left h)
  obtain ⟨hleft, -⟩ := toDigits_append_inj hstops hstops (List.append_cancel_left hrest)
  exact ⟨hcount, hleft⟩

theorem expanding_inj {count left count' left' : Nat}
    (h : expanding count left = expanding count' left') : count = count' ∧ left = left' := by
  have hmessage := congrArg (String.toList ∘ message) h
  simp only [Function.comp_apply, toList_expanding] at hmessage
  exact numbers_inj rfl hmessage

theorem keeping_inj {count left count' left' : Nat}
    (h : keeping count left = keeping count' left') : count = count' ∧ left = left' := by
  have hmessage := congrArg (String.toList ∘ message) h
  simp only [Function.comp_apply, toList_keeping] at hmessage
  exact numbers_inj rfl hmessage

/-! ### Requests for copies -/

/-- What the record says of the copies that are left is true after so many copies were made. -/
structure TrueAfter (made : Nat) (record : LogRecord) : Prop where
  expanding : ∀ count left, record = .expanding count left → left + (made + count) = copyLimit
  keeping : ∀ count left, record = .keeping count left → left + made = copyLimit ∧ left < count

theorem trueAfter_expanding {made count left : Nat} (h : left + (made + count) = copyLimit) :
    (expanding count left).TrueAfter made where
  expanding count' left' hrecord := by
    obtain ⟨rfl, rfl⟩ := expanding_inj hrecord
    exact h
  keeping count' left' hrecord := by
    have hinitial := congrArg initial hrecord
    simp at hinitial

theorem trueAfter_keeping {made count left : Nat} (h : left + made = copyLimit)
    (hlt : left < count) : (keeping count left).TrueAfter made where
  expanding count' left' hrecord := by
    have hinitial := congrArg initial hrecord
    simp at hinitial
  keeping count' left' hrecord := by
    obtain ⟨rfl, rfl⟩ := keeping_inj hrecord
    exact ⟨h, hlt⟩

theorem trueAfter_of_initial (made : Nat) (hexpanding : record.initial ≠ some 'E')
    (hkeeping : record.initial ≠ some 'N') : record.TrueAfter made := by
  constructor
  · rintro count left rfl
    exact absurd (initial_expanding count left) hexpanding
  · rintro count left rfl
    exact absurd (initial_keeping count left) hkeeping

/-- Each record of a log is true after the copies that the ones before it report, and so many that
were made before the log. -/
def Tallies : Nat → List LogRecord → Prop
  | _, [] => True
  | made, record :: log => record.TrueAfter made ∧ Tallies (made + record.copies) log

@[simp] theorem tallies_nil (made : Nat) : Tallies made [] := trivial

@[simp] theorem tallies_cons {made : Nat} {log : List LogRecord} :
    Tallies made (record :: log) ↔ record.TrueAfter made ∧ Tallies (made + record.copies) log :=
  Iff.rfl

theorem tallies_append {made : Nat} {front back : List LogRecord} :
    Tallies made (front ++ back) ↔
      Tallies made front ∧ Tallies (made + copiesReported front) back := by
  induction front generalizing made with
  | nil => simp
  | cons record front ih => simp [ih, Nat.add_assoc, and_assoc]

theorem Tallies.trueAfter {made : Nat} {before after : List LogRecord}
    (h : Tallies made (before ++ record :: after)) :
    record.TrueAfter (made + copiesReported before) :=
  (tallies_cons.1 (tallies_append.1 h).2).1

/-! ### Records of other things -/

/-- The record reports no event of outlining. -/
structure IsOther (record : LogRecord) : Prop where
  expanding : record.initial ≠ some 'E'
  keeping : record.initial ≠ some 'N'
  wrapping : record.initial ≠ some 'W'

/-- A record is told from those of the events by the first character of its text. -/
theorem isOther_append {level : LogLevel} {front rest : String} {c : Char}
    (h : front.toList.head? = some c) (hc : c ∉ ['E', 'N', 'W']) :
    IsOther ⟨level, front ++ rest⟩ := by
  have hinitial : initial ⟨level, front ++ rest⟩ = some c := by
    rw [initial, String.toList_append, List.head?_append, h]
    rfl
  simp only [List.mem_cons, List.not_mem_nil, or_false, not_or] at hc
  constructor <;> simp [hinitial, hc]

section Others

variable {log : List LogRecord} (h : ∀ record ∈ log, record.IsOther)

include h

theorem copiesReported_of_isOther : copiesReported log = 0 := by
  induction log with
  | nil => rfl
  | cons record log ih =>
      obtain ⟨hrecord, hlog⟩ := List.forall_mem_cons.1 h
      rw [copiesReported_cons, copies_eq_zero hrecord.expanding, ih hlog]

theorem filter_isWrapping_of_isOther : log.filter isWrapping = [] := by
  rw [List.filter_eq_nil_iff]
  intro record hrecord
  simp [isWrapping_eq_false (h record hrecord).wrapping]

theorem tallies_of_isOther (made : Nat) : Tallies made log := by
  induction log generalizing made with
  | nil => trivial
  | cons record log ih =>
      obtain ⟨hrecord, hlog⟩ := List.forall_mem_cons.1 h
      exact ⟨trueAfter_of_initial made hrecord.expanding hrecord.keeping, ih hlog _⟩

end Others

end LogRecord

/-- The events of a ledger are reported with the copies that were left, if the ledger starts with
those that the copies made before have left. -/
theorem Ledger.tallies {before after : Nat} {events : List Event} (h : Ledger before events after)
    (mode : Mode) {made : Nat} (hmade : before + made = copyLimit) :
    LogRecord.Tallies made (events.filterMap (Event.record? mode)) := by
  induction h generalizing made with
  | nil => trivial
  | @expanded before count left after events hsum _ ih =>
      -- the copies of this expansion count for the records behind it
      have hleft : left + (made + count) = copyLimit := by omega
      change LogRecord.Tallies made (.expanding count left :: events.filterMap (Event.record? mode))
      rw [LogRecord.tallies_cons, LogRecord.copies_expanding]
      exact ⟨LogRecord.trueAfter_expanding hleft, ih hleft⟩
  | @kept count left after events hlt _ ih =>
      have hnone : (LogRecord.keeping count left).copies = 0 := LogRecord.copies_eq_zero (by simp)
      change LogRecord.Tallies made (.keeping count left :: events.filterMap (Event.record? mode))
      rw [LogRecord.tallies_cons, hnone]
      exact ⟨LogRecord.trueAfter_keeping hmade hlt, ih hmade⟩
  | @headed identity before after events _ ih =>
      cases mode with
      | plain => exact ih hmade
      | mustache =>
          have hnone : ∀ first last, (LogRecord.wrapping first last).copies = 0 :=
            fun first last => LogRecord.copies_eq_zero (by simp)
          change LogRecord.Tallies made
            (.wrapping _ _ :: events.filterMap (Event.record? .mustache))
          rw [LogRecord.tallies_cons, hnone]
          exact ⟨LogRecord.trueAfter_of_initial made (by simp) (by simp), ih hmade⟩

/-! ### Sections -/

/-- The identities at the two ends of each section among the pieces, in the order in which the
sections end. The list holds the identities of sections that are not at their end yet, the innermost
one first. -/
def Piece.sections : List String → List Piece → List (String × String)
  | _, [] => []
  | begun, .opening identity :: pieces => sections (identity :: begun) pieces
  | first :: begun, .closing last :: pieces => (first, last) :: sections begun pieces
  | begun, _ :: pieces => sections begun pieces

def Event.headed? : Event → Option String
  | headed identity => some identity
  | _ => none

def Node.items? : Node → Option (List Node)
  | characterClass _ items => some items
  | _ => none

namespace Node

theorem mem_of_mem_gatherList_replicate {α : Type} {f : Node → Option α} {n : Nat} {node : Node}
    {a : α} (h : a ∈ gatherList f (List.replicate n node)) : a ∈ gather f node := by
  induction n with
  | zero => cases h
  | succ n ih =>
      rw [List.replicate_succ, gatherList_cons, List.mem_append] at h
      exact h.elim id ih

end Node

namespace Outline

open Node

/-- Items of a class are outlined without an event. -/
theorem Remains.noted_eq_nil {items : List Node} {noted : List Event} {outlines : List Outline}
    (h : Remains items noted outlines) (hitems : ∀ item ∈ items, item.WellFormedItem) :
    noted = [] := by
  induction h with
  | nil | char | backreference | nothing | hole => rfl
  | append _ _ ihfront ihback =>
      rw [List.forall_mem_append] at hitems
      rw [ihfront hitems.1, ihback hitems.2, List.append_nil]
  | characterClass | group | expanded | kept | unfixed | row | headed | disjunction =>
      exact absurd (hitems _ List.mem_cons_self) id

/-- The sections of what remains are those whose completion was noted, in the same order, if the
classes have no sections. -/
theorem Remains.sections {nodes : List Node} {noted : List Event} {outlines : List Outline}
    (h : Remains nodes noted outlines)
    (hitems : ∀ items ∈ gatherList items? nodes, ∀ item ∈ items, item.WellFormedItem)
    (begun : List String) (rest : List Piece) :
    Piece.sections begun (piecesList false outlines ++ rest) =
      (noted.filterMap Event.headed?).map (fun identity => (identity, identity)) ++
        Piece.sections begun rest := by
  induction h generalizing begun rest with
  | nil => rfl
  | append _ _ ihfront ihback =>
      rw [gatherList_append, List.forall_mem_append] at hitems
      rw [piecesList_append, List.append_assoc, ihfront hitems.1, ihback hitems.2]
      simp
  | char | backreference | nothing | hole => simp [pieces, Piece.sections]
  | @characterClass items noted outlines h ih =>
      rw [gatherList_singleton] at hitems
      -- a class may not hold sections, or else they would be noted and not be shown
      obtain rfl : noted = [] := h.noted_eq_nil (hitems items (by simp [items?]))
      simp [pieces]
  | group _ ih =>
      rw [gatherList_singleton] at hitems
      simpa [pieces] using ih hitems begun rest
  | @expanded body quantifier n left noted outlines hcount h ih =>
      rw [gatherList_singleton] at hitems
      -- copies have the classes of the body and no others
      have hcopies : ∀ items ∈ gatherList items? (List.replicate n body),
          ∀ item ∈ items, item.WellFormedItem := by
        intro items hmem
        have hbody := mem_of_mem_gatherList_replicate hmem
        exact hitems items (by simpa [items?, children] using hbody)
      rw [List.filterMap_cons_none rfl]
      simpa [pieces] using ih hcopies begun rest
  | kept hcount hlt _ ih =>
      rw [gatherList_singleton] at hitems
      rw [List.filterMap_cons_none rfl]
      simpa [pieces] using ih hitems begun rest
  | unfixed hcount _ ih =>
      rw [gatherList_singleton] at hitems
      simpa [pieces] using ih hitems begun rest
  | row _ ih =>
      rw [gatherList_singleton] at hitems
      simpa [pieces] using ih hitems begun rest
  | @headed parts identity noted outlines _ _ ih =>
      rw [gatherList_singleton] at hitems
      -- the section ends behind the sections of its parts, and with the identity it began with
      have hparts := ih hitems (identity :: begun) (.closing identity :: rest)
      simpa [pieces, Piece.sections, Event.headed?] using hparts
  | disjunction _ ih =>
      have hbranches : ∀ side, gatherList items? ((branches side).map .alternative) =
          gatherOption items? side :=
        filterMap_walkList_branches (fun _ => ⟨rfl, rfl⟩) fun _ _ => ⟨rfl, rfl⟩
      rw [List.map_append, gatherList_append, hbranches, hbranches] at ih
      simp only [gatherList_cons, gatherList_nil, gather_disjunction, items?, Option.toList_none,
        List.nil_append, List.append_nil] at hitems
      simpa [pieces] using ih hitems begun rest

end Outline

theorem Node.WellFormedOption.wellFormedItem {place : Place} {body : Option Node}
    (h : WellFormedOption place body) :
    ∀ items ∈ gatherOption items? body, ∀ item ∈ items, item.WellFormedItem := by
  intro items hitems
  cases body with
  | none => cases hitems
  | some root =>
      obtain ⟨node, hnode, hclass⟩ := List.mem_filterMap.1 hitems
      cases node with
      | characterClass negative others =>
          obtain rfl : others = items := Option.some.inj hclass
          rcases WellFormed.of_mem_walk h hnode with ⟨place, hshape⟩ | hitem
          · exact hshape
          · exact hitem.elim
      | _ => cases hclass

def Mode.wrapping? (mode : Mode) (ends : String × String) : Option LogRecord := do
  let (first, _) ← mode.markers? ends.1
  let (_, last) ← mode.markers? ends.2
  return .wrapping first last

theorem Event.filter_isWrapping_record? (mode : Mode) (events : List Event) :
    (events.filterMap (Event.record? mode)).filter LogRecord.isWrapping =
      (events.filterMap Event.headed?).filterMap fun identity =>
        mode.wrapping? (identity, identity) := by
  have hexpanding : ∀ count left, (LogRecord.expanding count left).isWrapping = false :=
    fun count left => LogRecord.isWrapping_eq_false (by simp)
  have hkeeping : ∀ count left, (LogRecord.keeping count left).isWrapping = false :=
    fun count left => LogRecord.isWrapping_eq_false (by simp)
  induction events with
  | nil => rfl
  | cons event events ih =>
      cases event with
      | expanded count left =>
          change (LogRecord.expanding count left :: events.filterMap (record? mode)).filter _ = _
          rw [List.filter_cons_of_neg (by simp [hexpanding]), ih, List.filterMap_cons_none rfl]
      | kept count left =>
          change (LogRecord.keeping count left :: events.filterMap (record? mode)).filter _ = _
          rw [List.filter_cons_of_neg (by simp [hkeeping]), ih, List.filterMap_cons_none rfl]
      | headed identity =>
          cases mode with
          | plain => exact ih
          | mustache =>
              change (LogRecord.wrapping _ _ :: events.filterMap (record? .mustache)).filter _ =
                LogRecord.wrapping _ _ :: _
              rw [List.filter_cons_of_pos (LogRecord.isWrapping_wrapping _ _), ih]

namespace Regex

theorem sections_pieces {regex : Regex} (h : Node.WellFormedOption .body regex.body) :
    Piece.sections [] (regex.pieces false) =
      (regex.outline.2.events.toList.filterMap Event.headed?).map
        fun identity => (identity, identity) := by
  have hitems := h.wellFormedItem
  rw [← Node.gatherList_toList] at hitems
  have hsections := regex.remains_outline.1.sections hitems [] []
  rwa [List.append_nil, Outline.piecesList_toList, Piece.sections, List.append_nil] at hsections

/-- The records of the events stand between records of other things: how many groups there are and
whether the mode is known, and the template. -/
theorem exists_convertWithLog {pattern : String} {regex : Regex}
    (h : ofPattern pattern = .ok regex) (modeName : String) :
    ∃ front back : List LogRecord, (∀ record ∈ front, record.IsOther) ∧
      (∀ record ∈ back, record.IsOther) ∧
      convertWithLog pattern modeName = .ok (regex.render (Mode.ofName modeName),
        front ++ (regex.outline.2.events.toList.filterMap
          (Event.record? (Mode.ofName modeName)) ++ back)) := by
  refine ⟨⟨.trace, s!"Parsed {regex.captures} capture(s)"⟩ :: (Mode.unknownName? modeName).toList,
    [⟨.debug, s!"{(Mode.ofName modeName).name} template: " ++
      s!"{Text.quoted (regex.render (Mode.ofName modeName))}"⟩], ?_, ?_, ?_⟩
  · rw [List.forall_mem_cons]
    constructor
    · rw [String.append_assoc]
      exact LogRecord.isOther_append rfl (by decide)
    · intro record hrecord
      unfold Mode.unknownName? at hrecord
      split at hrecord
      · cases hrecord
      · obtain rfl := List.mem_singleton.1 hrecord
        rw [String.append_assoc, String.append_assoc]
        exact LogRecord.isOther_append rfl (by decide)
  · rw [List.forall_mem_singleton, String.append_assoc]
    cases Mode.ofName modeName with
    | mustache => exact LogRecord.isOther_append rfl (by decide)
    | plain => exact LogRecord.isOther_append rfl (by decide)
  · unfold convertWithLog
    rw [h]
    rfl

/-- The log of a conversion traces it. Each record of an expansion says what the limit is without
the copies reported up to then, its own included, and each record of a repetition that is kept says
what the limit is without the copies reported before, which is less than the repetition asks for.
The records of sections are those of the sections of the template, one for each, in the order in
which the sections end; in the plain mode there are none. -/
theorem convertWithLog_trace {pattern : String} {regex : Regex}
    (hregex : ofPattern pattern = .ok regex) (modeName : String) :
    ∃ log, convertWithLog pattern modeName =
        .ok (regex.render (Mode.ofName modeName), log) ∧
      (∀ before after count left, log = before ++ .expanding count left :: after →
        left + (LogRecord.copiesReported before + count) = copyLimit) ∧
      (∀ before after count left, log = before ++ .keeping count left :: after →
        left + LogRecord.copiesReported before = copyLimit ∧ left < count) ∧
      log.filter LogRecord.isWrapping =
        (Piece.sections [] (regex.pieces false)).filterMap (Mode.ofName modeName).wrapping? ∧
      (Mode.ofName modeName = .plain → log.filter LogRecord.isWrapping = []) ∧
      (regex.reduce (Mode.ofName modeName)).characters false =
        (regex.pieces false).filterMap (Piece.character? (Mode.ofName modeName)) ∧
      regex.render (Mode.ofName modeName) =
        String.join ((regex.pieces false).map (Piece.text (Mode.ofName modeName))) := by
  obtain ⟨front, back, hfront, hback, hconvert⟩ := exists_convertWithLog hregex modeName
  generalize Mode.ofName modeName = mode at hconvert ⊢
  -- the records around those of the events report no copies
  have htallies : LogRecord.Tallies 0
      (front ++ (regex.outline.2.events.toList.filterMap (Event.record? mode) ++ back)) := by
    rw [LogRecord.tallies_append, LogRecord.tallies_append,
      LogRecord.copiesReported_of_isOther hfront]
    exact ⟨LogRecord.tallies_of_isOther hfront 0, regex.remains_outline.2.tallies mode rfl,
      LogRecord.tallies_of_isOther hback _⟩
  have hwrapping : (front ++
      (regex.outline.2.events.toList.filterMap (Event.record? mode) ++ back)).filter
        LogRecord.isWrapping =
      (Piece.sections [] (regex.pieces false)).filterMap mode.wrapping? := by
    rw [List.filter_append, List.filter_append, LogRecord.filter_isWrapping_of_isOther hfront,
      LogRecord.filter_isWrapping_of_isOther hback, List.nil_append, List.append_nil,
      Event.filter_isWrapping_record?, sections_pieces (wellFormedOption_of_ofPattern hregex),
      List.filterMap_map]
    rfl
  refine ⟨_, hconvert, ?_, ?_, hwrapping, ?_, regex.characters_reduce false mode,
    regex.render_eq_join mode⟩
  · intro before after count left hlog
    rw [hlog] at htallies
    have htrue := htallies.trueAfter.expanding count left rfl
    rwa [Nat.zero_add] at htrue
  · intro before after count left hlog
    rw [hlog] at htallies
    have htrue := htallies.trueAfter.keeping count left rfl
    rwa [Nat.zero_add] at htrue
  · rintro rfl
    rw [hwrapping, List.filterMap_eq_nil_iff]
    exact fun ends _ => rfl

/-- A section in a section, twice, and more copies than are left then. -/
def nestedSections : Regex where
  body := some (.alternative [
    .repetition (.group none (some (.alternative [
      .group (some ⟨1, none⟩) (some (.char (.simple 'a'))),
      .group none (some (.alternative [
        .char (.simple 'b'), .group (some ⟨2, none⟩) (some (.char (.simple 'c')))]))])))
      ⟨.exact 2, true⟩,
    .repetition (.char (.simple 'd')) ⟨.exact 1023, true⟩])
  flags := {}
  captures := 2

theorem convertWithLog_trace_nestedSections :
    ofPattern "(?:(a)(?:b(c)))\x7b2\x7dd\x7b1023\x7d" = .ok nestedSections ∧
      ∃ log, convertWithLog "(?:(a)(?:b(c)))\x7b2\x7dd\x7b1023\x7d" "Mustache" =
          .ok (nestedSections.render .mustache, log) ∧
        .expanding 2 1022 ∈ log ∧ .keeping 1023 1022 ∈ log ∧
        log.filter LogRecord.isWrapping =
          [.wrapping "\x7b\x7b#2\x7d\x7d" "\x7b\x7b/2\x7d\x7d",
            .wrapping "\x7b\x7b#1\x7d\x7d" "\x7b\x7b/1\x7d\x7d",
            .wrapping "\x7b\x7b#2\x7d\x7d" "\x7b\x7b/2\x7d\x7d",
            .wrapping "\x7b\x7b#1\x7d\x7d" "\x7b\x7b/1\x7d\x7d"] := by
  have hread : ofPattern "(?:(a)(?:b(c)))\x7b2\x7dd\x7b1023\x7d" = .ok nestedSections :=
    eq_ok_of_toOption_eq_some (by decide +kernel)
  have hmem : ∀ result ∈ (convertWithLog "(?:(a)(?:b(c)))\x7b2\x7dd\x7b1023\x7d"
      "Mustache").toOption, .expanding 2 1022 ∈ result.2 ∧ .keeping 1023 1022 ∈ result.2 := by
    decide +kernel
  obtain ⟨log, hconvert, -, -, hwrapping, -⟩ := convertWithLog_trace hread "Mustache"
  obtain ⟨hexpanding, hkeeping⟩ := hmem (_, log) (by rw [hconvert]; rfl)
  have hmode : Mode.ofName "Mustache" = .mustache := Mode.ofName_name .mustache
  rw [hmode] at hconvert hwrapping
  refine ⟨hread, log, hconvert, hexpanding, hkeeping, ?_⟩
  rw [hwrapping]
  decide +kernel

end Regex

end PatternTemplate
