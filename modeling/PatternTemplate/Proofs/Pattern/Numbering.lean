import PatternTemplate.Proofs.Pattern.Marks
import PatternTemplate.Proofs.Pattern.Zone

/-!
# Capturing groups found by a scan

The capturing groups of a pattern can be counted without reading it: they are opened by the
parentheses outside of classes and escapes with no question mark behind them, or with one that
begins a name (`captureName?`). `Zone.captureNames` collects what such parentheses name, from left
to right. While a pattern is read, the names collected from all of it are those of the captures met
so far and those collected from the rest. So the capturing groups of the tree, in document order,
are numbered from one and have the names of the scan (`Regex.captures_of_ofPattern`).
-/

namespace PatternTemplate

open Text

/-- The name of the capturing group that a parenthesis in front of the text opens. A group may
capture without a name, and one with another question mark behind its parenthesis does not
capture. -/
def captureName? (s : List Char) : Option (Option String) :=
  match s with
  | '?' :: '<' :: rest =>
    if rest.head? = some '=' ∨ rest.head? = some '!' then none
    else some (some (String.ofList (rest.takeWhile (· != '>'))))
  | '?' :: _ => none
  | _ => some none

/-- The names of the capturing groups that are opened in a text at the place `offset`, from left to
right. -/
def Zone.captureNames (zone : Zone) (offset : Nat) : List Char → List (Option String)
  | [] => []
  | c :: rest =>
    (if zone = outside ∧ c = '(' then (captureName? rest).toList else []) ++
      (zone.next offset c).captureNames (offset + 1) rest

theorem Zone.captureNames_cons_of_ne {zone : Zone} {c : Char} (h : zone = outside → c ≠ '(')
    (offset : Nat) (rest : List Char) :
    zone.captureNames offset (c :: rest) =
      (zone.next offset c).captureNames (offset + 1) rest := by
  have hnot : ¬ (zone = outside ∧ c = '(') := fun hopen => h hopen.1 hopen.2
  rw [captureNames, if_neg hnot, List.nil_append]

theorem Zone.Passes.captureNames_append {zone last : Zone} {offset : Nat} {s : List Char}
    (h : zone.Passes offset s last) (rest : List Char) :
    zone.captureNames offset (s ++ rest) = last.captureNames (offset + s.length) rest := by
  induction h with
  | nil => rfl
  | cons hc _ ih =>
      rw [List.cons_append, captureNames_cons_of_ne fun hzone => (hc hzone).1, ih,
        List.length_cons, Nat.add_assoc, Nat.add_comm 1]

def Token.captureNames : Token → List (Option String)
  | opening (.capture name) => [name]
  | _ => []

/-- An opener that has been found captures if the scan says so, by the same name. -/
theorem Opener.captureName?_append {opener : Opener} {more rest : List Char}
    (htext : opener.text = '(' :: more) (hw : opener.WellFormed)
    (hstops : (Token.opening opener).StopsAt rest) :
    (captureName? (more ++ rest)).toList = (Token.opening opener).captureNames := by
  match opener, hw, hstops with
  | .plain, _, _ | .look .lookahead, _, _ | .look .negativeLookahead, _, _
  | .look .lookbehind, _, _ | .look .negativeLookbehind, _, _ =>
      obtain rfl := (List.cons.inj htext).2
      rfl
  | .capture none, _, hstops =>
      obtain rfl := (List.cons.inj htext).2
      rw [List.nil_append]
      unfold captureName?
      split
      · simp [Token.StopsAt] at hstops
      · simp [Token.StopsAt] at hstops
      · rfl
  | .capture (some name), hname, _ =>
      obtain rfl := (List.cons.inj htext).2
      -- the name ends at the bracket, and it begins with no mark of a group that looks behind
      have hchars : ∀ c ∈ name.toList, (c != '>') = true := by
        intro c hc
        rw [bne_iff_ne]
        rintro rfl
        exact absurd (IsGroupName.isNameChar hname '>' hc) (by decide)
      have hstop : Stops (· != '>') ('>' :: rest) := by simp
      have htake := takeWhile_append_of_stops hchars hstop
      obtain ⟨first, others, hfirst, hstart, -⟩ := hname
      have hequals : first ≠ '=' := by
        rintro rfl
        exact absurd hstart (by decide)
      have hbang : first ≠ '!' := by
        rintro rfl
        exact absurd hstart (by decide)
      have hname : String.ofList (first :: others) = name := by rw [← hfirst, String.ofList_toList]
      rw [hfirst] at htake
      rw [List.cons_append] at htake
      simp [captureName?, hfirst, hequals, hbang, htake, hname, Token.captureNames]

theorem Token.captureNames_append {token : Token} {offset : Nat} {text rest : List Char}
    (hcrosses : token.Crosses offset text) (hfound : token.Found text rest) :
    Zone.outside.captureNames offset (text ++ rest) =
      token.captureNames ++ Zone.outside.captureNames (offset + text.length) rest := by
  match token, hcrosses, hfound with
  | .bar, hpasses, _ | .quantifier _, hpasses, _ | .atom _, hpasses, _ =>
      exact hpasses.captureNames_append rest
  | .closing, htext, _ =>
      obtain rfl : text = [')'] := htext
      rfl
  | .opening opener, ⟨more, htext, hpasses⟩, hfound =>
      have hspells : text = opener.text := hfound.spells
      have hopener : opener.text = '(' :: more := hspells.symm.trans htext
      have hname := Opener.captureName?_append hopener hfound.wellFormed hfound.stops
      subst htext
      rw [List.cons_append, Zone.captureNames, if_pos ⟨rfl, rfl⟩, hname, List.length_cons]
      congr 1
      rw [show Zone.outside.next offset '(' = .outside from rfl, hpasses.captureNames_append,
        Nat.add_assoc, Nat.add_comm 1]

/-- A step adds the capture of the group that its token opens. -/
theorem Reading.Steps.gather_capture? {reading next : Reading} {offset : Nat} {token : Token}
    (h : reading.Steps offset token next) (hw : token.WellFormed) :
    (next.gather Node.capture?).map Capture.name =
      (reading.gather Node.capture?).map Capture.name ++ token.captureNames := by
  cases h with
  | bar =>
      rw [gather_bar Node.isMark_capture?]
      exact (List.append_nil _).symm
  | atom node =>
      rw [reading.gather_capture?_atom offset hw.1 hw.2]
      exact (List.append_nil _).symm
  | quantifier q hparts =>
      rw [gather_quantifier Node.isMark_capture? hparts]
      exact (List.append_nil _).symm
  | opening enclosure _ =>
      rw [gather_capture?_opened, List.map_append]
      match enclosure with
      | .look _ | .group none | .group (some _) => rfl
  | closing hgroups =>
      rw [gather_closing Node.isMark_capture? hgroups]
      exact (List.append_nil _).symm

def scannedNames (pattern : String) : List (Option String) :=
  Zone.outside.captureNames 0 pattern.toList

/-- As long as a pattern is read, a scan of all of it finds the captures that have been met and goes
on with the rest. -/
theorem Reading.scannedNames_of_run {pattern : String} {final : Reading}
    (h : Reading.run {} 0 pattern.toList = .ok final) :
    scannedNames pattern = (final.gather Node.capture?).map Capture.name := by
  have hstart : scannedNames pattern = (({} : Reading).gather Node.capture?).map Capture.name ++
      Zone.outside.captureNames ([] : List Char).length pattern.toList := rfl
  have hfinal := (run_invariant (P := fun reading front rest => scannedNames pattern =
    (reading.gather Node.capture?).map Capture.name ++
      Zone.outside.captureNames front.length rest) ?_ hstart).1 final h
  · rwa [Zone.captureNames, List.append_nil] at hfinal
  · intro reading next front more rest c token hnames hread hsteps
    have hfound := Token.found_of_read hread
    rw [hnames, Token.captureNames_append (Token.crosses_of_read hread) hfound,
      hsteps.gather_capture? hfound.wellFormed, List.append_assoc, List.length_append]

/-- The capturing groups of a pattern are as many as a scan finds. In document order they are
numbered from one and have the names that the scan finds. -/
theorem Regex.captures_of_ofPattern {pattern : String} {flags : Flags} {regex : Regex}
    (h : Regex.ofPattern pattern flags = .ok regex) :
    regex.captures = (scannedNames pattern).length ∧
      regex.groupCaptures.map Capture.number = List.range' 1 regex.captures ∧
        regex.groupCaptures.map Capture.name = scannedNames pattern := by
  obtain ⟨final, hfinal, rfl⟩ := ofPattern_eq_ok_iff_complete.1 h
  have htallied := hfinal.tallied
  rw [hfinal.groupCaptures, Reading.scannedNames_of_run hfinal.run, List.length_map]
  exact ⟨htallied.length_captures.symm, htallied.numbers, rfl⟩

def Regex.masked : String :=
  "([(\\]]\\(\\u\x7b(?<n>b))|(?=(c))(?<!d)(?:e)"

theorem Regex.captures_of_ofPattern_masked :
    ∃ regex, Regex.ofPattern masked = .ok regex ∧ regex.captures = 3 ∧
      regex.groupCaptures.map Capture.name = [none, some "n", none] := by
  have hread : (Regex.ofPattern masked).toOption.isSome = true := by decide +kernel
  have hscan : scannedNames masked = [none, some "n", none] := by decide +kernel
  obtain ⟨regex, hregex⟩ := Option.isSome_iff_exists.1 hread
  have h := eq_ok_of_toOption_eq_some hregex
  obtain ⟨hcaptures, -, hnames⟩ := Regex.captures_of_ofPattern h
  rw [hscan] at hcaptures hnames
  exact ⟨regex, h, hcaptures, hnames⟩

end PatternTemplate
