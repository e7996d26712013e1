import PatternTemplate.Proofs.Pattern.Lexeme
import PatternTemplate.Template.Basic

/-!
# Literals, patterns and flags

A literal can be taken apart in one way only: flags hold no slash, so the slash in front of them is
the last one (`splitLiteral?_eq_some_iff`). Of a pattern and flags, the flags are looked at first;
if they are in order, what happens is what happens to the pattern without flags
(`Regex.ofPattern_eq_map`), and neither the text of the template nor the error depends on them.
-/

namespace PatternTemplate

open Text

/-- The literal is written with the pattern between two slashes and the flags behind them. -/
structure IsLiteral (literal pattern flags : String) : Prop where
  eq : literal = "/" ++ pattern ++ "/" ++ flags
  ne_empty : pattern ≠ ""
  slash_not_mem : '/' ∉ flags.toList

theorem isLiteral_iff {literal pattern flags : String} :
    IsLiteral literal pattern flags ↔
      literal.toList = '/' :: (pattern.toList ++ '/' :: flags.toList) ∧ pattern.toList ≠ [] ∧
        '/' ∉ flags.toList := by
  have htext : literal = "/" ++ pattern ++ "/" ++ flags ↔
      literal.toList = '/' :: (pattern.toList ++ '/' :: flags.toList) := by
    rw [← String.toList_inj]
    simp
  have hne : pattern ≠ "" ↔ pattern.toList ≠ [] := by
    rw [ne_eq, ← String.toList_inj]
    rfl
  rw [← htext, ← hne]
  constructor
  · intro h
    exact ⟨h.eq, h.ne_empty, h.slash_not_mem⟩
  · rintro ⟨heq, hpattern, hflags⟩
    exact ⟨heq, hpattern, hflags⟩

theorem takeWhile_reverse_slash (front : List Char) {back : List Char} (h : '/' ∉ back) :
    (front ++ '/' :: back).reverse.takeWhile (· != '/') = back.reverse ∧
      (front ++ '/' :: back).reverse.dropWhile (· != '/') = '/' :: front.reverse := by
  have hback : ∀ c ∈ back.reverse, (c != '/') = true := by
    intro c hc
    rw [bne_iff_ne]
    rintro rfl
    exact h (List.mem_reverse.1 hc)
  have hreverse : (front ++ '/' :: back).reverse = back.reverse ++ '/' :: front.reverse := by simp
  rw [hreverse]
  constructor
  · exact takeWhile_append_of_stops hback (stops_cons_iff.2 (by decide))
  · rw [List.dropWhile_append_of_pos hback]
    rfl

theorem splitLiteral?_eq_some_iff {literal pattern flags : String} :
    splitLiteral? literal = some (pattern, flags) ↔ IsLiteral literal pattern flags := by
  rw [isLiteral_iff]
  constructor
  · intro h
    unfold splitLiteral? at h
    split at h
    · next rest hliteral =>
      dsimp only at h
      -- read backwards, the flags are the run up to the last slash
      have hrest : rest.reverse.takeWhile (· != '/') ++ rest.reverse.dropWhile (· != '/') =
          rest.reverse := List.takeWhile_append_dropWhile
      have hnone : '/' ∉ rest.reverse.takeWhile (· != '/') := fun hmem =>
        absurd (List.all_eq_true.1 List.all_takeWhile _ hmem) (by decide)
      generalize rest.reverse.takeWhile (· != '/') = back at h hrest hnone
      split at h
      · next c cs hlast =>
        obtain ⟨rfl, rfl⟩ := Prod.mk.inj (Option.some.inj h)
        rw [hlast, eq_comm, List.reverse_eq_append_iff] at hrest
        simp only [String.toList_ofList, hliteral, hrest]
        refine ⟨by simp, by simp, ?_⟩
        rwa [List.mem_reverse]
      · cases h
    · cases h
  · rintro ⟨hliteral, hne, hnone⟩
    obtain ⟨htake, hdrop⟩ := takeWhile_reverse_slash pattern.toList hnone
    obtain ⟨c, cs, hcs⟩ : ∃ c cs, pattern.toList.reverse = c :: cs :=
      List.exists_cons_of_ne_nil (by simpa using hne)
    have hpattern : (c :: cs).reverse = pattern.toList := by rw [← hcs, List.reverse_reverse]
    unfold splitLiteral?
    rw [hliteral]
    simp only [htake, hdrop, hcs, hpattern, List.reverse_reverse, String.ofList_toList]

theorem splitLiteral?_eq_none_iff {literal : String} :
    splitLiteral? literal = none ↔ ∀ pattern flags, ¬ IsLiteral literal pattern flags := by
  simp [Option.eq_none_iff_forall_ne_some, splitLiteral?_eq_some_iff]

namespace Regex

/-- Flags take no part in the reading of a pattern. -/
theorem ofPattern_eq_map (pattern : String) (flags : Flags) :
    ofPattern pattern flags = (ofPattern pattern).map fun regex => { regex with flags } := by
  unfold ofPattern
  cases Reading.run {} 0 pattern.toList with
  | error error => rfl
  | ok final =>
      change (do return ⟨← final.finish, flags, final.captures⟩ : Except SyntaxError Regex) =
        (do return ⟨← final.finish, {}, final.captures⟩ : Except SyntaxError Regex).map _
      cases final.finish with
      | error error => rfl
      | ok body => rfl

theorem parse_of_flags {pattern flags : String} {set : Flags} (h : Flags.parse flags = .ok set) :
    parse pattern flags =
      ((ofPattern pattern).map fun regex => { regex with flags := set }).mapError .pattern := by
  rw [← ofPattern_eq_map]
  unfold parse
  rw [h]
  rfl

theorem parse_of_flagError {pattern flags : String} {error : FlagError}
    (h : Flags.parse flags = .error error) : parse pattern flags = .error (.flags error) := by
  unfold parse
  rw [h]
  rfl

theorem render_flags (regex : Regex) (flags : Flags) (mode : Mode) :
    { regex with flags := flags }.render mode = regex.render mode := rfl

end Regex

namespace Template

theorem make_eq_map (pattern flags : String) (mode : Mode) :
    make pattern flags mode =
      (Regex.parse pattern flags).map fun regex => ⟨pattern, regex.flags, mode, regex.render mode⟩ := by
  unfold make
  cases Regex.parse pattern flags with
  | error error => rfl
  | ok regex => rfl

/-- There is at most one way to write a string as a literal. If there is one, the literal stands for
its pattern with its flags; if there is none, it is malformed. A pattern with flags is refused for
the flags first. With flags in order it is refused where and why the pattern alone is, and else it
has the tree and the captures of the pattern alone and the same template. -/
theorem make_agrees :
    (∀ literal pattern flags pattern' flags' : String, IsLiteral literal pattern flags →
      IsLiteral literal pattern' flags' → pattern = pattern' ∧ flags = flags') ∧
    (∀ literal pattern flags : String, IsLiteral literal pattern flags →
      Regex.ofLiteral literal = Regex.parse pattern flags ∧
        ∀ mode, ofLiteral literal mode = make pattern flags mode) ∧
    (∀ literal : String, (∀ pattern flags, ¬ IsLiteral literal pattern flags) →
      Regex.ofLiteral literal = .error .malformedLiteral ∧
        ∀ mode, ofLiteral literal mode = .error .malformedLiteral) ∧
    (∀ (pattern flags : String) (error : FlagError), Flags.parse flags = .error error →
      Regex.parse pattern flags = .error (.flags error) ∧
        ∀ mode, make pattern flags mode = .error (.flags error)) ∧
    (∀ (pattern flags : String) (set : Flags), Flags.parse flags = .ok set →
      (∀ error, Regex.ofPattern pattern = .error error →
        Regex.parse pattern flags = .error (.pattern error) ∧
          ∀ mode, convert pattern mode = .error error ∧
            make pattern flags mode = .error (.pattern error)) ∧
      (∀ regex, Regex.ofPattern pattern = .ok regex →
        Regex.parse pattern flags = .ok ⟨regex.body, set, regex.captures⟩ ∧
          ∀ mode, ∃ text, convert pattern mode = .ok text ∧
            Regex.render mode ⟨regex.body, set, regex.captures⟩ = text ∧
            make pattern flags mode = .ok ⟨pattern, set, mode, text⟩)) ∧
    (∀ pattern : String, ofPattern pattern =
      ((convert pattern default).map fun text => ⟨pattern, {}, default, text⟩).mapError
        .pattern) := by
  refine ⟨?_, ?_, ?_, ?_, ?_, ?_⟩
  · intro literal pattern flags pattern' flags' h h'
    rw [← splitLiteral?_eq_some_iff] at h h'
    exact Prod.mk.inj (Option.some.inj (h.symm.trans h'))
  · intro literal pattern flags h
    have hsplit := splitLiteral?_eq_some_iff.2 h
    refine ⟨?_, fun mode => ?_⟩
    · rw [Regex.ofLiteral, hsplit]
    · rw [ofLiteral, hsplit]
  · intro literal h
    have hsplit := splitLiteral?_eq_none_iff.2 h
    refine ⟨?_, fun mode => ?_⟩
    · rw [Regex.ofLiteral, hsplit]
    · rw [ofLiteral, hsplit]
  · intro pattern flags error h
    have hparse : Regex.parse pattern flags = .error (.flags error) := Regex.parse_of_flagError h
    refine ⟨hparse, fun mode => ?_⟩
    rw [make_eq_map, hparse]
    rfl
  · -- with flags in order the pattern decides
    intro pattern flags set h
    constructor
    · intro error hpattern
      have hparse : Regex.parse pattern flags = .error (.pattern error) := by
        rw [Regex.parse_of_flags h, hpattern]
        rfl
      refine ⟨hparse, fun mode => ⟨?_, ?_⟩⟩
      · rw [convert, hpattern]
        rfl
      · rw [make_eq_map, hparse]
        rfl
    · intro regex hpattern
      have hparse : Regex.parse pattern flags = .ok ⟨regex.body, set, regex.captures⟩ := by
        rw [Regex.parse_of_flags h, hpattern]
        rfl
      refine ⟨hparse, fun mode => ⟨regex.render mode, ?_, Regex.render_flags regex set mode, ?_⟩⟩
      · rw [convert, hpattern]
        rfl
      · rw [make_eq_map, hparse]
        rfl
  · intro pattern
    have hset : Flags.parse "" = .ok {} := rfl
    rw [ofPattern, make_eq_map, Regex.parse_of_flags hset, convert]
    cases Regex.ofPattern pattern with
    | error error => rfl
    | ok regex => rfl

def slashed : Node :=
  .alternative [.char (.simple 'a'), .char (.simple '/'),
    .group (some ⟨1, none⟩) (some (.char (.simple 'b')))]

theorem make_agrees_slashes :
    IsLiteral "/a/(b)/gi" "a/(b)" "gi" ∧
    ofLiteral "/a/(b)/gi" .plain = make "a/(b)" "gi" .plain ∧
    make "a/(b)" "gi" .plain =
      .ok ⟨"a/(b)", { global := true, ignoreCase := true }, .plain, "a/1"⟩ ∧
    ofLiteral "//g" .plain = .error .malformedLiteral ∧
    make "(" "gg" .plain = .error (.flags (.duplicate 'g')) ∧
    make "(" "gi" .plain = .error (.pattern ⟨0, .unterminatedGroup⟩) := by
  obtain ⟨-, hliteral, hmalformed, hflags, hpattern, -⟩ := make_agrees
  have hsplit : IsLiteral "/a/(b)/gi" "a/(b)" "gi" :=
    splitLiteral?_eq_some_iff.1 (by decide +kernel)
  have hnone : ∀ pattern flags, ¬ IsLiteral "//g" pattern flags :=
    splitLiteral?_eq_none_iff.1 (by decide +kernel)
  have hset : Flags.parse "gi" = .ok { global := true, ignoreCase := true } := by decide +kernel
  have hread : Regex.ofPattern "a/(b)" = .ok ⟨some slashed, {}, 1⟩ := by decide +kernel
  have hopen : Regex.ofPattern "(" = .error ⟨0, .unterminatedGroup⟩ := by decide +kernel
  obtain ⟨-, hsame⟩ := hliteral _ _ _ hsplit
  obtain ⟨-, hbad⟩ := hmalformed _ hnone
  obtain ⟨-, htwice⟩ := hflags "(" "gg" (.duplicate 'g') (by decide +kernel)
  obtain ⟨-, hrefused⟩ := (hpattern "(" "gi" _ hset).1 _ hopen
  obtain ⟨-, hmade⟩ := (hpattern "a/(b)" "gi" _ hset).2 _ hread
  obtain ⟨text, -, htext, hmake⟩ := hmade .plain
  obtain rfl : "a/1" = text := by
    rw [← htext]
    decide +kernel
  exact ⟨hsplit, hsame _, hmake, hbad _, htwice _, (hrefused _).2⟩

end Template

end PatternTemplate
