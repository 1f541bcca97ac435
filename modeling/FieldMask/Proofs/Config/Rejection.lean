import FieldMask.Failure
import FieldMask.Proofs.Config.Schema
import Mathlib.Tactic.ByContra
import Mathlib.Tactic.Push

/-!
# `FieldMask.Proofs.Config.Rejection`: why a configuration text is rejected

A text goes through three steps: it is read as JSON, its shape is checked, and its rules are
compiled. `Rejected` says which step rejects it and what the error is, and `parse_eq_error_iff` that
these are all the errors there are. The counts of the rules cannot fail any more when they are
compiled, because the shape has been checked before (`Rule.HasCount.trailingDigits`).

The errors of the first two steps begin with the source of the text. That of the third one does not:
it names the rule, and it is the same whatever the source is. So errors name their source exactly
for the texts in which every rule has a pattern (`errors_name_source_iff`).
-/

set_option autoImplicit false

namespace FieldMask.Config

/-- The text is JSON, once comments and trailing commas are taken out, and has the shape of a
configuration, which is this one. What source it comes from plays no part. -/
inductive Says (text : Text) (file : ConfigFile) : Prop where
  | mk {json : Json} (hjson : Json.parse .last (strip text) = .ok json)
      (hshape : ConfigFile.ofJson json = .ok file)

/-- The errors with which a text from a source is rejected, one case for each step that can fail:
the JSON, the shape and the patterns. A text is in at most one of these cases. -/
inductive Rejected (source text : Text) : ConfigError → Prop where
  /-- It is no JSON. -/
  | json {mistake : Json.ParseError} (h : Json.parse .last (strip text) = .error mistake) :
      Rejected source text (.invalidJson source mistake)
  /-- It is JSON of another shape. -/
  | shape {json : Json} {issue : Issue} (hjson : Json.parse .last (strip text) = .ok json)
      (h : ConfigFile.ofJson json = .error issue) :
      Rejected source text (.invalidShape source issue)
  /-- Of its rules this is the first one whose pattern is none. -/
  | pattern {file : ConfigFile} {before after : List Rule} {r : Rule}
      {mistake : Pattern.CompileError} (hfile : Says text file)
      (hrules : file.rules.getD [] = before ++ r :: after)
      (hbefore : ∀ q ∈ before, q.HasPattern)
      (h : Pattern.compile r.source ruleFlags = .error mistake) :
      Rejected source text (.invalidPattern r.id mistake)

/-! ### The rules -/

/-- A count that has passed the check of the shape is enough for a strategy, whatever fields it is
for. So a configuration that was read is never rejected for a count. -/
theorem Rule.HasCount.trailingDigits {r : Rule} (h : r.HasCount) (test : FieldTest) :
    ∃ s, Strategy.trailingDigits r.id test r.keep = .ok s := by
  unfold Strategy.trailingDigits
  cases hkeep : r.keep with
  | none => exact ⟨_, rfl⟩
  | some n =>
      obtain ⟨k, hk⟩ := h n hkeep
      simp only [hk]
      exact ⟨_, rfl⟩

/-- A rule with such a count is refused exactly if its pattern is none, and the error has the name
of the rule and the mistake in the pattern. -/
theorem Rule.compile_eq_error_iff {r : Rule} (hcount : r.HasCount) {e : ConfigError} :
    r.compile = .error e ↔
      ∃ mistake, Pattern.compile r.source ruleFlags = .error mistake ∧
        e = .invalidPattern r.id mistake := by
  cases hparse : Pattern.compile r.source ruleFlags with
  | error mistake =>
      rw [Rule.compile_of_error hparse]
      simp [eq_comm]
  | ok pattern =>
      obtain ⟨s, hs⟩ := hcount.trailingDigits (.matching pattern)
      rw [Rule.compile_of_ok hparse]
      simp only [hs, reduceCtorEq, false_and, exists_false, iff_false]
      exact nofun

/-- A rule has a pattern exactly if compiling it gives no error. This is the form in which the first
rule without one is looked for. -/
theorem Rule.hasPattern_iff {r : Rule} :
    r.HasPattern ↔ ∀ mistake, Pattern.compile r.source ruleFlags ≠ .error mistake := by
  unfold HasPattern
  cases Pattern.compile r.source ruleFlags with
  | error mistake => simp [Except.isOk, Except.toBool]
  | ok pattern => simp [Except.isOk, Except.toBool]

/-- Rules are refused with the error of the first one that is refused: all the rules before it have
patterns. By induction on the rules. -/
theorem compileRules_eq_error_iff {rules : List Rule} (hcounts : ∀ r ∈ rules, r.HasCount)
    {e : ConfigError} :
    compileRules rules = .error e ↔
      ∃ before r after mistake, rules = before ++ r :: after ∧ (∀ q ∈ before, q.HasPattern) ∧
        Pattern.compile r.source ruleFlags = .error mistake ∧
        e = .invalidPattern r.id mistake := by
  induction rules with
  | nil =>
      rw [compileRules]
      simp
  | cons r rest ih =>
      obtain ⟨hcount, hrest⟩ := List.forall_mem_cons.mp hcounts
      -- Either the first rule is refused, or it has a strategy and one of the others is.
      rw [compileRules, Result.bind_eq_error_iff, Rule.compile_eq_error_iff hcount]
      constructor
      · rintro (⟨mistake, hparse, rfl⟩ | ⟨s, hs, h⟩)
        · exact ⟨[], r, rest, mistake, rfl, List.forall_mem_nil _, hparse, rfl⟩
        -- A rule with a strategy has a pattern, or it would have been refused for that.
        · have hpattern : r.HasPattern := by
            rw [Rule.hasPattern_iff]
            intro mistake hparse
            have herror := (Rule.compile_eq_error_iff hcount).mpr ⟨mistake, hparse, rfl⟩
            rw [hs] at herror
            cases herror
          rcases Result.bind_eq_error_iff.mp h with herror | ⟨ss, -, h⟩
          · obtain ⟨before, q, after, mistake, rfl, hbefore, hparse, rfl⟩ := (ih hrest).mp herror
            exact ⟨r :: before, q, after, mistake, rfl,
              List.forall_mem_cons.mpr ⟨hpattern, hbefore⟩, hparse, rfl⟩
          · cases h
      · rintro ⟨before, q, after, mistake, hrules, hbefore, hparse, rfl⟩
        cases before with
        | nil =>
            obtain ⟨rfl, rfl⟩ := List.cons.inj hrules
            exact .inl ⟨mistake, hparse, rfl⟩
        | cons p before =>
            obtain ⟨rfl, rfl⟩ := List.cons.inj hrules
            obtain ⟨hpattern, hbefore⟩ := List.forall_mem_cons.mp hbefore
            obtain ⟨s, hs⟩ := Rule.compile_of_hasPattern hpattern hcount
            have herror := (ih hrest).mpr ⟨before, q, after, mistake, rfl, hbefore, hparse, rfl⟩
            exact .inr ⟨s, hs, Result.bind_eq_error_iff.mpr (.inl herror)⟩

/-! ### The text -/

section

variable {source text : Text}

/-- A text that is no JSON without its comments and trailing commas is rejected for that, and the
error begins with its source. -/
theorem parse_of_json_error {mistake : Json.ParseError}
    (hjson : Json.parse .last (strip text) = .error mistake) :
    parse source text = .error (.invalidJson source mistake) := by
  rw [parse, hjson]
  rfl

/-- A text that is JSON of another shape is rejected for the first issue with it, and the error
begins with its source, too. -/
theorem parse_of_shape_error {json : Json} {issue : Issue}
    (hjson : Json.parse .last (strip text) = .ok json)
    (hshape : ConfigFile.ofJson json = .error issue) :
    parse source text = .error (.invalidShape source issue) := by
  rw [parse, hjson]
  show ((ConfigFile.ofJson json).mapError (ConfigError.invalidShape source)).bind _ = _
  rw [hshape]
  rfl

/-- Once the text has its shape, its source plays no part: all that follows is to compile the
configuration, which knows of no source. -/
theorem Says.parse_eq {file : ConfigFile} (h : Says text file) :
    parse source text = file.compile := by
  obtain ⟨hjson, hshape⟩ := h
  rw [parse, hjson]
  show ((ConfigFile.ofJson _).mapError (ConfigError.invalidShape source)).bind _ = _
  rw [hshape]
  rfl

/-- A configuration that a text says is refused with the error of its rules, since their counts
cannot fail any more and nothing else in a configuration can. -/
theorem Says.compile_eq_error_iff {file : ConfigFile} (h : Says text file) {e : ConfigError} :
    file.compile = .error e ↔
      ∃ before r after mistake, file.rules.getD [] = before ++ r :: after ∧
        (∀ q ∈ before, q.HasPattern) ∧ Pattern.compile r.source ruleFlags = .error mistake ∧
        e = .invalidPattern r.id mistake := by
  obtain ⟨-, hshape⟩ := h
  rw [← compileRules_eq_error_iff (hasCount_of_ofJson hshape), ConfigFile.compile,
    Result.bind_eq_error_iff]
  constructor
  · rintro (herror | ⟨rules, -, h⟩)
    · exact herror
    · cases h
  · exact .inl

/-- A text is rejected in one of the three ways, and with the error that `Rejected` gives for it. So
these are all the errors there are. -/
theorem parse_eq_error_iff {e : ConfigError} :
    parse source text = .error e ↔ Rejected source text e := by
  constructor
  · intro h
    cases hjson : Json.parse .last (strip text) with
    | error mistake =>
        rw [parse_of_json_error hjson] at h
        cases h
        exact .json hjson
    | ok json =>
        cases hshape : ConfigFile.ofJson json with
        | error issue =>
            rw [parse_of_shape_error hjson hshape] at h
            cases h
            exact .shape hjson hshape
        | ok file =>
            have hfile : Says text file := ⟨hjson, hshape⟩
            rw [hfile.parse_eq, hfile.compile_eq_error_iff] at h
            obtain ⟨before, r, after, mistake, hrules, hbefore, hparse, rfl⟩ := h
            exact .pattern hfile hrules hbefore hparse
  · intro h
    cases h with
    | json hjson => exact parse_of_json_error hjson
    | shape hjson hshape => exact parse_of_shape_error hjson hshape
    | pattern hfile hrules hbefore hparse =>
        rw [hfile.parse_eq, hfile.compile_eq_error_iff]
        exact ⟨_, _, _, _, hrules, hbefore, hparse, rfl⟩

end

/-- Where some rule has no pattern, there is a first one that has none, and it is this one that the
error is about. -/
theorem exists_first_without_pattern {rules : List Rule}
    (h : ∃ r ∈ rules, ¬ r.HasPattern) :
    ∃ before r after mistake, rules = before ++ r :: after ∧ (∀ q ∈ before, q.HasPattern) ∧
      Pattern.compile r.source ruleFlags = .error mistake := by
  induction rules with
  | nil => simp at h
  | cons r rest ih =>
      cases hparse : Pattern.compile r.source ruleFlags with
      | error mistake => exact ⟨[], r, rest, mistake, rfl, List.forall_mem_nil _, hparse⟩
      | ok pattern =>
          have hpattern : r.HasPattern := by
            rw [Rule.hasPattern_iff]
            simp [hparse]
          obtain ⟨q, hq, hnone⟩ := h
          have hrest : q ∈ rest := by
            rcases List.mem_cons.mp hq with rfl | hq
            · exact absurd hpattern hnone
            · exact hq
          obtain ⟨before, p, after, mistake, rfl, hbefore, hp⟩ := ih ⟨q, hrest, hnone⟩
          exact ⟨r :: before, p, after, mistake, rfl,
            List.forall_mem_cons.mpr ⟨hpattern, hbefore⟩, hp⟩

/-- An error that does not depend on the source cannot begin with every source: it is too short to
begin with its own message and a colon. -/
theorem exists_unnamed_source (e : ConfigError) :
    ∃ source : Text, ¬ (source ++ (": " : Text)) <+: e.message := by
  refine ⟨e.message, ?_⟩
  intro h
  have hlength : (e.message ++ (": " : Text)).length ≤ e.message.length := h.length_le
  rw [List.length_append] at hlength
  have hcolon : (": " : Text).length = 2 := rfl
  omega

/-- Which errors name the source of a text, and that no error is about a count.

For a text all of its errors begin with the source, a colon and a space exactly if no configuration
that it says has a rule without a pattern. What errors there are is `Rejected`; where the first rule
without a pattern is the reason, the error does not depend on the source. And a configuration that a
text says has counts that no strategy refuses. -/
theorem errors_name_source_iff (text : Text) :
    ((∀ source e, parse source text = .error e → (source ++ (": " : Text)) <+: e.message) ↔
      ∀ file, Says text file → ∀ r ∈ file.rules.getD [], r.HasPattern) ∧
    (∀ source e, parse source text = .error e ↔ Rejected source text e) ∧
    ∀ file, Says text file → ∀ r ∈ file.rules.getD [], ∀ test,
      ∃ s, Strategy.trailingDigits r.id test r.keep = .ok s := by
  refine ⟨⟨?named, ?patterns⟩, fun _ _ => parse_eq_error_iff, ?counts⟩
  case named =>
    intro hnamed file hfile
    by_contra hnone
    push Not at hnone
    obtain ⟨before, r, after, mistake, hrules, hbefore, hparse⟩ :=
      exists_first_without_pattern hnone
    -- The error for the pattern is the same from every source, so it fails to name one of them.
    obtain ⟨source, hunnamed⟩ := exists_unnamed_source (.invalidPattern r.id mistake)
    have herror : Rejected source text (.invalidPattern r.id mistake) :=
      .pattern hfile hrules hbefore hparse
    exact hunnamed (hnamed source _ (parse_eq_error_iff.mpr herror))
  case patterns =>
    intro hpatterns source e h
    cases parse_eq_error_iff.mp h with
    | @json mistake _ =>
        show source ++ (": " : Text) <+: source ++ (": invalid JSON: " : Text) ++ mistake.message
        rw [List.append_assoc, List.prefix_append_right_inj]
        exact List.prefix_append (": " : Text) (("invalid JSON: " : Text) ++ mistake.message)
    | @shape _ issue _ _ =>
        show source ++ (": " : Text) <+: source ++ (": " : Text) ++ issue.message
        exact List.prefix_append _ _
    | @pattern file before after r mistake hfile hrules _ hparse =>
        -- This error names no source, but every rule of the text has a pattern.
        have hr : r ∈ file.rules.getD [] := by simp [hrules]
        exact absurd hparse (Rule.hasPattern_iff.mp (hpatterns file hfile r hr) mistake)
  case counts =>
    rintro file ⟨_, hshape⟩ r hr test
    exact (hasCount_of_ofJson hshape r hr).trailingDigits test

/-- A text that is an array says no configuration, so no rule of one lacks a pattern, and the error
names the source of the text. -/
theorem errors_name_source_iff_array :
    ∃ e, parse "mask.json" "[1]" = .error e ∧
      (("mask.json" : Text) ++ (": " : Text)) <+: e.message := by
  obtain ⟨hnamed, hrejected, -⟩ := errors_name_source_iff ("[1]" : Text)
  have hjson : Json.parse .last (strip ("[1]" : Text)) = .ok (.array [.number "1"]) := by
    decide +kernel
  have hshape : ConfigFile.ofJson (.array [.number "1"]) =
      .error ⟨[], .wrongType .object .array⟩ := by
    decide +kernel
  have herror := (hrejected "mask.json" _).mpr (.shape hjson hshape)
  refine ⟨_, herror, hnamed.mpr ?_ _ _ herror⟩
  rintro file ⟨hjson', hshape'⟩
  rw [hjson] at hjson'
  obtain rfl := Except.ok.inj hjson'
  rw [hshape] at hshape'
  cases hshape'

/-- A configuration of the right shape whose one rule has a pattern that opens a group and never
closes it. -/
def openGroupText : Text := "\x7b\"rules\":[\x7b\"id\":\"a\",\"match\":\"(\"\x7d]\x7d"

/-- The error for this text does not name its source. It names the rule instead, and says what is
wrong with the pattern. -/
theorem openGroupText_unnamed :
    ∃ e, parse "mask.json" openGroupText = .error e ∧
      ¬ (("mask.json" : Text) ++ (": " : Text)) <+: e.message := by
  have hjson : Json.parse .last (strip openGroupText) =
      .ok (.object
        [("rules", .array [.object [("id", .string "a"), ("match", .string "(")]])]) := by
    decide +kernel
  have hshape : ConfigFile.ofJson
      (.object [("rules", .array [.object [("id", .string "a"), ("match", .string "(")]])]) =
      .ok ⟨none, none, none, none, some [⟨"a", "(", none⟩]⟩ := by
    decide +kernel
  have hparse : Pattern.compile (Rule.mk "a" "(" none).source ruleFlags =
      .error (.invalidSource "(" "i" .unterminatedGroup) := by
    decide +kernel
  have hfirst : ∀ q ∈ ([] : List Rule), q.HasPattern := List.forall_mem_nil _
  refine ⟨.invalidPattern "a" (.invalidSource "(" "i" .unterminatedGroup), ?_, by decide +kernel⟩
  exact parse_eq_error_iff.mpr (.pattern ⟨hjson, hshape⟩ rfl hfirst hparse)

end FieldMask.Config
