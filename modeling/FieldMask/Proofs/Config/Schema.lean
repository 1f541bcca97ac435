import FieldMask.Config.Compile
import FieldMask.Proofs.Pattern.Flags

/-!
# `FieldMask.Proofs.Config.Schema`: what a checked configuration guarantees

A configuration that has the right shape can be compiled, as far as its counts are concerned: every
count of a rule has passed a check (`toNat?_of_count`), and this check is enough for a strategy. All
that is left to go wrong are the patterns (`compile_of_patterns`).
-/

set_option autoImplicit false

namespace FieldMask

/-- A whole number that is not below zero is a natural number. These are the two tests that a count
has to pass, one of the shape and one of the strategy. -/
theorem Binary64.toNat?_of_isWhole {n : Binary64} (hwhole : n.isWhole = true)
    (hnegative : n.isNegative = false) : ∃ k, n.toNat? = some k := by
  cases n with
  | infinite negative => exact nomatch hwhole
  | finite negative significand exponent =>
      unfold isNegative at hnegative
      rw [toNat?, if_neg (by simp [hnegative])]
      by_cases hexponent : 0 ≤ exponent
      · exact ⟨_, if_pos hexponent⟩
      · have hdivides : significand % Nat.pow 2 (-exponent).toNat = 0 := by
          simpa [isWhole, hexponent] using hwhole
        rw [if_neg hexponent]
        exact ⟨_, if_pos hdivides⟩

namespace Config

section

variable {α : Type} {read : Read α}

/-- A value that may be missing was read by its own reader where it is there, so whatever that
reader guarantees is true of it. -/
theorem exists_of_optional {members : Record Json} {name : Text} {a : α}
    (h : optional members name read = .ok (some a)) : ∃ j, read j = .ok a := by
  unfold optional at h
  split at h
  · cases h
  · next j _ =>
      rw [under, Result.mapError_eq_ok_iff] at h
      cases hread : read j with
      | error issue =>
          rw [hread] at h
          cases h
      | ok b =>
          rw [hread] at h
          cases h
          exact ⟨j, hread⟩

/-- Every item of an array that was read has been read from some value. By induction on the items,
the position counting up as the reader does. -/
theorem exists_of_items {start : Nat} {js : List Json} {as : List α}
    (h : items read start js = .ok as) : ∀ a ∈ as, ∃ j, read j = .ok a := by
  induction js generalizing start as with
  | nil =>
      cases h
      exact List.forall_mem_nil _
  | cons j rest ih =>
      rw [items] at h
      obtain ⟨a, hread, h⟩ := Result.bind_eq_ok_iff.mp h
      obtain ⟨more, hrest, h⟩ := Result.bind_eq_ok_iff.mp h
      cases h
      rw [under, Result.mapError_eq_ok_iff] at hread
      exact List.forall_mem_cons.mpr ⟨⟨j, hread⟩, ih hrest⟩

/-- The same for an array as a value: what comes out of it as a list was read item by item. -/
theorem exists_of_list {j : Json} {as : List α} (h : list read j = .ok as) :
    ∀ a ∈ as, ∃ j, read j = .ok a := by
  cases j with
  | array js => exact exists_of_items h
  | _ => exact nomatch h

end

/-- A count that was read is a natural number: the reader has refused what is no number, no whole
number or below zero. -/
theorem toNat?_of_count {j : Json} {n : Binary64} (h : count j = .ok n) :
    ∃ k, n.toNat? = some k := by
  cases j with
  | number spelling =>
      simp only [count] at h
      split at h
      · exact nomatch h
      · next hwhole =>
          split at h
          · exact nomatch h
          · next hnegative =>
              cases h
              exact Binary64.toNat?_of_isWhole (by simpa using hwhole) (by simpa using hnegative)
  | _ => exact nomatch h

/-- The count of a rule is missing or a natural number. A strategy asks for no more, so a rule with
such a count can only fail for its pattern. -/
def Rule.HasCount (r : Rule) : Prop := ∀ n, r.keep = some n → ∃ k, n.toNat? = some k

/-- A rule that was read has such a count, whatever its other members are. -/
theorem hasCount_of_rule {j : Json} {r : Rule} (h : rule j = .ok r) : r.HasCount := by
  cases j with
  | object members =>
      simp only [rule] at h
      obtain ⟨id, _, h⟩ := Result.bind_eq_ok_iff.mp h
      obtain ⟨pattern, _, h⟩ := Result.bind_eq_ok_iff.mp h
      obtain ⟨keep, hkeep, h⟩ := Result.bind_eq_ok_iff.mp h
      cases h
      rintro n rfl
      obtain ⟨j, hcount⟩ := exists_of_optional hkeep
      exact toNat?_of_count hcount
  | _ => exact nomatch h

/-- All the rules of a configuration that was read have such counts, also if it has no member for
rules at all. -/
theorem hasCount_of_ofJson {j : Json} {file : ConfigFile} (h : ConfigFile.ofJson j = .ok file) :
    ∀ r ∈ file.rules.getD [], r.HasCount := by
  cases j with
  | object members =>
      simp only [ConfigFile.ofJson] at h
      obtain ⟨enabled, _, h⟩ := Result.bind_eq_ok_iff.mp h
      obtain ⟨fields, _, h⟩ := Result.bind_eq_ok_iff.mp h
      obtain ⟨failClosed, _, h⟩ := Result.bind_eq_ok_iff.mp h
      obtain ⟨strategies, _, h⟩ := Result.bind_eq_ok_iff.mp h
      obtain ⟨rules, hrules, h⟩ := Result.bind_eq_ok_iff.mp h
      split at h
      · exact nomatch h
      · cases h
        cases rules with
        | none => exact nofun
        | some rules =>
            obtain ⟨j, hlist⟩ := exists_of_optional hrules
            intro r hr
            obtain ⟨j, hrule⟩ := exists_of_list hlist r hr
            exact hasCount_of_rule hrule
  | _ => exact nomatch h

/-- The pattern of a rule is one: it compiles with the flags of rules. The check of the shape does
not look into patterns, so a configuration may well have rules without one. -/
abbrev Rule.HasPattern (r : Rule) : Prop := (Pattern.compile r.source ruleFlags).isOk = true

/-- A rule without a pattern is refused for its pattern, whatever its count is, since the pattern is
compiled first. The error names the rule and says what is wrong with the pattern. -/
theorem Rule.compile_of_error {r : Rule} {mistake : Pattern.CompileError}
    (h : Pattern.compile r.source ruleFlags = .error mistake) :
    r.compile = .error (.invalidPattern r.id mistake) := by
  rw [compile, FieldTest.ofSource_eq, h]
  rfl

/-- The strategy of a rule with a pattern keeps the end of a number, on the fields that the pattern
matches somewhere. What is left to fail is the count. -/
theorem Rule.compile_of_ok {r : Rule} {pattern : Pattern}
    (h : Pattern.compile r.source ruleFlags = .ok pattern) :
    r.compile
      = (Strategy.trailingDigits r.id (.matching pattern) r.keep).mapError .invalidKeep := by
  rw [compile, FieldTest.ofSource_eq, h]
  rfl

/-- A rule with a pattern and a natural count has a strategy. With `hasCount_of_ofJson` only the
pattern is a condition for rules that were read. -/
theorem Rule.compile_of_hasPattern {r : Rule} (hpattern : r.HasPattern) (hcount : r.HasCount) :
    ∃ s, r.compile = .ok s := by
  cases hparse : Pattern.compile r.source ruleFlags with
  | error mistake =>
      rw [HasPattern, hparse] at hpattern
      exact nomatch hpattern
  | ok p =>
      simp only [compile_of_ok hparse, Strategy.trailingDigits]
      cases hkeep : r.keep with
      | none => exact ⟨_, rfl⟩
      | some n =>
          obtain ⟨k, hk⟩ := hcount n hkeep
          simp only [hk]
          exact ⟨_, rfl⟩

/-- If every rule has a strategy, all of them together have: no rule is refused because of another
one. By induction on the rules. -/
theorem compileRules_of_forall {rules : List Rule} (h : ∀ r ∈ rules, ∃ s, r.compile = .ok s) :
    ∃ strategies, compileRules rules = .ok strategies := by
  induction rules with
  | nil => exact ⟨[], rfl⟩
  | cons r rest ih =>
      obtain ⟨⟨s, hs⟩, hrest⟩ := List.forall_mem_cons.mp h
      obtain ⟨strategies, hstrategies⟩ := ih hrest
      refine ⟨s :: strategies, ?_⟩
      rw [compileRules, hs, hstrategies]
      rfl

/-- A configuration that was read and whose rules have patterns gives options. Nothing but a pattern
can fail once the shape has been checked. -/
theorem compile_of_patterns {j : Json} {file : ConfigFile} (h : ConfigFile.ofJson j = .ok file)
    (hpatterns : ∀ r ∈ file.rules.getD [], r.HasPattern) :
    ∃ options, file.compile = .ok options := by
  have hcounts := hasCount_of_ofJson h
  obtain ⟨strategies, hrules⟩ := compileRules_of_forall fun r hr =>
    Rule.compile_of_hasPattern (hpatterns r hr) (hcounts r hr)
  rw [ConfigFile.compile, hrules]
  exact ⟨_, rfl⟩

end Config

end FieldMask
