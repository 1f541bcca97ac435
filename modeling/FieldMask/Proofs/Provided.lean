import FieldMask.Config.Compile
import FieldMask.Proofs.Walk

/-!
# `FieldMask.Proofs.Provided`: the strategies that come with the library

Every strategy that the library provides hides values in one of three ways, its `Concealment`:
`Strategy.Provided` says which strategy hides in which way. The field test is free where the library
leaves it free, so the strategies of configuration rules are among them
(`provided_of_compile`).

A provided strategy refuses no value. Where all strategies are provided, a walk therefore gets
through any tree (`refusal?_of_provided`).
-/

set_option autoImplicit false

namespace FieldMask

open Json (Visit)

/-- A way to hide a value. There are three, and every strategy of the library hides in one of them.
-/
inductive Concealment where
  /-- All of each word but its first code point. -/
  | names
  /-- What stands before the first `@`, but its first code point. -/
  | emails
  /-- The digits before the last `keep` code points. -/
  | digits (keep : Nat)
  deriving DecidableEq, Repr

/-- What hiding leaves of a value: the mask that belongs to the way. -/
def Concealment.apply : Concealment → Text → Text
  | .names => Mask.name
  | .emails => Mask.email
  | .digits keep => Mask.digits keep

namespace Strategy

/-- The strategies of the library, each with the way in which it hides values. A strategy with the
field test of its user is among them, one with a mask of its user is not. -/
inductive Provided : (s : Strategy) → (c : Concealment) → Prop where
  | names : Provided forNames .names
  | emails : Provided forEmails .emails
  | phones : Provided forPhones (.digits Mask.phoneKeep)
  | digits (name : Text) (test : FieldTest) (keep : Nat) :
      Provided (digitsKeeping name test keep) (.digits keep)

/-- A provided strategy hides every value in its way, and refuses none. -/
theorem mask_of_provided {s : Strategy} {c : Concealment} (h : s.Provided c) (value : Text) :
    s.mask value = .ok (c.apply value) := by
  cases h <;> rfl

/-- The strategy for account, bank and card numbers keeps four code points, so it hides digits. -/
theorem provided_forAccounts : Provided forAccounts (.digits 4) := .digits "account" _ 4

/-- A strategy that keeps the end of a number is provided, whatever count it was given: it hides the
digits before some number of code points. -/
theorem provided_of_trailingDigits {name : Text} {test : FieldTest} {keep : Option Binary64}
    {s : Strategy} (h : trailingDigits name test keep = .ok s) :
    ∃ n, s.Provided (.digits n) := by
  unfold trailingDigits at h
  split at h
  · cases h
    exact ⟨defaultKeep, .digits name test defaultKeep⟩
  · split at h
    · next n _ =>
        cases h
        exact ⟨n, .digits name test n⟩
    · exact nomatch h

/-- The strategy of a configuration rule is provided, since a rule can only keep the end of a
number. -/
theorem provided_of_compile {r : Config.Rule} {s : Strategy} (h : r.compile = .ok s) :
    ∃ n, s.Provided (.digits n) := by
  unfold Config.Rule.compile at h
  split at h
  · exact nomatch h
  · next test _ =>
      cases hdigits : trailingDigits r.id test r.keep with
      | error e =>
          rw [hdigits] at h
          exact nomatch h
      | ok strategy =>
          rw [hdigits] at h
          cases h
          exact provided_of_trailingDigits hdigits

end Strategy

/-- A strategy that accepts a field, after strategies that do not, is the strategy of that field. -/
theorem Registry.find?_of_first {r : Registry} {field : Text} (before after : List Strategy)
    {s : Strategy} (hr : r.strategies = before ++ s :: after)
    (hbefore : before.any (fun s => s.accepts field) = false) (hs : s.accepts field = true) :
    r.find? field = some s := by
  have hnone : before.find? (fun s => s.accepts field) = none := by
    rw [List.find?_eq_none]
    intro other hother haccepts
    rw [List.any_eq_false] at hbefore
    exact hbefore other hother haccepts
  rw [find?, hr, List.find?_append, hnone, Option.none_or]
  exact List.find?_cons_of_pos hs

namespace Settings

variable (s : Settings)

/-- All strategies come with the library. An engine with such strategies refuses no value. -/
def AllProvided : Prop := ∀ strategy ∈ s.registry.strategies, ∃ c, strategy.Provided c

/-- The strategy of a field in scope is one of the registered ones, so it is provided if all of them
are. -/
theorem provided_of_strategyFor? (h : s.AllProvided) {field : Text} {strategy : Strategy}
    (hs : s.strategyFor? field = some strategy) : ∃ c, strategy.Provided c := by
  unfold strategyFor? at hs
  split at hs
  · exact h strategy (List.mem_of_find?_eq_some hs)
  · exact nomatch hs

/-- A member with a provided strategy is hidden in the way of that strategy. -/
theorem masked_of_provided {m : Visit} {strategy : Strategy} {c : Concealment}
    (hs : s.strategyFor? m.field = some strategy) (hc : strategy.Provided c) :
    s.masked m = c.apply m.value := by
  have hmask := Strategy.mask_of_provided hc m.value
  simp [masked, maskVisit, hs, hmask, Except.toOption]

/-- Where all strategies are provided, no value is refused, and every walk gets through. -/
theorem refusal?_of_provided (h : s.AllProvided) (ms : List Visit) : s.refusal? ms = none := by
  rw [s.refusal?_eq_none_iff]
  intro m _
  unfold passes maskVisit
  cases hs : s.strategyFor? m.field with
  | none => rfl
  | some strategy =>
      obtain ⟨c, hc⟩ := s.provided_of_strategyFor? h hs
      show (strategy.mask m.value).isOk = true
      rw [Strategy.mask_of_provided hc]
      rfl

end Settings

end FieldMask
