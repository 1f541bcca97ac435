import Mathlib.Data.List.Forall2
import Mathlib.Logic.Function.Basic
import FieldMask.Proofs.Outcome

/-!
# `FieldMask.Proofs.FailureMode`: failing open and failing closed

An engine that fails open passes on the documents it cannot mask, and one that fails closed refuses
them. `Settings.Paired` says what two engines with otherwise the same settings make of one text, in
two cases. Unless the text is rejected, their runs are the same. If it is rejected, the one that
fails closed gives the failure and is silent. The other one gives the text as it came, however far
the walk got, and logs the failure, unless the failure is a root that is no object. The counts are
the same in both cases.

`maskDocument_paired` is this for one call and `serve_paired` for a sequence of calls, each of which
goes on counting where it likes.
-/

set_option autoImplicit false

namespace FieldMask

/-- One call to mask a document: the text, and the tally to count in. A caller may hold several
tallies and use them by turns. -/
structure Call where
  text : Text
  /-- Which of the tallies that the caller holds. -/
  slot : Nat

namespace Settings

variable (s : Settings)

/-- The engine with these settings that fails open, whatever the settings themselves say about it.
-/
def failingOpen : Engine := ⟨{ s with failClosed := false }⟩

/-- The engine with these settings that fails closed. It differs from the other one in that switch
alone. -/
def failingClosed : Engine := ⟨{ s with failClosed := true }⟩

/-- What is logged about a text that is passed on although it was rejected. A root that is no object
is passed on in silence. -/
def report : Failure → List LogLine
  | .unsupportedRoot _ => []
  | f => [.error "Returning document unmasked" (some f.message)]

/-- The runs of an engine that fails open and of one that fails closed, for one text and the same
settings otherwise. They are the same run, or they differ in what becomes of the text and in the
log. -/
inductive Paired (t : Text) : (opened closed : DocumentRun) → Prop where
  | same (out : Text) (tally : Tally) (h : ∀ f, ¬ s.Rejects t f) :
      Paired t ⟨.ok out, tally, []⟩ ⟨.ok out, tally, []⟩
  | rejected (f : Failure) (tally : Tally) (h : s.Rejects t f) :
      Paired t ⟨.ok t, tally, report f⟩ ⟨.error f, tally, []⟩

/-- The way to fail has no part in the outcome: what masking comes to is the same for an engine that
fails open. -/
theorem outcome_failingOpen (t : Text) : s.failingOpen.settings.outcome t = s.outcome t := rfl

/-- It is the same for an engine that fails closed. -/
theorem outcome_failingClosed (t : Text) : s.failingClosed.settings.outcome t = s.outcome t := rfl

/-- An engine that fails open passes the text on and reports the failure, with the counts as far as
the walk got. -/
theorem failed_failingOpen (t : Text) (f : Failure) (tally : Tally) :
    s.failingOpen.failed t f tally = ⟨.ok t, tally, report f⟩ := by
  have hopen : ¬ s.failingOpen.settings.failClosed = true := Bool.false_ne_true
  rw [Engine.failed, if_neg hopen]
  cases f <;> rfl

/-- An engine that fails closed gives the failure and is silent, with the same counts. -/
theorem failed_failingClosed (t : Text) (f : Failure) (tally : Tally) :
    s.failingClosed.failed t f tally = ⟨.error f, tally, []⟩ := rfl

/-- One call to each of the two engines, with the same text and the same counts before: their runs
are paired. This is the step of `serve_paired`. -/
theorem maskDocument_paired (t : Text) (tally : Tally) :
    s.Paired t (s.failingOpen.maskDocument t tally) (s.failingClosed.maskDocument t tally) := by
  rw [Engine.maskDocument_eq, Engine.maskDocument_eq, outcome_failingOpen, outcome_failingClosed]
  -- Every outcome is either rejected or a reason why no failure can be the right one.
  have hnone : (∀ f hits, s.outcome t ≠ .rejected f hits) → ∀ f, ¬ s.Rejects t f := by
    intro hother f hrejects
    obtain ⟨hits, houtcome⟩ := outcome_of_rejects hrejects
    exact hother f hits houtcome
  cases houtcome : s.outcome t with
  | passed =>
      refine .same t tally (hnone ?_)
      intro f hits heq
      exact nomatch houtcome.symm.trans heq
  | rejected f hits =>
      show s.Paired t (s.failingOpen.failed t f _) (s.failingClosed.failed t f _)
      rw [failed_failingOpen, failed_failingClosed]
      exact .rejected f _ (exists_outcome_eq_rejected_iff.mp ⟨hits, houtcome⟩)
  | masked root hits =>
      refine .same root.print _ (hnone ?_)
      intro f hits' heq
      exact nomatch houtcome.symm.trans heq

/-- Two runs that are paired leave the same counts, so the next call starts from the same counts
again. -/
theorem Paired.tally_eq {t : Text} {opened closed : DocumentRun} (h : s.Paired t opened closed) :
    opened.tally = closed.tally := by
  cases h <;> rfl

end Settings

/-- Masks documents one after the other, and gives the runs and what is in the tallies then. Each
call counts in the tally that it names, and the others stay. -/
def Engine.serve (e : Engine) : (Nat → Tally) → List Call → List DocumentRun × (Nat → Tally)
  | tallies, [] => ([], tallies)
  | tallies, call :: rest =>
    let run := e.maskDocument call.text (tallies call.slot)
    let served := e.serve (Function.update tallies call.slot run.tally) rest
    (run :: served.1, served.2)

/-- In a sequence of calls to each of the two engines, every call is as if it were the first: the
two runs are paired, and after the last call the tallies are the same. -/
theorem Settings.serve_paired (s : Settings) (tallies : Nat → Tally) (calls : List Call) :
    (s.failingOpen.serve tallies calls).2 = (s.failingClosed.serve tallies calls).2 ∧
    (s.failingOpen.serve tallies calls).1.length = calls.length ∧
    (s.failingClosed.serve tallies calls).1.length = calls.length ∧
    List.Forall₂ (fun call runs => s.Paired call.text runs.1 runs.2) calls
      ((s.failingOpen.serve tallies calls).1.zip (s.failingClosed.serve tallies calls).1) := by
  induction calls generalizing tallies with
  | nil => exact ⟨rfl, rfl, rfl, .nil⟩
  | cons call rest ih =>
      have hpaired := s.maskDocument_paired call.text (tallies call.slot)
      -- Both engines go on with the same tallies, which is what the hypothesis is about.
      obtain ⟨htallies, hopened, hclosed, hruns⟩ := ih
        (Function.update tallies call.slot
          (s.failingOpen.maskDocument call.text (tallies call.slot)).tally)
      have hstep := Settings.Paired.tally_eq s hpaired
      simp only [Engine.serve]
      rw [← hstep]
      refine ⟨htallies, ?_, ?_, .cons hpaired hruns⟩
      · rw [List.length_cons, hopened, List.length_cons]
      · rw [List.length_cons, hclosed, List.length_cons]

end FieldMask
