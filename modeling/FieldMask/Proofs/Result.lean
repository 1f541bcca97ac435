/-!
# `FieldMask.Proofs.Result`: steps that may fail

A reader is a chain of steps in `Except`. The chain has a value exactly when each step has one, and
`bind_eq_ok_iff` takes a chain apart at its first step. It fails where the first step fails that has
no value, and `bind_eq_error_iff` asks whether that is the first of all.
-/

set_option autoImplicit false

namespace FieldMask.Result

variable {ε α β : Type}

/-- Two steps in a row have a value when the first one has a value and the second one has one for
it. A chain of any length is taken apart by this, one step at a time, and put together again in the
same way. -/
theorem bind_eq_ok_iff {x : Except ε α} {f : α → Except ε β} {b : β} :
    x >>= f = .ok b ↔ ∃ a, x = .ok a ∧ f a = .ok b := by
  cases x with
  | error e => exact ⟨fun h => (nomatch h), fun ⟨_, h, _⟩ => (nomatch h)⟩
  | ok a => exact ⟨fun h => ⟨a, rfl, h⟩, fun ⟨_, ha, hb⟩ => by cases ha; exact hb⟩

/-- A step with another wording of its failures has the same value. The steps of loading a
configuration word the failure of what they call as one of their own. -/
theorem mapError_eq_ok_iff {δ : Type} {f : ε → δ} {x : Except ε α} {a : α} :
    x.mapError f = .ok a ↔ x = .ok a := by
  cases x with
  | error e =>
      constructor
      · intro h
        cases h
      · intro h
        cases h
  | ok b =>
      show (Except.ok b : Except δ α) = .ok a ↔ (Except.ok b : Except ε α) = .ok a
      rw [Except.ok.injEq, Except.ok.injEq]

/-- Two steps in a row fail when the first one fails, or when it has a value and the second one
fails for it. The failure is passed on as it is. -/
theorem bind_eq_error_iff {x : Except ε α} {f : α → Except ε β} {e : ε} :
    x >>= f = .error e ↔ x = .error e ∨ ∃ a, x = .ok a ∧ f a = .error e := by
  cases x with
  | error e' =>
      show (Except.error e' : Except ε β) = .error e ↔ _
      simp
  | ok a =>
      show f a = .error e ↔ _
      simp

end FieldMask.Result
