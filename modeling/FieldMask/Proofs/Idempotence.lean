import FieldMask.Proofs.Disclosure
import FieldMask.Proofs.Outcome

/-!
# `FieldMask.Proofs.Idempotence`: masking a masked document

Each of the three ways to hide a value leaves what it made itself alone (`Concealment.apply_apply`).
A tree that was masked has the fields it had, so every string member finds its strategy again, and
that strategy finds its own result: masking the tree once more gives the same tree
(`Settings.mapVisits_masked_masked`).

`maskDocument_idempotent` is the statement about whole documents. What comes of a document is one of
two texts. It is the text that went in, and that is passed on again for the same reason. Or it is
the printed tree, and that is read and masked as that tree again (`Settings.outcome_print`).
-/

set_option autoImplicit false

namespace FieldMask

open Json (Visit)

/-- Hiding a value hides nothing more of what it left, in each of the three ways. -/
theorem Concealment.apply_apply (c : Concealment) (value : Text) :
    c.apply (c.apply value) = c.apply value := by
  cases c with
  | names => exact Mask.name_name value
  | emails => exact Mask.email_email value
  | digits keep => exact Mask.digits_digits keep value

namespace Settings

variable (s : Settings)

/-- A member that was rewritten once is not rewritten again: it has the name it had, so the same
strategy finds its own result. -/
theorem rewritten_rewritten (hprovided : s.AllProvided) (m : Visit) :
    (m.rewritten s.masked).rewritten s.masked = m.rewritten s.masked := by
  -- A rewritten member has its old field, so the strategy is the same both times.
  obtain ⟨field, value⟩ := m
  show Visit.mk field (s.masked ⟨field, s.masked ⟨field, value⟩⟩)
    = Visit.mk field (s.masked ⟨field, value⟩)
  congr 1
  cases hs : s.strategyFor? field with
  | none =>
      have hkeeps : ∀ v : Text, s.masked ⟨field, v⟩ = v := by
        intro v
        simp [masked, maskVisit, hs, Except.toOption]
      rw [hkeeps value, hkeeps value]
  | some strategy =>
      obtain ⟨c, hc⟩ := s.provided_of_strategyFor? hprovided hs
      have hhides : ∀ v : Text, s.masked ⟨field, v⟩ = c.apply v := by
        intro v
        exact s.masked_of_provided hs hc
      rw [hhides value, hhides (c.apply value), c.apply_apply]

/-- A tree that was masked is not changed by masking it again, since none of its members is. -/
theorem mapVisits_masked_masked (hprovided : s.AllProvided) (j : Json) :
    (j.mapVisits s.masked).mapVisits s.masked = j.mapVisits s.masked := by
  -- Masking touches no skeleton, so the two trees could differ in a string member only.
  apply Json.eq_of_skeleton_eq
  · rw [Json.skeleton_mapVisits]
  · rw [Json.visits_mapVisits, Json.visits_mapVisits, List.map_map]
    apply List.map_congr_left
    intro m _
    exact s.rewritten_rewritten hprovided m

/-- A masked tree is printed as a text that is masked to the same tree. The counts may differ, as
nothing is claimed of them here. -/
theorem outcome_print (hprovided : s.AllProvided) {t : Text} {root : Json} {hits : List Text}
    (h : s.outcome t = .masked root hits) :
    ∃ hits', s.outcome root.print = .masked root hits' := by
  rcases outcome_cases s t with ⟨_, hpassed⟩ | ⟨_, _, _, hrejected⟩ |
    ⟨members, hattempts, hparse, _, hmasked⟩
  -- The text was masked, so of the three outcomes only the last is left.
  · exact nomatch hpassed.symm.trans h
  · exact nomatch hrejected.symm.trans h
  · obtain ⟨rfl, _⟩ := Outcome.masked.inj (hmasked.symm.trans h)
    have hread := Json.parse_print_mapVisits s.masked hparse
    have htwice := s.mapVisits_masked_masked hprovided (.object members)
    rw [Json.mapVisits] at hread htwice ⊢
    have hbrace := (Json.isObject_of_parse hread).mp rfl
    rw [outcome_of_attempts ⟨hattempts.enabled, Text.isBlank_of_brace hbrace⟩, hread]
    simp only [Json.isObject, Json.kind, beq_self_eq_true, if_true,
      s.refusal?_of_provided hprovided, htwice]
    exact ⟨_, rfl⟩

end Settings

namespace Engine

variable (e : Engine)

/-- A document that cannot be masked and still gives a text is passed on, whatever the counts. So it
is passed on again the next time. -/
theorem result_failed {t u : Text} {f : Failure} {tally : Tally}
    (h : (e.failed t f tally).result = .ok u) :
    u = t ∧ ∀ tally', (e.failed t f tally').result = .ok t := by
  unfold failed at h ⊢
  by_cases hclosed : e.settings.failClosed = true
  · rw [if_pos hclosed] at h
    exact nomatch h
  · rw [if_neg hclosed] at h
    have htu : t = u := Except.ok.inj h
    refine ⟨htu.symm, ?_⟩
    intro tally'
    rw [if_neg hclosed]

/-- With the strategies of the library masking is idempotent: whatever text comes of a document,
masked or passed on, comes of that text again. -/
theorem maskDocument_idempotent (hprovided : e.settings.AllProvided) {t u : Text} {tally : Tally}
    (h : (e.maskDocument t tally).result = .ok u) (tally' : Tally) :
    (e.maskDocument u tally').result = .ok u := by
  rw [e.maskDocument_eq] at h
  cases houtcome : e.settings.outcome t with
  | passed =>
      rw [houtcome] at h
      obtain rfl : t = u := Except.ok.inj h
      rw [e.maskDocument_eq, houtcome]
  | rejected f hits =>
      rw [houtcome] at h
      obtain ⟨rfl, hagain⟩ := e.result_failed h
      rw [e.maskDocument_eq, houtcome]
      exact hagain _
  | masked root hits =>
      rw [houtcome] at h
      obtain rfl : root.print = u := Except.ok.inj h
      obtain ⟨hits', hagain⟩ := e.settings.outcome_print hprovided houtcome
      rw [e.maskDocument_eq, hagain]

/-- The first customer with all that `cardEngine` hides hidden: of every value the part that is
shown is still there. -/
def hiddenCustomer : Record Json :=
  [("name", .string "A** L**"),
    ("contact", .array
      [.object [("email", .string "a**@b@x.org"), ("phone", .string "(**) ***-678")]]),
    ("card", .string "**** 5678")]

/-- Masking every member of the first customer gives the hidden one. -/
theorem mapVisits_firstCustomer :
    (Json.object firstCustomer).mapVisits cardEngine.settings.masked = .object hiddenCustomer := by
  obtain ⟨hname, hemail, hphone, hcard⟩ := strategyFor?_customer
  have hann : cardEngine.settings.masked ⟨"name", "Ann Lee"⟩ = "A** L**" := by
    rw [Settings.masked_of_provided _ (m := ⟨"name", "Ann Lee"⟩) hname .names]
    decide +kernel
  have hmail : cardEngine.settings.masked ⟨"email", "ann@b@x.org"⟩ = "a**@b@x.org" := by
    rw [Settings.masked_of_provided _ (m := ⟨"email", "ann@b@x.org"⟩) hemail .emails]
    decide +kernel
  have hcall : cardEngine.settings.masked ⟨"phone", "(12) 345-678"⟩ = "(**) ***-678" := by
    rw [Settings.masked_of_provided _ (m := ⟨"phone", "(12) 345-678"⟩) hphone .phones]
    decide +kernel
  have hpay : cardEngine.settings.masked ⟨"card", "1234 5678"⟩ = "**** 5678" := by
    rw [Settings.masked_of_provided _ (m := ⟨"card", "1234 5678"⟩) hcard
      Strategy.provided_forAccounts]
    decide +kernel
  simp only [firstCustomer, hiddenCustomer, Json.mapVisits, Json.mapVisitsMembers,
    Json.mapVisitsItems, hann, hmail, hcall, hpay]

/-- The hidden customer is what comes of the first customer, and of itself. -/
theorem maskDocument_hiddenCustomer :
    cardEngine.settings.AllProvided ∧
    (cardEngine.maskDocument (Json.object firstCustomer).print .empty).result
      = .ok (Json.object hiddenCustomer).print ∧
    (cardEngine.maskDocument (Json.object hiddenCustomer).print .empty).result
      = .ok (Json.object hiddenCustomer).print := by
  have hparse : Json.parse .same (Json.object firstCustomer).print
      = .ok (.object firstCustomer) := by decide +kernel
  have hresult : (cardEngine.maskDocument (Json.object firstCustomer).print .empty).result
      = .ok (Json.object hiddenCustomer).print := by
    rw [cardEngine.maskDocument_of_object rfl hparse,
      Settings.refusal?_of_provided _ allProvided_cardEngine, mapVisits_firstCustomer]
  exact ⟨allProvided_cardEngine, hresult,
    cardEngine.maskDocument_idempotent allProvided_cardEngine hresult .empty⟩

end Engine

end FieldMask
