import FieldMask.Proofs.Exchange.Hooks
import FieldMask.Proofs.Json.Numbers

/-!
# `FieldMask.Proofs.Exchange.Agreement`: both directions of an exchange

A request has a tree as its body and a response a text. `onRequest` walks the tree and deals with a
refusal itself; `onResponse` has the engine read, walk and write the text, and the engine deals with
a refusal. Still, both do the same with the same value.

`Settings.deliver` says what that is, on trees alone. `delivered_onRequest` and
`delivered_onResponse` compare each hook with it, and `hooks_agree` puts them together.
-/

set_option autoImplicit false

namespace FieldMask

open Json (Visit)

namespace Settings

variable (s : Settings)

/-- What comes of an object that is to be masked, said on trees alone: the masked object, the object
as it came, or the refusal of a value. -/
def deliver (j : Json) : Except Failure Json :=
  if s.enabled then
    match s.refusal? j.visits with
    | some r => if s.failClosed then .error (.internal r) else .ok j
    | none => .ok (j.mapVisits s.masked)
  else .ok j

/-- Without a refusal, masking an object masks all of it: each string member becomes what its
strategy makes of it, or stays if it has none. -/
theorem deliver_of_not_refuses {j : Json} (henabled : s.enabled = true) (h : ¬ s.Refuses j) :
    s.deliver j = .ok (j.mapVisits s.masked) ∧
      ∀ m ∈ j.visits,
        match s.strategyFor? m.field with
        | none => s.masked m = m.value
        | some strategy => strategy.mask m.value = .ok (s.masked m) := by
  have hnone := not_refuses_iff.mp h
  refine ⟨?_, ?_⟩
  · rw [deliver, if_pos henabled, hnone]
  · intro m hm
    exact s.masked_of_passes ((s.refusal?_eq_none_iff _).mp hnone m hm)

/-- An object that is not masked is delivered as it was, if it is delivered at all. No member that
was masked before a refusal is left in it. -/
theorem deliver_of_refuses {j value : Json} (h : s.enabled = false ∨ s.Refuses j)
    (hvalue : s.deliver j = .ok value) : value = j := by
  unfold deliver at hvalue
  split at hvalue
  · next henabled =>
      have hrefuses : s.Refuses j := h.resolve_left (by simp [henabled])
      obtain ⟨r, hr⟩ := refuses_iff.mp hrefuses
      rw [hr] at hvalue
      simp only at hvalue
      split at hvalue
      · exact nomatch hvalue
      · exact (Except.ok.inj hvalue).symm
  · exact (Except.ok.inj hvalue).symm

/-- Delivery fails exactly if masking is switched on, fails closed, and refuses something. Either
switch alone lets the object through. -/
theorem deliver_eq_error_iff (j : Json) :
    (∃ f, s.deliver j = .error f) ↔
      s.enabled = true ∧ s.failClosed = true ∧ s.Refuses j := by
  rw [refuses_iff, deliver]
  cases s.enabled <;> cases s.failClosed <;> cases s.refusal? j.visits <;> simp

/-- Delivery fails with a refusal only: an object has the right root and needs no reading. -/
theorem internal_of_deliver {j : Json} {f : Failure} (h : s.deliver j = .error f) :
    ∃ r, f = .internal r := by
  unfold deliver at h
  split at h
  · split at h
    · next r _ =>
        split at h
        · exact ⟨r, (Except.error.inj h).symm⟩
        · exact nomatch h
    · exact nomatch h
  · exact nomatch h

/-- A tree in which no member has a strategy is masked already. So a hook that goes by its counts
may let such a message go on as it was. -/
theorem mapVisits_of_hits_eq_nil {j : Json} (h : s.hits j.visits = []) :
    j.mapVisits s.masked = j := by
  have hmasked : ∀ m ∈ j.visits, Visit.rewritten s.masked m = m := by
    intro m hm
    rw [Visit.rewritten, masked, maskVisit, hits_eq_nil_iff.mp h m hm]
    rfl
  refine Json.eq_of_skeleton_eq _ _ (Json.skeleton_mapVisits _ _) ?_
  rw [Json.visits_mapVisits]
  exact List.map_congr_left hmasked |>.trans (List.map_id _)

end Settings

namespace Exchange

variable (x : Exchange)

/-- A request is delivered with what becomes of its body, and nothing else about it changes. If
nothing was masked, the message itself goes on. -/
theorem delivered_onRequest {request : Request} (hobject : request.body.isObject = true) :
    (x.onRequest request).delivered request
      = (x.engine.settings.deliver request.body).map fun value =>
          { request with body := value } := by
  cases henabled : x.engine.settings.enabled with
  | false =>
      rw [x.onRequest_of_disabled henabled, Settings.deliver, henabled]
      rfl
  | true =>
      rw [x.onRequest_of_object henabled hobject, Settings.deliver, if_pos henabled]
      cases hrefusal : x.engine.settings.refusal? request.body.visits with
      | some r =>
          by_cases hclosed : x.engine.settings.failClosed = true
          · simp only [if_pos hclosed]
            rfl
          · simp only [if_neg hclosed]
            rfl
      | none =>
          refine congrArg Except.ok (Reply.message_ofHits _ ?_)
          intro hnil
          rw [x.engine.settings.mapVisits_of_hits_eq_nil hnil]

/-- A response is delivered with a text of what becomes of the value that its own text stands for.
If masking is switched off or refuses something, that is the text that came. -/
theorem delivered_onResponse {norm : Text → Text} {j : Json} {response : Response}
    (hobject : j.isObject = true) (hstreaming : response.isStreaming = false)
    (htext : j.IsText norm response.body) :
    match x.engine.settings.deliver j with
    | .error f => (x.onResponse response).delivered response = .error f
    | .ok value => ∃ text, value.IsText norm text ∧
        (x.onResponse response).delivered response = .ok { response with body := text } ∧
        (x.engine.settings.enabled = false ∨ x.engine.settings.Refuses j →
          text = response.body) := by
  obtain ⟨raw, hparse, hraw, hvalue⟩ := htext.parse .same
  -- The text is read as an object with the string members of the value, so that the walk over it
  -- comes to the same refusals.
  have hrawobject : raw.isObject = true := by rw [Json.isObject_eq_of_mapNumbers hvalue, hobject]
  have hvisits : raw.visits = j.visits := Json.visits_eq_of_mapNumbers hvalue
  rw [x.onResponse_eq hstreaming]
  cases henabled : x.engine.settings.enabled with
  | false =>
      have hattempts : ¬ x.engine.settings.Attempts response.body := by
        intro h
        exact absurd (henabled.symm.trans h.enabled) Bool.false_ne_true
      rw [Settings.outcome_of_not_attempts hattempts, Settings.deliver, henabled]
      exact ⟨response.body, htext, rfl, fun _ => rfl⟩
  | true =>
      have hattempts : x.engine.settings.Attempts response.body := by
        refine ⟨henabled, Text.isBlank_of_brace ?_⟩
        exact (Json.isObject_of_parse hparse).mp hrawobject
      rw [Settings.outcome_of_attempts hattempts, hparse, Settings.deliver, if_pos henabled]
      simp only [hrawobject, if_true, hvisits]
      cases hrefusal : x.engine.settings.refusal? j.visits with
      | some r =>
          by_cases hclosed : x.engine.settings.failClosed = true
          · simp only [if_pos hclosed]
            rfl
          · simp only [if_neg hclosed]
            refine ⟨response.body, htext, ?_, fun _ => rfl⟩
            exact congrArg Except.ok (Reply.message_ofHits_self _ response)
      | none =>
          have hnot := Settings.not_refuses_iff.mpr hrefusal
          have hmasked : (j.mapVisits x.engine.settings.masked).IsText norm
              (raw.mapVisits x.engine.settings.masked).print :=
            Json.isText_print (Json.wellFormed_mapVisits _ _ hraw)
              (Json.mapNumbers_mapVisits_eq _ hvalue)
          -- Without a hit the text stays as it was, and it is a text of the masked value already.
          by_cases hnil : x.engine.settings.hits j.visits = []
          · refine ⟨response.body, ?_, ?_, fun _ => rfl⟩
            · rw [x.engine.settings.mapVisits_of_hits_eq_nil hnil]
              exact htext
            · simp only [hnil, Reply.ofHits, if_true]
              rfl
          · refine ⟨_, hmasked, ?_, ?_⟩
            · simp only [hnil, Reply.ofHits, if_false]
              rfl
            · intro h
              exact absurd (h.resolve_left (by simp)) hnot

/-- Both hooks do the same with the same value.

Either a request with an object and a response with a text of it go on with the same value, and
nothing else about them changes, or both hooks throw the same refusal. The value is the object with
all of its string members in scope masked, if masking is switched on and refuses none of them; else
it is the object that came, and the response has its own text. The hooks throw exactly if masking is
switched on, fails closed, and refuses the value of some member. -/
theorem hooks_agree (norm : Text → Text) {request : Request} {response : Response}
    (hobject : request.body.isObject = true) (hstreaming : response.isStreaming = false)
    (htext : request.body.IsText norm response.body) :
    let s := x.engine.settings
    let sent := (x.onRequest request).delivered request
    let got := (x.onResponse response).delivered response
    ((∃ value text, value.IsText norm text ∧
        sent = .ok { request with body := value } ∧ got = .ok { response with body := text } ∧
        (s.enabled = true → ¬ s.Refuses request.body →
          value = request.body.mapVisits s.masked ∧
          ∀ m ∈ request.body.visits,
            match s.strategyFor? m.field with
            | none => s.masked m = m.value
            | some strategy => strategy.mask m.value = .ok (s.masked m)) ∧
        (s.enabled = false ∨ s.Refuses request.body →
          value = request.body ∧ text = response.body)) ∨
      ∃ r, sent = .error (.internal r) ∧ got = .error (.internal r)) ∧
    ((∃ f, sent = .error f) ↔
      s.enabled = true ∧ s.failClosed = true ∧ s.Refuses request.body) ∧
    ((∃ f, got = .error f) ↔
      s.enabled = true ∧ s.failClosed = true ∧ s.Refuses request.body) := by
  intro s sent got
  have hsent : sent = (s.deliver request.body).map fun value => { request with body := value } :=
    x.delivered_onRequest hobject
  have hgot := x.delivered_onResponse hobject hstreaming htext
  -- Each hook is compared with what is delivered on trees, so the cases are those of `deliver`.
  rw [← s.deliver_eq_error_iff request.body, hsent]
  cases hdeliver : s.deliver request.body with
  | error f =>
      rw [show x.engine.settings.deliver request.body = .error f from hdeliver] at hgot
      obtain ⟨r, rfl⟩ := s.internal_of_deliver hdeliver
      exact ⟨.inr ⟨r, rfl, hgot⟩, ⟨fun _ => ⟨_, rfl⟩, fun _ => ⟨_, rfl⟩⟩,
        ⟨fun _ => ⟨_, rfl⟩, fun _ => ⟨_, hgot⟩⟩⟩
  | ok value =>
      rw [show x.engine.settings.deliver request.body = .ok value from hdeliver] at hgot
      obtain ⟨text, hvalue, hresponse, hsame⟩ := hgot
      have hfine : got = .ok { response with body := text } := hresponse
      refine ⟨.inl ⟨value, text, hvalue, rfl, hfine, ?_, ?_⟩, ?_, ?_⟩
      · intro henabled hnot
        obtain ⟨hall, hmembers⟩ := s.deliver_of_not_refuses henabled hnot
        exact ⟨Except.ok.inj (hdeliver.symm.trans hall), hmembers⟩
      · intro h
        exact ⟨s.deliver_of_refuses h hdeliver, hsame h⟩
      · simp [Except.map]
      · simp [hfine]

/-- An exchange around `Engine.starEngine`, which masks the fields `a` and fails closed. It is not
verbose. -/
def starExchange : Exchange := ⟨Engine.starEngine, false⟩

/-- A request with a number that is in its shortest spelling, as the body of a request has been read
before. -/
def numberedRequest : Request :=
  ⟨"/notes", none, [], .object [("a", .string "1"), ("n", .number "1.5")]⟩

/-- A response with the same value, but with white space before it and a longer spelling of its
number. -/
def numberedResponse : Response := ⟨200, none, [], " \x7b\"a\":\"1\",\"n\":1.50\x7d", false⟩

/-- Both messages go on with the member masked, whichever way the number is spelled. -/
theorem hooks_agree_numberedMessages :
    let nearest := fun spelling => (Binary64.ofText spelling).text
    let masked := Json.object [("a", .string "*"), ("n", .number "1.5")]
    numberedRequest.body.isObject = true ∧ numberedResponse.isStreaming = false ∧
    numberedRequest.body.IsText nearest numberedResponse.body ∧
    (starExchange.onRequest numberedRequest).delivered numberedRequest
      = .ok { numberedRequest with body := masked } ∧
    ∃ text, masked.IsText nearest text ∧
      (starExchange.onResponse numberedResponse).delivered numberedResponse
        = .ok { numberedResponse with body := text } := by
  intro nearest masked
  let raw := Json.object [("a", .string "1"), ("n", .number "1.50")]
  have hparse : Json.parse .same numberedResponse.body = .ok raw := by decide +kernel
  have hraw := Json.wellFormed_of_parse hparse
  have htext : numberedRequest.body.IsText nearest numberedResponse.body := by
    have hspace : Json.IsSpaces [0x20] := List.forall_mem_singleton.mpr rfl
    rw [show numberedResponse.body = [0x20] ++ (raw.print ++ []) by decide +kernel]
    exact .mk hraw (by decide +kernel) hspace (Json.spells_print raw hraw) Json.isSpaces_nil
  have hrefuses : ¬ Engine.starEngine.settings.Refuses numberedRequest.body :=
    Settings.not_refuses_iff.mpr (by decide +kernel)
  obtain ⟨hboth, hthrows, -⟩ := hooks_agree starExchange nearest rfl rfl htext
  rcases hboth with ⟨value, text, hvalue, hsent, hgot, hcomplete, -⟩ | ⟨r, hsent, -⟩
  · obtain ⟨rfl, -⟩ := hcomplete rfl hrefuses
    have hmasked : numberedRequest.body.mapVisits starExchange.engine.settings.masked = masked := by
      decide +kernel
    rw [hmasked] at hvalue hsent
    exact ⟨rfl, rfl, htext, hsent, text, hvalue, hgot⟩
  · exact absurd (hthrows.mp ⟨_, hsent⟩).2.2 hrefuses

end Exchange

end FieldMask
