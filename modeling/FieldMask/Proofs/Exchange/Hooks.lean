import FieldMask.Exchange
import FieldMask.Proofs.Outcome
import FieldMask.Proofs.Tally

/-!
# `FieldMask.Proofs.Exchange.Hooks`: what the hooks of an exchange do

Each hook has one run equation. `onRequest_of_object` takes a request apart by the first refusal of
its walk, as the walk itself does. `onResponse_eq` takes a response apart by the outcome of its
text. Both say which reply goes on, which failure is thrown and what is logged.

`HookRun.delivered` is what the host gets: the whole message that goes on, or the failure.
-/

set_option autoImplicit false

namespace FieldMask

/-- The message that goes on, for one that was received: that one, or the one that was put in its
place. -/
def Reply.message {α : Type} (received : α) : Reply α → α
  | .asReceived => received
  | .rewritten message => message

/-- The message that a hook lets go on, or the failure that it throws. What it logs is left out. -/
def HookRun.delivered {α : Type} (run : HookRun α) (received : α) : Except Failure α :=
  run.result.map (Reply.message received)

/-- A message goes on in another one's place only if a strategy masked something. Both hooks decide
by the counts of their walk. -/
def Reply.ofHits {α : Type} (hits : List Text) (message : α) : Reply α :=
  if hits = [] then .asReceived else .rewritten message

/-- A message goes on in another one's place exactly if there was a hit, and then it is the one that
was made. -/
theorem Reply.ofHits_eq_rewritten_iff {α : Type} {hits : List Text} {message other : α} :
    Reply.ofHits hits message = .rewritten other ↔ hits ≠ [] ∧ message = other := by
  unfold Reply.ofHits
  split
  · next hnil => exact ⟨fun h => (nomatch h), fun h => absurd hnil h.1⟩
  · next hne => exact ⟨fun h => ⟨hne, Reply.rewritten.inj h⟩, fun h => congrArg _ h.2⟩

/-- A message without hits goes on as it was, which is the same if masking would not change it. So
the choice of the reply does not show in what is delivered. -/
theorem Reply.message_ofHits {α : Type} {hits : List Text} {received : α} (message : α)
    (h : hits = [] → message = received) :
    (Reply.ofHits hits message).message received = message := by
  unfold Reply.ofHits
  split
  · next hnil => exact (h hnil).symm
  · rfl

/-- A message that goes on in its own place is the one received, with hits or without. -/
theorem Reply.message_ofHits_self {α : Type} (hits : List Text) (received : α) :
    (Reply.ofHits hits received).message received = received :=
  Reply.message_ofHits received fun _ => rfl

namespace Exchange

/-- The total of a tally that starts empty is the number of hits. The tally of a hook does start
empty. -/
theorem total_hits (hits : List Text) : (hits.foldl Tally.add .empty).total = hits.length := by
  rw [Tally.total_foldl_add]
  exact Nat.zero_add _

/-- The total is zero only if there were no hits, so a hook may go by the total to see whether
anything was masked. -/
theorem total_eq_zero_iff (hits : List Text) :
    (hits.foldl Tally.add .empty).total = 0 ↔ hits = [] := by
  rw [total_hits, List.length_eq_zero_iff]

/-- Nothing is reported if nothing was masked, in a verbose exchange as in any other. -/
theorem report_empty (x : Exchange) (direction : Text) (session : Option Text) :
    x.report direction session .empty = [] := by
  have hzero : (Tally.empty.total != 0) = false := rfl
  rw [report, hzero, Bool.and_false]
  rfl

variable (x : Exchange)

/-- While masking is switched off, a request goes on as it was, and nothing is logged. -/
theorem onRequest_of_disabled (henabled : x.engine.settings.enabled = false) (request : Request) :
    x.onRequest request = ⟨.ok .asReceived, [], []⟩ := by
  rw [onRequest, henabled]

/-- A request that is an object is walked. If a value is refused, the engine's way to fail decides
whether the hook throws or the request goes on as it was. If none is, the tree with all string
members in scope masked goes on, unless nothing was masked. -/
theorem onRequest_of_object (henabled : x.engine.settings.enabled = true) {request : Request}
    (hobject : request.body.isObject = true) :
    x.onRequest request =
      match x.engine.settings.refusal? request.body.visits with
      | some r =>
        if x.engine.settings.failClosed then
          ⟨.error (.internal r), [],
            [.error "Rejecting request" (some (Failure.internal r).message)]⟩
        else
          ⟨.ok .asReceived, [],
            [.error "Forwarding request unmasked" (some (Failure.internal r).message)]⟩
      | none =>
        let hits := x.engine.settings.hits request.body.visits
        ⟨.ok (.ofHits hits
            { request with body := request.body.mapVisits x.engine.settings.masked }),
          [], x.report "request" request.session (hits.foldl Tally.add .empty)⟩ := by
  obtain ⟨members, hbody⟩ : ∃ members, request.body = .object members := by
    cases hbody : request.body with
    | object members => exact ⟨members, rfl⟩
    | null | bool | number | string | array =>
        rw [hbody] at hobject
        exact nomatch hobject
  rw [onRequest, henabled, hbody]
  simp only [x.engine.maskObject_eq, Settings.walkedOver]
  cases hrefusal : x.engine.settings.refusal? (Json.object members).visits with
  | some r => rfl
  | none =>
      -- Nothing was refused, so the walk went through all string members.
      simp only [x.engine.rewriteFirstMembers_done hrefusal, x.engine.settings.foldl_count,
        total_eq_zero_iff, Reply.ofHits]
      rw [x.engine.settings.done_eq_self hrefusal]

/-- The outcome of its text decides about a response that is not streamed. A text that is rejected
by an engine that fails open goes on as it was. It counts as rewritten, though, if the walk masked
something before it broke off, and that is reported. -/
theorem onResponse_eq {response : Response} (hstreaming : response.isStreaming = false) :
    x.onResponse response =
      match x.engine.settings.outcome response.body with
      | .passed => ⟨.ok .asReceived, [], []⟩
      | .rejected f hits =>
        if x.engine.settings.failClosed then
          ⟨.error f, [], [.error "Rejecting response" (some f.message)]⟩
        else
          ⟨.ok (.ofHits hits response), if f.isLogged then [Engine.passedOn f] else [],
            x.report "response" response.session (hits.foldl Tally.add .empty)⟩
      | .masked root hits =>
        ⟨.ok (.ofHits hits { response with body := root.print }), [],
          x.report "response" response.session (hits.foldl Tally.add .empty)⟩ := by
  rw [onResponse, if_neg (by simp [hstreaming]), x.engine.maskDocument_eq]
  cases x.engine.settings.outcome response.body with
  | passed =>
      -- The hook reports on this case as well, but there is nothing in the tally.
      show HookRun.mk (.ok .asReceived) [] (x.report _ _ .empty) = _
      rw [report_empty]
  | rejected f hits =>
      by_cases hclosed : x.engine.settings.failClosed = true
      · simp only [Engine.failed, if_pos hclosed]
      · simp only [Engine.failed, if_neg hclosed, total_eq_zero_iff, Reply.ofHits]
  | masked root hits => simp only [total_eq_zero_iff, Reply.ofHits]

end Exchange

end FieldMask
