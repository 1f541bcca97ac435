import FieldMask.Proofs.Counting
import FieldMask.Proofs.Exchange.Hooks
import FieldMask.Proofs.Text.Digits

/-!
# `FieldMask.Proofs.Exchange.Report`: what is reported and what is delivered

A verbose exchange reports how many fields of a message it has masked. `Exchange.Truthful` says what
a reader takes from such a report of a response: the body that goes on is the masked document, with
that many members masked, and one that could not be masked goes on untouched and unreported.

`truthful_iff` says when this holds. The counts of a walk stay when the walk breaks off
(`Settings.BreaksOff`), and `onResponse` decides by them. So a response counts as masked, for an
engine that fails open, if a member was masked before another one was refused, although its body is
the text that came. `onRequest` decides by the refusal.
-/

set_option autoImplicit false

namespace FieldMask

open Json (Visit)

namespace Settings

variable {s : Settings} {t : Text}

/-- What masking makes of a document in which no value is refused, and how many members are masked.
It is said on the tree of the document and not on how the hook goes about it. -/
inductive Masks (s : Settings) (t : Text) : (out : Text) → (n : Nat) → Prop where
  | mk {members : Record Json} (hattempts : s.Attempts t)
      (hparse : Json.parse .same t = .ok (.object members))
      (hpasses : ∀ m ∈ (Json.object members).visits, s.passes m = true) :
      Masks s t ((Json.object members).mapVisits s.masked).print
        ((Json.object members).visits.countP fun m => (s.strategyFor? m.field).isSome)

/-- The walk over a document masks a member and comes to another one whose value is refused. The
counts then tell of work that is thrown away. -/
inductive BreaksOff (s : Settings) (t : Text) : Prop where
  | mk {members : Record Json} {before after : List Visit} {m : Visit} {r : Refusal}
      (hattempts : s.Attempts t) (hparse : Json.parse .same t = .ok (.object members))
      (hvisits : (Json.object members).visits = before ++ m :: after)
      (hbefore : ∀ b ∈ before, s.passes b = true) (hm : s.maskVisit m = .error r)
      (hmasked : ∃ b ∈ before, (s.strategyFor? b.field).isSome = true)

/-- A masked document is what masking makes of it, with one hit for each member masked. So the
length of the hits is the number that a report should give. -/
theorem masks_of_outcome {root : Json} {hits : List Text} (h : s.outcome t = .masked root hits) :
    s.Masks t root.print hits.length := by
  rcases outcome_cases s t with ⟨-, hpassed⟩ | ⟨f, hits', -, hrejected⟩ |
    ⟨members, hattempts, hparse, hrefusal, hmasked⟩
  · exact nomatch hpassed.symm.trans h
  · exact nomatch hrejected.symm.trans h
  · obtain ⟨rfl, rfl⟩ := Outcome.masked.inj (hmasked.symm.trans h)
    rw [length_hits]
    exact .mk hattempts hparse ((s.refusal?_eq_none_iff _).mp hrefusal)

/-- A document that is masked is not rejected, for whatever failure: a text has one outcome only. -/
theorem Masks.not_rejects {out : Text} {n : Nat} (h : s.Masks t out n) (f : Failure) :
    ¬ s.Rejects t f := by
  intro hrejects
  obtain ⟨hits, houtcome⟩ := outcome_of_rejects hrejects
  cases h with
  | mk hattempts hparse hpasses =>
      rw [outcome_of_attempts hattempts, hparse] at houtcome
      simp only [Json.isObject, Json.kind, beq_self_eq_true, if_true,
        (s.refusal?_eq_none_iff _).mpr hpasses] at houtcome
      cases houtcome

/-- The walk breaks off exactly if the text is rejected although something was masked. The hits of
the outcome are what was masked before. -/
theorem breaksOff_iff :
    s.BreaksOff t ↔ ∃ f hits, s.outcome t = .rejected f hits ∧ hits ≠ [] := by
  constructor
  · rintro @⟨members, before, after, m, r, hattempts, hparse, hvisits, hbefore, hm, b, hb,
      hstrategy⟩
    obtain ⟨hdone, hrefusal⟩ :=
      s.done_of_refused after ((s.refusal?_eq_none_iff _).mpr hbefore) hm
    refine ⟨.internal r, s.hits before, ?_, ?_⟩
    · rw [outcome_of_attempts hattempts, hparse]
      simp only [Json.isObject, Json.kind, beq_self_eq_true, if_true, hvisits, hrefusal, hdone]
    · intro hnil
      rw [hits_eq_nil_iff.mp hnil b hb] at hstrategy
      cases hstrategy
  · rintro ⟨f, hits, houtcome, hne⟩
    have hrejects := exists_outcome_eq_rejected_iff.mp ⟨hits, houtcome⟩
    rw [outcome_of_attempts hrejects.toAttempts] at houtcome
    -- Without a tree there is no walk, and without a walk there are no hits.
    cases hrejects.cause with
    | invalidJson hparse =>
        rw [hparse] at houtcome
        exact absurd (Outcome.rejected.inj houtcome).2.symm hne
    | unsupportedRoot hparse hroot =>
        rw [hparse] at houtcome
        simp only [hroot, Bool.false_eq_true, if_false] at houtcome
        exact absurd (Outcome.rejected.inj houtcome).2.symm hne
    | @internal root before after m r hparse hroot hvisits hbefore hm =>
        obtain ⟨hdone, hrefusal⟩ :=
          s.done_of_refused after ((s.refusal?_eq_none_iff _).mpr hbefore) hm
        rw [hparse] at houtcome
        simp only [hroot, if_true, hvisits, hrefusal, hdone] at houtcome
        obtain ⟨-, rfl⟩ := Outcome.rejected.inj houtcome
        -- A hit comes from a member with a strategy.
        have hmasked : ∃ b ∈ before, (s.strategyFor? b.field).isSome = true := by
          by_contra hnone
          refine hne (hits_eq_nil_iff.mpr fun b hb => ?_)
          rw [← Option.not_isSome_iff_eq_none]
          exact fun hsome => hnone ⟨b, hb, hsome⟩
        cases root with
        | object members => exact .mk hrejects.toAttempts hparse hvisits hbefore hm hmasked
        | _ => cases hroot

end Settings

/-! ### Reports -/

/-- The run has logged that so many fields were masked, in the log of the engine or its own. What
the line says about each strategy is left open. -/
def HookRun.Reports {α : Type} (run : HookRun α) (direction : Text) (session : Option Text)
    (n : Nat) : Prop :=
  ∃ details, LogLine.info (direction ++ Exchange.sessionMark session ++ (" Masked " : Text) ++
    Text.ofNat n ++ (" field(s): " : Text) ++ details) ∈ run.engineLog ++ run.log

namespace Exchange

variable (x : Exchange)

/-- A report gives the total of the counts. There is one exactly if the exchange is verbose and
something was counted. -/
theorem exists_mem_report_iff (direction : Text) (session : Option Text) (tally : Tally) (n : Nat) :
    (∃ details, LogLine.info (direction ++ sessionMark session ++ (" Masked " : Text) ++
      Text.ofNat n ++ (" field(s): " : Text) ++ details) ∈ x.report direction session tally) ↔
      x.verbose = true ∧ tally.total ≠ 0 ∧ n = tally.total := by
  unfold report
  by_cases hreport : (x.verbose && tally.total != 0) = true
  · obtain ⟨hverbose, htotal⟩ := Bool.and_eq_true_iff.mp hreport
    rw [if_pos hreport]
    constructor
    · rintro ⟨details, hmem⟩
      -- The two lines begin alike. Then come the numbers, with a space behind them.
      have hline := LogLine.info.inj (List.mem_singleton.mp hmem)
      simp only [List.append_assoc, List.append_cancel_left_eq] at hline
      exact ⟨hverbose, bne_iff_ne.mp htotal, Text.ofNat_append_space_inj hline⟩
    · rintro ⟨-, -, rfl⟩
      exact ⟨tally.details, List.mem_singleton.mpr rfl⟩
  · rw [if_neg hreport]
    constructor
    · rintro ⟨details, hmem⟩
      exact absurd hmem List.not_mem_nil
    · rintro ⟨hverbose, htotal, -⟩
      exact absurd (Bool.and_eq_true_iff.mpr ⟨hverbose, bne_iff_ne.mpr htotal⟩) hreport

variable {x}

/-- A run that logs nothing but an error reports no masked fields, whatever its result is. -/
theorem not_reports_of_error {α : Type} (result : Except Failure (Reply α)) (message : Text)
    (cause : Option Text) (direction : Text) (session : Option Text) (n : Nat) :
    ¬ (HookRun.mk result [] [.error message cause]).Reports direction session n := by
  rintro ⟨details, hmem⟩
  exact nomatch List.mem_singleton.mp hmem

/-- A run reports what its own log says, if the engine logs errors only: the line that counts fields
is for information. -/
theorem reports_iff {α : Type} {run : HookRun α} {direction : Text} {session : Option Text}
    {tally : Tally} (hengine : ∀ line ∈ run.engineLog, line.isError = true)
    (hlog : run.log = x.report direction session tally) (n : Nat) :
    run.Reports direction session n ↔
      x.verbose = true ∧ tally.total ≠ 0 ∧ n = tally.total := by
  rw [← x.exists_mem_report_iff direction session tally n, ← hlog]
  refine exists_congr fun details => ?_
  -- The line for information is none of the errors that the engine logs.
  rw [List.mem_append, or_iff_right]
  intro hmem
  exact nomatch hengine _ hmem

/-- An engine that passes a document on logs an error, if it logs anything. So its log never has a
report in it. -/
theorem isError_of_passedOn (f : Failure) :
    ∀ line ∈ (if f.isLogged then [Engine.passedOn f] else []), line.isError = true := by
  intro line hmem
  split at hmem
  · rw [List.mem_singleton.mp hmem]
    rfl
  · exact absurd hmem List.not_mem_nil

/-! ### Responses -/

/-- What is reported about a response is what is delivered. -/
structure Truthful (x : Exchange) (response : Response) : Prop where
  /-- A report of `n` fields comes with a document in which `n` members are masked. -/
  reported : ∀ n, (x.onResponse response).Reports "response" response.session n →
    ∃ body, x.engine.settings.Masks response.body body n ∧
      (x.onResponse response).delivered response = .ok { response with body := body }
  /-- What goes on in the place of the response has the masked document. -/
  rewritten : ∀ message, (x.onResponse response).result = .ok (.rewritten message) →
    ∃ body n, x.engine.settings.Masks response.body body n ∧
      message = { response with body := body }
  /-- A response that cannot be masked by an engine that fails open goes on as it was, without a
  report. -/
  unmasked : x.engine.settings.failClosed = false →
    ∀ f, x.engine.settings.Rejects response.body f →
      (x.onResponse response).result = .ok .asReceived ∧
        ∀ n, ¬ (x.onResponse response).Reports "response" response.session n

variable {response : Response}

/-- A response is dealt with truthfully if nothing goes on in its place and nothing is reported, and
it goes on itself unless the engine fails closed. Then all three parts hold for want of a case. -/
theorem truthful_of_silent
    (hresult : ∀ message, (x.onResponse response).result ≠ .ok (.rewritten message))
    (hsilent : ∀ n, ¬ (x.onResponse response).Reports "response" response.session n)
    (hopen : x.engine.settings.failClosed = false →
      (x.onResponse response).result = .ok .asReceived) :
    x.Truthful response where
  reported n hn := absurd hn (hsilent n)
  rewritten message hmessage := absurd hmessage (hresult message)
  unmasked hfails _ _ := ⟨hopen hfails, hsilent⟩

/-- A response is dealt with truthfully if there is nothing to mask: the message that came goes on,
in silence. -/
theorem truthful_of_passed (hstreaming : response.isStreaming = false)
    (houtcome : x.engine.settings.outcome response.body = .passed) : x.Truthful response := by
  have hrun : x.onResponse response = ⟨.ok .asReceived, [], []⟩ := by
    rw [x.onResponse_eq hstreaming, houtcome]
  refine truthful_of_silent ?_ ?_ ?_
  · intro message hmessage
    rw [hrun] at hmessage
    exact nomatch hmessage
  · rintro n ⟨details, hmem⟩
    rw [hrun] at hmem
    exact nomatch hmem
  · intro _
    rw [hrun]

/-- A document that is masked is dealt with truthfully: what is reported is the number of its hits,
and its text goes on. -/
theorem truthful_of_masked (hstreaming : response.isStreaming = false) {root : Json}
    {hits : List Text} (houtcome : x.engine.settings.outcome response.body = .masked root hits) :
    x.Truthful response := by
  have hmasks := Settings.masks_of_outcome houtcome
  have hrun : x.onResponse response = ⟨.ok (.ofHits hits { response with body := root.print }), [],
      x.report "response" response.session (hits.foldl Tally.add .empty)⟩ := by
    rw [x.onResponse_eq hstreaming, houtcome]
  refine ⟨?_, ?_, ?_⟩
  · intro n hn
    rw [hrun, reports_iff (List.forall_mem_nil _) rfl, total_hits] at hn
    obtain ⟨-, hne, rfl⟩ := hn
    -- There were hits, so the message with the masked document is the one that goes on.
    have hhits : hits ≠ [] := fun hnil => hne (congrArg List.length hnil)
    refine ⟨root.print, hmasks, ?_⟩
    rw [hrun, HookRun.delivered, Reply.ofHits_eq_rewritten_iff.mpr ⟨hhits, rfl⟩]
    rfl
  · intro message hmessage
    rw [hrun] at hmessage
    obtain ⟨-, rfl⟩ := Reply.ofHits_eq_rewritten_iff.mp (Except.ok.inj hmessage)
    exact ⟨root.print, hits.length, hmasks, rfl⟩
  · intro _ f hrejects
    -- A document that is masked is not rejected, so the third part has no case.
    exact absurd hrejects (hmasks.not_rejects f)

/-- A response that an engine rejects by throwing is dealt with truthfully: no message goes on, and
only an error is logged. -/
theorem truthful_of_rejected_closed (hstreaming : response.isStreaming = false)
    (hclosed : x.engine.settings.failClosed = true) {f : Failure} {hits : List Text}
    (houtcome : x.engine.settings.outcome response.body = .rejected f hits) :
    x.Truthful response := by
  have hrun : x.onResponse response
      = ⟨.error f, [], [.error "Rejecting response" (some f.message)]⟩ := by
    rw [x.onResponse_eq hstreaming, houtcome]
    simp only [hclosed, if_true]
  refine truthful_of_silent ?_ ?_ ?_
  · intro message hmessage
    rw [hrun] at hmessage
    exact nomatch hmessage
  · intro n
    rw [hrun]
    exact not_reports_of_error _ _ _ _ _ n
  · intro hopen
    exact nomatch hclosed.symm.trans hopen

/-- A response that an engine that fails open rejects goes on as it was. If nothing was masked
before, that is all; else it counts as rewritten, and the number of members that were masked is
reported. -/
theorem onResponse_of_rejected_open (hstreaming : response.isStreaming = false)
    (hopen : x.engine.settings.failClosed = false) {f : Failure} {hits : List Text}
    (houtcome : x.engine.settings.outcome response.body = .rejected f hits) :
    (x.onResponse response).result = .ok (.ofHits hits response) ∧
      ∀ n, (x.onResponse response).Reports "response" response.session n ↔
        x.verbose = true ∧ hits ≠ [] ∧ n = hits.length := by
  have hrun : x.onResponse response = ⟨.ok (.ofHits hits response),
      if f.isLogged then [Engine.passedOn f] else [],
      x.report "response" response.session (hits.foldl Tally.add .empty)⟩ := by
    rw [x.onResponse_eq hstreaming, houtcome]
    simp only [hopen, Bool.false_eq_true, if_false]
  rw [hrun]
  refine ⟨rfl, ?_⟩
  intro n
  rw [reports_iff (isError_of_passedOn f) rfl, total_hits, ne_eq, List.length_eq_zero_iff]

/-- A response that is rejected before anything was masked is dealt with truthfully, also by an
engine that fails open: with no hits it goes on as it was, in silence. -/
theorem truthful_of_rejected_nil (hstreaming : response.isStreaming = false)
    (hopen : x.engine.settings.failClosed = false) {f : Failure}
    (houtcome : x.engine.settings.outcome response.body = .rejected f []) :
    x.Truthful response := by
  obtain ⟨hresult, hreports⟩ := onResponse_of_rejected_open hstreaming hopen houtcome
  refine truthful_of_silent ?_ ?_ ?_
  · intro message hmessage
    exact nomatch hresult.symm.trans hmessage
  · intro n hn
    obtain ⟨-, hne, -⟩ := (hreports n).mp hn
    exact hne rfl
  · intro _
    exact hresult

/-- A response whose walk breaks off goes on as it was, but as a rewritten one, and with a report of
what was masked before. -/
theorem onResponse_of_breaksOff (hstreaming : response.isStreaming = false)
    (hopen : x.engine.settings.failClosed = false)
    (hbreaks : x.engine.settings.BreaksOff response.body) :
    (x.onResponse response).result = .ok (.rewritten response) ∧
      (x.verbose = true →
        ∃ n, 0 < n ∧ (x.onResponse response).Reports "response" response.session n) := by
  obtain ⟨f, hits, houtcome, hne⟩ := Settings.breaksOff_iff.mp hbreaks
  obtain ⟨hresult, hreports⟩ := onResponse_of_rejected_open hstreaming hopen houtcome
  rw [Reply.ofHits_eq_rewritten_iff.mpr ⟨hne, rfl⟩] at hresult
  refine ⟨hresult, ?_⟩
  intro hverbose
  exact ⟨hits.length, List.length_pos_iff.mpr hne, (hreports _).mpr ⟨hverbose, hne, rfl⟩⟩

/-- A response whose walk breaks off is not dealt with truthfully. What goes on would have to be a
masked document, and the text was rejected. -/
theorem not_truthful_of_breaksOff (hstreaming : response.isStreaming = false)
    (hopen : x.engine.settings.failClosed = false)
    (hbreaks : x.engine.settings.BreaksOff response.body) : ¬ x.Truthful response := by
  intro htruthful
  obtain ⟨hresult, -⟩ := onResponse_of_breaksOff hstreaming hopen hbreaks
  obtain ⟨body, n, hmasks, -⟩ := htruthful.rewritten _ hresult
  -- Something goes on in the place of the response, and it would have to be a masked document.
  obtain ⟨f, hits, houtcome, -⟩ := Settings.breaksOff_iff.mp hbreaks
  exact hmasks.not_rejects f (Settings.exists_outcome_eq_rejected_iff.mp ⟨hits, houtcome⟩)

/-- A request with a value that is refused goes on as it was, without a report, however many members
were masked before. The hook for requests decides by the refusal. -/
theorem onRequest_of_refuses {request : Request} (hobject : request.body.isObject = true)
    (henabled : x.engine.settings.enabled = true) (hopen : x.engine.settings.failClosed = false)
    (hrefuses : x.engine.settings.Refuses request.body) :
    (x.onRequest request).result = .ok .asReceived ∧
      ∀ n, ¬ (x.onRequest request).Reports "request" request.session n := by
  obtain ⟨r, hr⟩ := Settings.refuses_iff.mp hrefuses
  have hrun : x.onRequest request = ⟨.ok .asReceived, [],
      [.error "Forwarding request unmasked" (some (Failure.internal r).message)]⟩ := by
    rw [x.onRequest_of_object henabled hobject, hr]
    simp only [hopen, Bool.false_eq_true, if_false]
  rw [hrun]
  exact ⟨rfl, not_reports_of_error _ _ _ _ _⟩

/-- Responses are dealt with truthfully, but for one case: an engine fails open, and a walk breaks
off. Then the very text that came counts as rewritten, and a verbose exchange reports the fields
that were masked before. A request with a value that is refused goes on as it was, without a report.
-/
theorem truthful_iff (x : Exchange) {response : Response}
    (hstreaming : response.isStreaming = false) :
    (x.Truthful response ↔
      x.engine.settings.failClosed = true ∨ ¬ x.engine.settings.BreaksOff response.body) ∧
    (x.engine.settings.failClosed = false → x.engine.settings.BreaksOff response.body →
      (x.onResponse response).result = .ok (.rewritten response) ∧
      (x.verbose = true →
        ∃ n, 0 < n ∧ (x.onResponse response).Reports "response" response.session n)) ∧
    (∀ request : Request, request.body.isObject = true → x.engine.settings.enabled = true →
      x.engine.settings.failClosed = false → x.engine.settings.Refuses request.body →
      (x.onRequest request).result = .ok .asReceived ∧
        ∀ n, ¬ (x.onRequest request).Reports "request" request.session n) := by
  refine ⟨?_, onResponse_of_breaksOff hstreaming, fun request => onRequest_of_refuses⟩
  constructor
  · intro htruthful
    cases hclosed : x.engine.settings.failClosed with
    | true => exact .inl rfl
    | false =>
        right
        intro hbreaks
        exact not_truthful_of_breaksOff hstreaming hclosed hbreaks htruthful
  · intro h
    cases houtcome : x.engine.settings.outcome response.body with
    | passed => exact truthful_of_passed hstreaming houtcome
    | masked root hits => exact truthful_of_masked hstreaming houtcome
    | rejected f hits =>
        cases hclosed : x.engine.settings.failClosed with
        | true => exact truthful_of_rejected_closed hstreaming hclosed houtcome
        | false =>
            -- Hits before a rejection are what it means that a walk breaks off.
            have hnil : hits = [] := by
              by_contra hne
              have hbreaks := Settings.breaksOff_iff.mpr ⟨f, hits, houtcome, hne⟩
              exact h.resolve_left (by simp [hclosed]) hbreaks
            rw [hnil] at houtcome
            exact truthful_of_rejected_nil hstreaming hclosed houtcome

/-- A verbose exchange around an engine like `Engine.starEngine`, but one that fails open. It masks
the fields `a` and refuses the value `x`. -/
def openExchange : Exchange := ⟨⟨{ Engine.starEngine.settings with failClosed := false }⟩, true⟩

/-- A response whose second `a` holds the value that is refused. -/
def brokenResponse : Response :=
  ⟨200, none, [], "\x7b\"a\":\"1\",\"b\":\x7b\"a\":\"x\"\x7d\x7d", false⟩

/-- The tree of `brokenResponse`: the first `a` is masked, and the second one is refused. -/
def brokenTree : Record Json := [("a", .string "1"), ("b", .object [("a", .string "x")])]

/-- The walk breaks off at the second `a`. What goes on is the text that came, as a response of its
own, and one masked field is reported. -/
theorem truthful_iff_brokenResponse :
    brokenResponse.isStreaming = false ∧ openExchange.engine.settings.failClosed = false ∧
    openExchange.engine.settings.BreaksOff brokenResponse.body ∧
    ¬ openExchange.Truthful brokenResponse ∧
    (openExchange.onResponse brokenResponse).result = .ok (.rewritten brokenResponse) ∧
    (openExchange.onResponse brokenResponse).log
      = [.info "response Masked 1 field(s): star=1"] := by
  have hparse : Json.parse .same brokenResponse.body = .ok (.object brokenTree) := by
    decide +kernel
  have hvisits : (Json.object brokenTree).visits = [⟨"a", "1"⟩] ++ ⟨"a", "x"⟩ :: [] := by
    decide +kernel
  have hrefused : openExchange.engine.settings.maskVisit ⟨"a", "x"⟩ = .error (.error "no") := by
    decide +kernel
  have hbreaks : openExchange.engine.settings.BreaksOff brokenResponse.body :=
    .mk ⟨rfl, by decide +kernel⟩ hparse hvisits (by decide +kernel) hrefused
      ⟨⟨"a", "1"⟩, List.mem_singleton.mpr rfl, by decide +kernel⟩
  have hstreaming : brokenResponse.isStreaming = false := rfl
  obtain ⟨hiff, hrewritten, -⟩ := truthful_iff openExchange hstreaming
  refine ⟨rfl, rfl, hbreaks, ?_, (hrewritten rfl hbreaks).1, by decide +kernel⟩
  rw [hiff]
  exact fun h => h.elim Bool.false_ne_true fun hnot => hnot hbreaks

end Exchange

end FieldMask
