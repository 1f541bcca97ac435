import FieldMask.Proofs.Text.Utf8
import FieldMask.Proofs.Walk
import FieldMask.Stream

/-!
# `FieldMask.Proofs.Stream`: documents in chunks and documents as a whole

A text that comes as UTF-8, in chunks, is put together again before it is masked. The chunks can be
cut anywhere, also inside a character, and some can be strings: all that counts is which bytes they
are together (`transform_of_collect`). `adapters_agree` compares what the masked stream and the
transform make of the chunks with what the engine makes of the text. The results, the counts and the
log are the same.

A masked stream either has an output or reports one problem, be it that the source failed or that
the engine refused the document (`output_eq_none_iff`).
-/

set_option autoImplicit false

namespace FieldMask.Stream

variable {e : Engine} {chunks : List Chunk} {tally : Tally}

/-- A masked stream whose transform gives bytes gives these bytes, and reports no problem. -/
theorem mask_of_transform {out : Bytes} (h : (transform e chunks tally).result = .ok out) :
    (mask e ⟨chunks, none⟩ tally).output = some out ∧
      (mask e ⟨chunks, none⟩ tally).problems = [] := by
  simp only [mask, h, and_self]

/-- A masked stream whose transform is refused gives nothing and reports the failure, and nothing
else. -/
theorem mask_of_refused {f : Failure} (h : (transform e chunks tally).result = .error f) :
    (mask e ⟨chunks, none⟩ tally).output = none ∧
      (mask e ⟨chunks, none⟩ tally).problems = [maskProblem f] := by
  simp only [mask, h, and_self]

/-- A masked stream with an output reports no problem, whatever its source is. -/
theorem problems_of_output {source : Source} {out : Bytes}
    (h : (mask e source tally).output = some out) : (mask e source tally).problems = [] := by
  obtain ⟨chunks, failure⟩ := source
  cases failure with
  | some failure => exact nomatch h
  | none =>
      cases hresult : (transform e chunks tally).result with
      | ok _ => exact (mask_of_transform hresult).2
      | error f =>
          rw [(mask_of_refused hresult).1] at h
          exact nomatch h

/-- A source that does not fail is counted and logged as its transform is. -/
theorem mask_leaves (e : Engine) (chunks : List Chunk) (tally : Tally) :
    (mask e ⟨chunks, none⟩ tally).tally = (transform e chunks tally).tally ∧
      (mask e ⟨chunks, none⟩ tally).log = (transform e chunks tally).log := by
  cases h : (transform e chunks tally).result with
  | ok out => simp only [mask, h, and_self]
  | error f => simp only [mask, h, and_self]

/-- There is no output exactly if one problem was reported. -/
theorem output_eq_none_iff (e : Engine) (source : Source) (tally : Tally) :
    (mask e source tally).output = none ↔ (mask e source tally).problems.length = 1 := by
  obtain ⟨chunks, failure⟩ := source
  cases failure with
  | some failure => exact ⟨fun _ => rfl, fun _ => rfl⟩
  | none =>
      cases h : (transform e chunks tally).result with
      | ok out =>
          obtain ⟨houtput, hproblems⟩ := mask_of_transform h
          rw [houtput, hproblems]
          simp
      | error f =>
          obtain ⟨houtput, hproblems⟩ := mask_of_refused h
          rw [houtput, hproblems]
          simp

/-- Strings that a text is cut into between its code points have the bytes of the text. A cut
through a surrogate pair would lose it. -/
theorem collect_texts {parts : List Text} (hparts : ∀ p ∈ parts, p.IsPaired) :
    collect (parts.map .text) = Utf8.encode parts.flatten := by
  rw [Utf8.encode_flatten hparts, collect, List.flatMap_map]
  rfl

/-- Chunks that have the bytes of a text are transformed as that text is masked: it is what is read
back from those bytes. -/
theorem transform_of_collect {t : Text} (ht : t.IsPaired) (hcut : collect chunks = Utf8.encode t) :
    transform e chunks tally
      = ⟨(e.maskDocument t tally).result.map Utf8.encode, (e.maskDocument t tally).tally,
          (e.maskDocument t tally).log⟩ := by
  rw [transform, hcut, Utf8.decode_encode ht]

/-- Both adapters do with the chunks of a text what the engine does with the text.

The chunks have the bytes of the text, in whatever pieces; strings cut between code points are one
way to have them. The counts and the log are those of the engine. If the engine gives a text, both
adapters give its bytes, and no problem is reported. If it fails, the transform fails in the same
way, and the masked stream gives nothing and reports the failure. A source that fails, after
whatever chunks, gives nothing but the report of that, and the engine takes no notice. In every run,
there is no output exactly if one problem was reported. -/
theorem adapters_agree (e : Engine) {t : Text} (ht : t.IsPaired) {chunks : List Chunk}
    (hcut : collect chunks = Utf8.encode t) (tally : Tally) :
    let direct := e.maskDocument t tally
    let stream := mask e ⟨chunks, none⟩ tally
    let transformed := transform e chunks tally
    (stream.tally = direct.tally ∧ stream.log = direct.log) ∧
    (transformed.tally = direct.tally ∧ transformed.log = direct.log) ∧
    (∀ out, direct.result = .ok out →
      stream.output = some (Utf8.encode out) ∧ stream.problems = [] ∧
      transformed.result = .ok (Utf8.encode out)) ∧
    (∀ f, direct.result = .error f →
      stream.output = none ∧ stream.problems = [("Data masking failed: " : Text) ++ f.message] ∧
      transformed.result = .error f) ∧
    (∀ before failure, mask e ⟨before, some failure⟩ tally
      = ⟨none, [("Failed to read input stream: " : Text) ++ failure], tally, []⟩) ∧
    (∀ source tally', (mask e source tally').output = none ↔
      (mask e source tally').problems.length = 1) ∧
    (∀ parts : List Text, parts.flatten = t → (∀ p ∈ parts, p.IsPaired) →
      collect (parts.map .text) = Utf8.encode t) := by
  intro direct stream transformed
  -- The transform is compared with the engine, and the stream then with the transform.
  have hrun : transformed = ⟨direct.result.map Utf8.encode, direct.tally, direct.log⟩ :=
    transform_of_collect ht hcut
  obtain ⟨htally, hlog⟩ := mask_leaves e chunks tally
  refine ⟨⟨?_, ?_⟩, ⟨?_, ?_⟩, ?_, ?_, ?_, ?_, ?_⟩
  · exact htally.trans (congrArg TransformRun.tally hrun)
  · exact hlog.trans (congrArg TransformRun.log hrun)
  · exact congrArg TransformRun.tally hrun
  · exact congrArg TransformRun.log hrun
  · intro out hout
    have hresult : transformed.result = .ok (Utf8.encode out) := by
      rw [hrun, hout]
      rfl
    obtain ⟨houtput, hproblems⟩ := mask_of_transform hresult
    exact ⟨houtput, hproblems, hresult⟩
  · intro f hf
    have hresult : transformed.result = .error f := by
      rw [hrun, hf]
      rfl
    obtain ⟨houtput, hproblems⟩ := mask_of_refused hresult
    exact ⟨houtput, hproblems, hresult⟩
  · intro before failure
    rfl
  · intro source tally'
    exact output_eq_none_iff e source tally'
  · intro parts hflatten hparts
    rw [collect_texts hparts, hflatten]

/-- A document with a character of two bytes under a field that `Engine.starEngine` masks. -/
def accentedDocument : Text := "\x7b\"a\":\"é\"\x7d"

/-- Its bytes: a string first, then bytes that are cut inside the character, with nothing between
the two halves. -/
def accentedChunks : List Chunk :=
  [.text "\x7b\"a\"", .bytes [0x3A, 0x22, 0xC3], .bytes [], .bytes [0xA9, 0x22, 0x7D]]

/-- The character is put together again and masked, by both adapters. -/
theorem adapters_agree_accentedChunks :
    accentedDocument.IsPaired ∧ collect accentedChunks = Utf8.encode accentedDocument ∧
    (Engine.starEngine.maskDocument accentedDocument .empty).result
      = .ok ("\x7b\"a\":\"*\"\x7d" : Text) ∧
    (mask Engine.starEngine ⟨accentedChunks, none⟩ .empty).output
      = some (Utf8.encode ("\x7b\"a\":\"*\"\x7d" : Text)) ∧
    (transform Engine.starEngine accentedChunks .empty).result
      = .ok (Utf8.encode ("\x7b\"a\":\"*\"\x7d" : Text)) ∧
    (mask Engine.starEngine ⟨accentedChunks, none⟩ .empty).tally = ⟨1, [("star", 1)]⟩ := by
  have hpaired : accentedDocument.IsPaired := by
    show ∀ c ∈ accentedDocument.points, ¬ (0xD800 ≤ c ∧ c ≤ 0xDFFF)
    decide
  have hcut : collect accentedChunks = Utf8.encode accentedDocument := by decide
  have hresult : (Engine.starEngine.maskDocument accentedDocument .empty).result
      = .ok ("\x7b\"a\":\"*\"\x7d" : Text) := by decide +kernel
  obtain ⟨⟨htally, -⟩, -, hok, -⟩ := adapters_agree Engine.starEngine hpaired hcut .empty
  obtain ⟨houtput, -, htransformed⟩ := hok _ hresult
  refine ⟨hpaired, hcut, hresult, houtput, htransformed, ?_⟩
  rw [htally]
  decide +kernel

end FieldMask.Stream
