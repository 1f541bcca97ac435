import FieldMask.Cli.Run
import FieldMask.Proofs.Outcome
import FieldMask.Proofs.Stream

/-!
# `FieldMask.Proofs.PassThrough`: documents that are passed through

A text is passed through if masking is switched off, if it is blank, or if it cannot be masked and
the engine fails open. The engine gives such a text back as it came (`result_of_passesThrough`).

A document that comes as bytes is read as UTF-8 first and written as UTF-8 in the end, also when it
is passed through. `passThrough` says what that makes of it, for a masked stream, for the transform
and for the program: the bytes of the text that was read. They are the bytes that came in exactly if
those are UTF-8. Any cut into chunks will do, also one inside a character.

A byte that is no UTF-8 does not come through (`strayByte_replaced`): in its place there are the
three bytes of the replacement character.
-/

set_option autoImplicit false

namespace FieldMask

/-- The text is given back as it came: masking is switched off, there is nothing to mask, or it
fails and the engine fails open. -/
def Settings.PassesThrough (s : Settings) (t : Text) : Prop :=
  s.enabled = false ∨ t.isBlank = true ∨ (s.failClosed = false ∧ ∃ f, s.Cause t f)

namespace Engine

/-- A text that is passed through is the result, unit for unit and whatever was counted before. -/
theorem result_of_passesThrough {e : Engine} {t : Text} (h : e.settings.PassesThrough t)
    (tally : Tally) : (e.maskDocument t tally).result = .ok t := by
  rw [e.maskDocument_eq]
  -- Where there is something to mask, only a failure can still be the reason.
  by_cases hattempts : e.settings.Attempts t
  · obtain ⟨hopen, f, hcause⟩ : e.settings.failClosed = false ∧ ∃ f, e.settings.Cause t f := by
      rcases h with henabled | hblank | hfails
      · exact absurd henabled (ne_false_of_eq_true hattempts.enabled)
      · exact absurd hblank (ne_true_of_eq_false hattempts.notBlank)
      · exact hfails
    obtain ⟨hits, houtcome⟩ := Settings.outcome_of_rejects ⟨hattempts, hcause⟩
    rw [houtcome]
    show (e.failed t f _).result = .ok t
    rw [failed, if_neg (by simp [hopen])]
  · rw [Settings.outcome_of_not_attempts hattempts]

end Engine

/-! ### Bytes -/

/-- A masking run whose stream gives bytes writes these bytes and succeeds, whether it is verbose or
not. -/
theorem Cli.run_of_output {arguments : List Text} {args : MaskArgs} {env : Environment}
    {read : FileReader} {stdin : List Chunk} {e : Engine} {out : Bytes}
    (hparse : parse arguments = .ok (.mask args)) (hengine : args.engine env read = .ok e)
    (hout : (Stream.mask e (args.source read stdin) .empty).output = some out) :
    (run arguments env read stdin).code = exitOk ∧ (run arguments env read stdin).stdout = out := by
  simp only [run, hparse, runMask, hengine, hout, and_self]

/-- A document that is passed through comes out as the bytes of the text that was read: from the
transform, from a masked stream and from the program, with the document from a file or from the
standard input. These are the bytes that came in exactly if those are UTF-8. -/
theorem passThrough (e : Engine) {chunks : List Chunk} {bytes : Bytes}
    (hchunks : Stream.collect chunks = bytes)
    (hpass : e.settings.PassesThrough (Utf8.decode bytes)) :
    (∀ tally, (Stream.transform e chunks tally).result = .ok (Utf8.encode (Utf8.decode bytes))) ∧
    (∀ tally, (Stream.mask e ⟨chunks, none⟩ tally).output
        = some (Utf8.encode (Utf8.decode bytes)) ∧
      (Stream.mask e ⟨chunks, none⟩ tally).problems = []) ∧
    (∀ (arguments : List Text) (args : Cli.MaskArgs) (env : Environment) (read : FileReader)
        (stdin : List Chunk), Cli.parse arguments = .ok (.mask args) →
        args.engine env read = .ok e → args.source read stdin = ⟨chunks, none⟩ →
        (Cli.run arguments env read stdin).code = Cli.exitOk ∧
        (Cli.run arguments env read stdin).stdout = Utf8.encode (Utf8.decode bytes)) ∧
    (Utf8.encode (Utf8.decode bytes) = bytes ↔ Utf8.IsUtf8 bytes) := by
  -- The transform is the one step of all three ways, so it is enough to follow the text through it.
  have htransform : ∀ tally,
      (Stream.transform e chunks tally).result = .ok (Utf8.encode (Utf8.decode bytes)) := by
    intro tally
    rw [Stream.transform, hchunks]
    simp only [Engine.result_of_passesThrough hpass, Except.map]
  refine ⟨htransform, ?_, ?_, Utf8.encode_decode_eq_iff bytes⟩
  · intro tally
    exact Stream.mask_of_transform (htransform tally)
  · intro arguments args env read stdin hparse hengine hsource
    refine Cli.run_of_output hparse hengine ?_
    rw [hsource]
    exact (Stream.mask_of_transform (htransform .empty)).1

/-- The arguments of a run that masks nothing, because masking is switched off for it. -/
def Cli.disabledArgs : MaskArgs := { disable := true }

/-- The engine of such a run, with no variable set in the environment. -/
def Cli.disabledEngine : Engine := .create ((disabledArgs.options.orElse {}).resolve ⟨[]⟩)

/-- A folder without files, in which every path is missing. -/
def Cli.noFiles : FileReader := fun path => .error (.notFound path)

/-- A character that is cut in two by the chunks comes through, along all three ways. -/
theorem passThrough_splitCharacter :
    Stream.collect [.bytes [0x22, 0xC3], .bytes [0xAB, 0x22]] = [0x22, 0xC3, 0xAB, 0x22] ∧
    Cli.disabledEngine.settings.PassesThrough (Utf8.decode [0x22, 0xC3, 0xAB, 0x22]) ∧
    (Stream.mask Cli.disabledEngine ⟨[.bytes [0x22, 0xC3], .bytes [0xAB, 0x22]], none⟩
      .empty).output = some [0x22, 0xC3, 0xAB, 0x22] ∧
    (Cli.run ["--disable"] ⟨[]⟩ Cli.noFiles
      [.bytes [0x22, 0xC3], .bytes [0xAB, 0x22]]).stdout = [0x22, 0xC3, 0xAB, 0x22] := by
  have hchunks : Stream.collect [.bytes [0x22, 0xC3], .bytes [0xAB, 0x22]]
      = [0x22, 0xC3, 0xAB, 0x22] := rfl
  have hpass : Cli.disabledEngine.settings.PassesThrough
      (Utf8.decode [0x22, 0xC3, 0xAB, 0x22]) := .inl rfl
  obtain ⟨-, hmask, hrun, hutf8⟩ := passThrough Cli.disabledEngine hchunks hpass
  -- The four bytes encode three code points, the second one with two bytes.
  have hsame := hutf8.mpr ⟨[0x22, 0xEB, 0x22], by
    intro c hc
    simp only [List.mem_cons, List.not_mem_nil, or_false] at hc
    rcases hc with rfl | rfl | rfl <;> exact ⟨by decide, by decide⟩, by decide⟩
  rw [hsame] at hmask hrun
  exact ⟨hchunks, hpass, (hmask .empty).1,
    (hrun ["--disable"] Cli.disabledArgs ⟨[]⟩ Cli.noFiles _ (by decide) rfl rfl).2⟩

/-- A byte that is no UTF-8 does not come through, although masking is switched off. -/
theorem strayByte_replaced :
    Cli.disabledEngine.settings.PassesThrough (Utf8.decode [0xFF]) ∧
    Stream.collect [.bytes [0xFF]] = [0xFF] ∧
    (Stream.mask Cli.disabledEngine ⟨[.bytes [0xFF]], none⟩ .empty).output
      = some [0xEF, 0xBF, 0xBD] ∧
    (Stream.transform Cli.disabledEngine [.bytes [0xFF]] .empty).result
      = .ok [0xEF, 0xBF, 0xBD] ∧
    (Cli.run ["--disable"] ⟨[]⟩ Cli.noFiles [.bytes [0xFF]]).stdout = [0xEF, 0xBF, 0xBD] ∧
    ([0xEF, 0xBF, 0xBD] : Bytes) ≠ [0xFF] := by
  refine ⟨.inl rfl, rfl, ?_, ?_, ?_, ?_⟩ <;> decide +kernel

end FieldMask
