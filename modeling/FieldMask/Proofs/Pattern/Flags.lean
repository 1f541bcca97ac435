import FieldMask.Proofs.Result
import FieldMask.Strategy

/-!
# `FieldMask.Proofs.Pattern.Flags`: the letters of a pattern

Letters are allowed if they are among those that there are, none stands twice, and they name one
grammar at most (`validFlags_iff`). A field test drops two letters and adds a third. What is left is
allowed again, and it names the same mode, because none of the three has a part in the mode
(`ofFlags?_fieldFlags`). So a source with letters that is a pattern makes a field test with this
very pattern, and nothing else makes one (`FieldTest.ofSource_eq`).
-/

set_option autoImplicit false

namespace FieldMask.Pattern

/-! ### Letters that are allowed -/

/-- The check of the letters, which goes through them once, in terms of the letters as a whole. By
induction on the letters. -/
theorem validFlags_iff {flags : Text} :
    validFlags flags = true ↔ flags.Nodup ∧ (∀ u ∈ flags, u ∈ flagLetters) ∧
      ¬ (Text.unit 'u' ∈ flags ∧ Text.unit 'v' ∈ flags) := by
  have hletters : Text.unit 'u' ≠ Text.unit 'v' := by decide
  induction flags with
  | nil => simp [validFlags]
  | cons u rest ih =>
      simp only [validFlags, Bool.and_eq_true, Bool.not_eq_true', ih, List.nodup_cons,
        List.mem_cons, List.contains_iff_mem, beq_iff_eq, ← Bool.not_eq_true, Bool.and_eq_true]
      grind

/-- Letters stay allowed where some of them are dropped, since each of the three conditions does. -/
theorem validFlags_filter {flags : Text} (h : validFlags flags = true) (p : CodeUnit → Bool) :
    validFlags (flags.filter p) = true := by
  obtain ⟨hnodup, hletters, hgrammar⟩ := validFlags_iff.mp h
  refine validFlags_iff.mpr ⟨hnodup.filter p, fun u hu => ?_, fun ⟨hu, hv⟩ => ?_⟩
  · exact hletters u (List.mem_filter.mp hu).1
  · exact hgrammar ⟨(List.mem_filter.mp hu).1, (List.mem_filter.mp hv).1⟩

/-- The letter for letter case can be added where it is missing: it is one of the letters, and it
names no grammar. -/
theorem validFlags_append_i {flags : Text} (h : validFlags flags = true)
    (hmissing : Text.unit 'i' ∉ flags) : validFlags (flags ++ [Text.unit 'i']) = true := by
  obtain ⟨hnodup, hletters, hgrammar⟩ := validFlags_iff.mp h
  have hi : Text.unit 'i' ∈ flagLetters := by decide
  have hother : Text.unit 'u' ≠ Text.unit 'i' ∧ Text.unit 'v' ≠ Text.unit 'i' := by decide
  refine validFlags_iff.mpr ⟨?_, ?_, ?_⟩
  · rw [List.nodup_append]
    refine ⟨hnodup, by simp, fun u hu w hw => ?_⟩
    rw [List.mem_singleton.mp hw]
    rintro rfl
    exact hmissing hu
  · exact List.forall_mem_append.mpr ⟨hletters, List.forall_mem_singleton.mpr hi⟩
  · simp only [List.mem_append, List.mem_singleton, hother.1, hother.2, or_false]
    exact hgrammar

/-! ### The letters of a field test -/

/-- The letters of a field test are allowed if those of the pattern are, so changing them makes no
pattern fail. -/
theorem validFlags_fieldFlags {flags : Text} (h : validFlags flags = true) :
    validFlags (fieldFlags flags) = true := by
  have hkept := validFlags_filter h fun u => u != Text.unit 'g' && u != Text.unit 'y'
  unfold fieldFlags
  simp only
  split
  · exact hkept
  · next hmissing => exact validFlags_append_i hkept (by simpa using hmissing)

/-- A letter other than the three that are dropped or added is there for a field test exactly if the
pattern has it. -/
theorem contains_fieldFlags {u : CodeUnit} (hg : u ≠ Text.unit 'g') (hy : u ≠ Text.unit 'y')
    (hi : u ≠ Text.unit 'i') (flags : Text) : (fieldFlags flags).contains u = flags.contains u := by
  rw [Bool.eq_iff_iff, List.contains_iff_mem, List.contains_iff_mem]
  unfold fieldFlags
  simp only
  split
  · simp [hg, hy]
  · simp [hg, hy, hi]

/-- A field test reads its pattern in the mode of the pattern: the letters for the mode are neither
dropped nor added. -/
theorem ofFlags?_fieldFlags {flags : Text} (h : validFlags flags = true) :
    Mode.ofFlags? (fieldFlags flags) = Mode.ofFlags? flags := by
  have hsame : ∀ u ∈ [Text.unit 'u', Text.unit 'v', Text.unit 'm', Text.unit 's'],
      (fieldFlags flags).contains u = flags.contains u := by
    intro u hu
    simp only [List.mem_cons, List.not_mem_nil, or_false] at hu
    rcases hu with rfl | rfl | rfl | rfl <;>
      exact contains_fieldFlags (by decide) (by decide) (by decide) flags
  simp only [List.forall_mem_cons] at hsame
  obtain ⟨hu, hv, hm, hs, -⟩ := hsame
  rw [Mode.ofFlags?, Mode.ofFlags?, if_pos (validFlags_fieldFlags h), if_pos h, Grammar.ofFlags,
    Grammar.ofFlags, hu, hv, hm, hs]

/-- A pattern is what a source says in the mode that its letters name, and there is none unless they
name one. -/
theorem compile_eq_ok_iff {source flags : Text} {pattern : Pattern} :
    compile source flags = .ok pattern ↔
      ∃ mode, Mode.ofFlags? flags = some mode ∧ parse mode source = .ok pattern := by
  unfold compile
  cases hmode : Mode.ofFlags? flags with
  | none => simp
  | some mode => simp [Result.mapError_eq_ok_iff]

end FieldMask.Pattern

namespace FieldMask

/-- The field test of a source with letters has the pattern that they make, and there is one exactly
if they make a pattern: the letters that are dropped and added change neither. -/
theorem FieldTest.ofSource_eq (source flags : Text) :
    ofSource source flags = (Pattern.compile source flags).map .matching := by
  cases hpattern : Pattern.compile source flags with
  | error mistake =>
      rw [ofSource, hpattern]
      rfl
  | ok pattern =>
      obtain ⟨mode, hmode, hparse⟩ := Pattern.compile_eq_ok_iff.mp hpattern
      have hvalid : Pattern.validFlags flags = true := (Option.ite_none_right_eq_some.mp hmode).1
      have hagain : Pattern.compile source (fieldFlags flags) = .ok pattern :=
        Pattern.compile_eq_ok_iff.mpr
          ⟨mode, (Pattern.ofFlags?_fieldFlags hvalid).trans hmode, hparse⟩
      rw [ofSource, hpattern]
      show (Pattern.compile source (fieldFlags flags)).bind _ = _
      rw [hagain]
      rfl

end FieldMask
