import FieldMask.Proofs.Json.RoundTrip
import FieldMask.Proofs.Walk

/-!
# `FieldMask.Proofs.Document`: what comes of a document

A document whose root is an object is read, walked and written back. `maskDocument_of_object` puts
the three together: the run is decided by the string members of the tree, as the walk is.

What is written is read back as the tree that the walk left (`Json.parse_print_mapVisits`), since a
tree that was read is well formed and the walk keeps it so. `parse_maskDocument` is the statement
about whole documents: unless it fails, masking gives a document again, with the same tree but for
the texts under the members in scope.
-/

set_option autoImplicit false

namespace FieldMask

open Json (Visit)

/-- A text with an opening brace after white space is not blank, so an engine that is switched on
reads it. -/
theorem Text.isBlank_of_brace {t : Text}
    (h : (t.dropWhile Json.Cursor.isSpace).head? = some 0x7B) : t.isBlank = false := by
  have hmem : (0x7B : CodeUnit) ∈ t :=
    (List.dropWhile_suffix _).subset (List.mem_of_head? h)
  have hblank : ¬ Unicode.isBlank 0x7B = true := by decide
  exact List.all_eq_false.mpr ⟨0x7B, hmem, hblank⟩

namespace Engine

variable (e : Engine)

/-- A document that is read as an object is walked. If a value is refused, the document fails with
that refusal; if none is, the tree with all string members in scope masked is written. -/
theorem maskDocument_of_object (henabled : e.settings.enabled = true) {t : Text}
    {root : Record Json} (hparse : Json.parse .same t = .ok (.object root)) (tally : Tally) :
    e.maskDocument t tally =
      match e.settings.refusal? (Json.object root).visits with
      | some r =>
        e.failed t (.internal r)
          ((e.settings.done (Json.object root).visits).foldl e.settings.count tally)
      | none =>
        ⟨.ok ((Json.object root).mapVisits e.settings.masked).print,
          (Json.object root).visits.foldl e.settings.count tally, []⟩ := by
  have hblank : t.isBlank = false :=
    Text.isBlank_of_brace ((Json.isObject_of_parse hparse).mp rfl)
  rw [maskDocument, if_neg (by simp [henabled, hblank]), hparse]
  simp only [e.maskObject_eq, Settings.walkedOver]
  cases hrefusal : e.settings.refusal? (Json.object root).visits with
  | some r => rfl
  | none =>
      -- The walk got through, so the first members that it rewrote are all of them.
      simp only [e.rewriteFirstMembers_done hrefusal]
      rw [e.settings.done_eq_self hrefusal]

/-- Without a log line, a result for an object means that no value was refused: an engine that fails
closed gives no result then, and one that fails open logs the refusal. -/
theorem refusal?_of_maskDocument (henabled : e.settings.enabled = true) {t out : Text}
    {root : Record Json} (hparse : Json.parse .same t = .ok (.object root)) {tally : Tally}
    (hresult : (e.maskDocument t tally).result = .ok out)
    (hlog : (e.maskDocument t tally).log = []) :
    e.settings.refusal? (Json.object root).visits = none := by
  rw [e.maskDocument_of_object henabled hparse] at hresult hlog
  cases hrefusal : e.settings.refusal? (Json.object root).visits with
  | none => rfl
  | some r =>
      -- A refusal shows: as the result if the engine fails closed, else as a log line.
      rw [hrefusal] at hresult hlog
      simp only [failed] at hresult hlog
      split at hresult
      · exact nomatch hresult
      · next hopen =>
          rw [if_neg hopen] at hlog
          exact nomatch hlog

/-- Unless masking fails, what it gives is read again as an object. Its tree is the tree of the
document with every string member in scope replaced by what its strategy makes of it, whatever
text that is, and with everything else as it was. -/
theorem parse_maskDocument (henabled : e.settings.enabled = true) {t out : Text}
    {root : Record Json} (hparse : Json.parse .same t = .ok (.object root)) {tally : Tally}
    (hresult : (e.maskDocument t tally).result = .ok out)
    (hlog : (e.maskDocument t tally).log = []) :
    ∃ members, Json.parse .same out = .ok (.object members) ∧
      Json.object members = (Json.object root).mapVisits e.settings.masked ∧
      (∀ m ∈ (Json.object root).visits,
        match e.settings.strategyFor? m.field with
        | none => e.settings.masked m = m.value
        | some s => s.mask m.value = .ok (e.settings.masked m)) ∧
      (Json.object members).skeleton = (Json.object root).skeleton := by
  have hrefusal := e.refusal?_of_maskDocument henabled hparse hresult hlog
  rw [e.maskDocument_of_object henabled hparse, hrefusal] at hresult
  have hout : ((Json.object root).mapVisits e.settings.masked).print = out :=
    Except.ok.inj hresult
  have hread : Json.parse .same out = .ok ((Json.object root).mapVisits e.settings.masked) := by
    rw [← hout]
    exact Json.parse_print_mapVisits _ hparse
  have hskeleton := Json.skeleton_mapVisits e.settings.masked (.object root)
  rw [Json.mapVisits] at hread hskeleton ⊢
  refine ⟨_, hread, rfl, fun m hm => ?_, hskeleton⟩
  exact e.settings.masked_of_passes ((e.settings.refusal?_eq_none_iff _).mp hrefusal m hm)

/-- An engine whose strategy for `a` puts a quote, half of a surrogate pair and a control before the
value. All three have to be escaped when the result is written. -/
def quotingEngine : Engine where
  settings :=
    { enabled := true
      fields := ⟨["a"]⟩
      registry := ⟨[⟨"quoting", fun _ => true, fun v => .ok ([0x22, 0xD800, 0x01] ++ v)⟩]⟩
      failClosed := false }

/-- A document with white space, a number that is not in its shortest spelling, an escaped half of
a surrogate pair, a name that is an index, and a name that comes twice with one value. -/
def spacedDocument : Text :=
  " \x7b\"a\": \"x\", \"b\" : [1.50, \"\\uDC00\"], \"7\":\x7b\"a\":\"\\n\"\x7d,\"a\":\"x\"\x7d"

/-- The tree that `spacedDocument` is read as. Its index comes first, and the repeated name stands
where it stood first. -/
def spacedTree : Record Json :=
  [("7", .object [("a", .string [0x0A])]), ("a", .string "x"),
    ("b", .array [.number "1.50", .string [0xDC00]])]

/-- What `quotingEngine` makes of `spacedDocument`: no white space between tokens, the number as it
was spelled, and what needs it escaped. -/
def quotedDocument : Text :=
  ("\x7b\"7\":\x7b\"a\":\"\\\"\\ud800\\u0001\\n\"\x7d," : Text) ++
    ("\"a\":\"\\\"\\ud800\\u0001x\",\"b\":[1.50,\"\\udc00\"]\x7d" : Text)

/-- The result for `spacedDocument` is read again, with both members replaced. -/
theorem parse_maskDocument_spacedDocument :
    quotingEngine.settings.enabled = true ∧
    Json.parse .same spacedDocument = .ok (.object spacedTree) ∧
    (quotingEngine.maskDocument spacedDocument .empty).result = .ok quotedDocument ∧
    (quotingEngine.maskDocument spacedDocument .empty).log = [] ∧
    Json.parse .same quotedDocument = .ok (.object
      [("7", .object [("a", .string [0x22, 0xD800, 0x01, 0x0A])]),
        ("a", .string [0x22, 0xD800, 0x01, 0x78]),
        ("b", .array [.number "1.50", .string [0xDC00]])]) := by
  have hparse : Json.parse .same spacedDocument = .ok (.object spacedTree) := by decide +kernel
  have hresult : (quotingEngine.maskDocument spacedDocument .empty).result
      = .ok quotedDocument := by decide +kernel
  have hlog : (quotingEngine.maskDocument spacedDocument .empty).log = [] := by decide +kernel
  obtain ⟨members, hread, hmembers, _, _⟩ :=
    quotingEngine.parse_maskDocument rfl hparse hresult hlog
  refine ⟨rfl, hparse, hresult, hlog, ?_⟩
  rw [hread, hmembers]
  decide +kernel

end Engine

end FieldMask
