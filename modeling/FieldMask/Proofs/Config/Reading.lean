import FieldMask.Proofs.Config.Comments
import FieldMask.Proofs.Config.Schema
import FieldMask.Proofs.Json.Soundness

/-!
# `FieldMask.Proofs.Config.Reading`: what a configuration text means

A text with comments is read as the options that the configuration in it gives
(`parse_of_spellsText`). How the configuration is spelled plays no part: neither the white space,
the comments and the commas before closing brackets, nor the order of the settings and the spellings
of strings and numbers.

The way there is `strip_of_spells`, which finds the plain text, then the theorem about plain JSON
(`Json.parse_of_spells`), and then `compile_of_patterns`.
-/

set_option autoImplicit false

namespace FieldMask.Config

/-- A text that is read as plain JSON is left as it is. It is its own plain text, since plain JSON
is spelled without comments and without commas before closing brackets. -/
theorem strip_of_parse {t : Text} {j : Json} (h : Json.parse .last t = .ok j) : strip t = t := by
  obtain ⟨raw, w, body, w', hw, hspells, hw', -, rfl⟩ := Json.parse_eq_ok_iff_spells.mp h
  exact strip_of_spells
    (.mk (gap_of_isSpaces hw) (spells_of_plain raw hspells) (.closed (gap_of_isSpaces hw')))

/-- A text with comments is read, without them, as what its tree stands for, also if a comma stands
alone in an empty container of it. The tree has its repeated members settled by the last. -/
theorem parse_strip_of_loose {raw value : Json} {text plain : Text} (h : LooseText raw text plain)
    (hvalue : Json.settle .last raw = some value) :
    Json.parse .last (strip text) = .ok value := by
  rw [strip_of_loose h]
  cases h with
  | mk hg hraw hg' =>
      exact Json.parse_of_spells hvalue (loose_plain raw hraw) hg.isSpaces hg'.isSpaces

/-- The same for the spellings in which commas only trail, which are the ones a configuration is
meant to have. -/
theorem parse_strip {raw value : Json} {text plain : Text} (h : SpellsText raw text plain)
    (hvalue : Json.settle .last raw = some value) : Json.parse .last (strip text) = .ok value :=
  parse_strip_of_loose (looseText_of_spells h) hvalue

/-- A text that spells a configuration, with comments and with commas before closing brackets, is
read as the options of that configuration: if it has the right shape and its patterns are patterns,
there are such options, and the text gives them. Only comments and such commas are taken out of the
text, so nothing is taken out of plain JSON. -/
theorem parse_of_spellsText {raw value : Json} {text plain : Text} {file : ConfigFile}
    (hspells : SpellsText raw text plain) (hvalue : Json.settle .last raw = some value)
    (hfile : ConfigFile.ofJson value = .ok file)
    (hpatterns : ∀ r ∈ file.rules.getD [], r.HasPattern) (source : Text) :
    (∃ options, file.compile = .ok options ∧ parse source text = .ok options) ∧
    strip text = plain ∧ ∀ t j, Json.parse .last t = .ok j → strip t = t := by
  obtain ⟨options, hcompile⟩ := compile_of_patterns hfile hpatterns
  refine ⟨⟨options, hcompile, ?_⟩, strip_of_spells hspells, fun t j => strip_of_parse⟩
  have hjson : (Json.parse .last (strip text)).mapError (ConfigError.invalidJson source)
      = .ok value := Result.mapError_eq_ok_iff.mpr (parse_strip hspells hvalue)
  have hshape : (ConfigFile.ofJson value).mapError (ConfigError.invalidShape source)
      = .ok file := Result.mapError_eq_ok_iff.mpr hfile
  exact Result.bind_eq_ok_iff.mpr
    ⟨value, hjson, Result.bind_eq_ok_iff.mpr ⟨file, hshape, hcompile⟩⟩

/-- A configuration with comments, with a comma after every last item and member, and with commas,
brackets, slashes and a quote in its strings. All that could lead the scan astray is in it. -/
def commentedText : Text :=
  ("\x7b //]\n\"rules\":[\x7b\"id\":\"a,]\",\"match\":\"b//\\\"\",\x7d,]//,\n,\x7d//," : Text)

/-- The plain text of `commentedText`: its white space is still there, also the line feed that ends
a comment, but none of its comments and trailing commas. -/
def plainText : Text :=
  ("\x7b \n\"rules\":[\x7b\"id\":\"a,]\",\"match\":\"b//\\\"\"\x7d]\n\x7d" : Text)

/-- The tree that both of them spell: one rule, whose name ends in a comma and a bracket and whose
pattern has two slashes and a quote. -/
def ruleTree : Json :=
  .object [("rules", .array [.object [("id", .string "a,]"), ("match", .string "b//\"")]])]

/-- The text spells the tree, and the plain text is what is left of it. Built from the inside out,
one gap and one separator after the other. -/
theorem spellsText_commentedText : SpellsText ruleTree commentedText plainText := by
  have hrule : Spells (.object [("id", .string "a,]"), ("match", .string "b//\"")]) _ _ :=
    .object .nil (.cons .none (Json.spellsUnits_printUnits _) .nil .nil
      (.string (Json.spellsUnits_printUnits _)) .nil
      (.cons (.comma .nil) (Json.spellsUnits_printUnits _) .nil .nil
        (.string (Json.spellsUnits_printUnits _)) .nil (.trailing .nil)))
  have hrules : Spells (.array [.object [("id", .string "a,]"), ("match", .string "b//\"")]]) _ _ :=
    .array .nil (.cons .none hrule .nil (.trailing .nil))
  have hopening : Gap (" //]\n" : Text) (" \n" : Text) :=
    .space rfl (.comment (c := [0x5D]) (by decide) .nil)
  have hcomment : Gap ("//,\n" : Text) ("\n" : Text) := .comment (c := [0x2C]) (by decide) .nil
  have htext : SpellsText ruleTree _ _ :=
    .mk .nil (.object hopening (.cons .none (Json.spellsUnits_printUnits _) .nil .nil hrules
      hcomment (.trailing .nil))) (.unclosed .nil (c := [0x2C]) (by decide))
  exact htext

/-- The configuration that `ruleTree` says: its one rule, and no other setting. -/
def ruleFile : ConfigFile := ⟨none, none, none, none, some [⟨"a,]", "b//\"", none⟩]⟩

/-- `commentedText` is read as the options of its rule, which has a pattern. The comma and the
slashes in its strings are not touched. -/
theorem parse_commentedText :
    SpellsText ruleTree commentedText plainText ∧ Json.settle .last ruleTree = some ruleTree ∧
    ConfigFile.ofJson ruleTree = .ok ruleFile ∧
    (∀ r ∈ ruleFile.rules.getD [], r.HasPattern) ∧
    (∃ options, ruleFile.compile = .ok options ∧ parse "mask.json" commentedText = .ok options) ∧
    strip commentedText = plainText := by
  have hvalue : Json.settle .last ruleTree = some ruleTree := by decide +kernel
  have hfile : ConfigFile.ofJson ruleTree = .ok ruleFile := by decide +kernel
  have hpatterns : ∀ r ∈ ruleFile.rules.getD [], r.HasPattern := by decide +kernel
  obtain ⟨hread, hplain, -⟩ :=
    parse_of_spellsText spellsText_commentedText hvalue hfile hpatterns "mask.json"
  exact ⟨spellsText_commentedText, hvalue, hfile, hpatterns, hread, hplain⟩

end FieldMask.Config
