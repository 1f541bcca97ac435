import FieldMask.Proofs.Document
import FieldMask.Proofs.Json.Path
import FieldMask.Proofs.Provided

/-!
# `FieldMask.Proofs.Coverage`: every value in scope is hidden

Whether a text is a document is decided by its first unit that is no white space: an opening brace.
What stands inside, the names and values of members, plays no part in it.
`maskDocument_covers` follows from there. With the strategies of the library, every text that starts
with a brace and can be read is masked, and every string member in scope, at whatever depth,
stands hidden in the result.
-/

set_option autoImplicit false

namespace FieldMask

namespace Engine

variable (e : Engine)

/-- No content of a document switches masking off. A text that starts with a brace and can be read
gives a document in which each member `name` with the string `value`, in scope and with a strategy,
carries what the strategy makes of `value`. -/
theorem maskDocument_covers (henabled : e.settings.enabled = true)
    (hprovided : e.settings.AllProvided) {t : Text} {j : Json}
    (hparse : Json.parse .same t = .ok j)
    (hbrace : (t.dropWhile Json.Cursor.isSpace).head? = some 0x7B) (tally : Tally) :
    ∃ out masked, (e.maskDocument t tally).result = .ok out ∧
      (e.maskDocument t tally).log = [] ∧ Json.parse .same out = .ok masked ∧
      ∀ (path : List Json.Step) (name value : Text) (strategy : Strategy),
        j.follow? (path ++ [.member name]) = some (.string value) →
        e.settings.fields.allows name = true →
        e.settings.registry.find? name = some strategy →
        ∃ hidden, strategy.mask value = .ok hidden ∧
          masked.follow? (path ++ [.member name]) = some (.string hidden) := by
  -- The brace alone makes the root an object, whatever members it has.
  obtain ⟨root, rfl⟩ : ∃ root, j = .object root := by
    have hobject := (Json.isObject_of_parse hparse).mpr hbrace
    cases j with
    | object root => exact ⟨root, rfl⟩
    | _ => exact nomatch hobject
  have hrefusal := e.settings.refusal?_of_provided hprovided (Json.object root).visits
  have hrun := e.maskDocument_of_object henabled hparse tally
  rw [hrefusal] at hrun
  refine ⟨_, _, congrArg DocumentRun.result hrun, congrArg DocumentRun.log hrun,
    Json.parse_print_mapVisits _ hparse, ?_⟩
  intro path name value strategy hfollow hallows hfind
  have hstrategy : e.settings.strategyFor? name = some strategy := by
    rw [Settings.strategyFor?, if_pos hallows, hfind]
  obtain ⟨c, hc⟩ := e.settings.provided_of_strategyFor? hprovided hstrategy
  have hhidden : e.settings.masked ⟨name, value⟩ = c.apply value :=
    e.settings.masked_of_provided hstrategy hc
  refine ⟨c.apply value, Strategy.mask_of_provided hc value, ?_⟩
  rw [← hhidden]
  exact Json.follow?_mapVisits _ path hfollow

/-- An engine with the default fields and strategies, as it is created without any options. -/
def defaultEngine : Engine := create {}

/-- A document whose objects have the members of a number, and a mail address inside a list. Having
such members makes none of them a number. -/
def numberLikeDocument : Text :=
  ("\x7b\"value\":\"1\",\"isLosslessNumber\":true," : Text) ++
    ("\"list\":[\x7b\"isLosslessNumber\":true,\"email\":\"ann@x.org\"\x7d]\x7d" : Text)

/-- The tree that `numberLikeDocument` is read as: its objects are objects like any other. -/
def numberLikeTree : Json :=
  .object [("value", .string "1"), ("isLosslessNumber", .bool true),
    ("list", .array [.object [("isLosslessNumber", .bool true), ("email", .string "ann@x.org")]])]

/-- Each of the default strategies is one that the library provides, so `maskDocument_covers` is
about this engine. -/
theorem allProvided_defaultEngine : defaultEngine.settings.AllProvided := by
  intro s hs
  have hs : s ∈ Strategy.defaults := hs
  simp only [Strategy.defaults, List.mem_cons, List.not_mem_nil, or_false] at hs
  rcases hs with rfl | rfl | rfl
  · exact ⟨_, .names⟩
  · exact ⟨_, .emails⟩
  · exact ⟨_, .phones⟩

/-- The mail address of `numberLikeDocument` is hidden, although the object around it has a member
that marks numbers elsewhere. -/
theorem maskDocument_covers_numberLikeDocument :
    defaultEngine.settings.enabled = true ∧ defaultEngine.settings.AllProvided ∧
    Json.parse .same numberLikeDocument = .ok numberLikeTree ∧
    (numberLikeDocument.dropWhile Json.Cursor.isSpace).head? = some 0x7B ∧
    ∃ out masked, (defaultEngine.maskDocument numberLikeDocument .empty).result = .ok out ∧
      Json.parse .same out = .ok masked ∧
      masked.follow? [.member "list", .item 0, .member "email"] = some (.string "a**@x.org") := by
  have hparse : Json.parse .same numberLikeDocument = .ok numberLikeTree := by decide +kernel
  have hbrace : (numberLikeDocument.dropWhile Json.Cursor.isSpace).head? = some 0x7B := by
    decide +kernel
  have hfind : defaultEngine.settings.registry.find? "email" = some Strategy.forEmails :=
    Registry.find?_of_first [Strategy.forNames] [Strategy.forPhones] rfl (by decide +kernel)
      (by decide +kernel)
  obtain ⟨out, masked, hresult, _, hread, hcovers⟩ :=
    defaultEngine.maskDocument_covers rfl allProvided_defaultEngine hparse hbrace .empty
  obtain ⟨hidden, hmask, hfollow⟩ :=
    hcovers [.member "list", .item 0] "email" "ann@x.org" Strategy.forEmails
      (by decide +kernel) (by decide +kernel) hfind
  have hhidden : hidden = "a**@x.org" := by
    have hmask : Mask.email "ann@x.org" = hidden := Except.ok.inj hmask
    rw [← hmask]
    decide +kernel
  refine ⟨rfl, allProvided_defaultEngine, hparse, hbrace, out, masked, hresult, hread, ?_⟩
  rw [← hhidden]
  exact hfollow

end Engine

end FieldMask
