import FieldMask.Proofs.Pattern.Flags
import FieldMask.Proofs.Pattern.Matcher
import FieldMask.Proofs.Provided
import FieldMask.Proofs.Renaming
import FieldMask.Proofs.Text.AsciiCase

/-!
# `FieldMask.Proofs.FieldCase`: field names in either case

A strategy that is defined by a field test (`Strategy.Defined`) ignores the case of ASCII letters in
a field name. A test for a contained text compares both in lower case. A pattern compares canonical
forms, and the two cases of an ASCII letter have one form in every mode. The allowlist compares
normal forms, which are in lower case.

So names that differ only in the case of ASCII letters are masked alike, also as the names of
members in a document (`asciiCase_ignored`).
-/

set_option autoImplicit false

namespace FieldMask

namespace Pattern

/-- The two cases of an ASCII letter have one canonical form. -/
theorem canonical_asciiSmallPoint (unicode : Bool) (c : Nat) :
    canonical unicode (Text.asciiSmallPoint c) = canonical unicode c := by
  refine Text.apply_asciiSmallPoint ?_ c
  cases unicode <;> decide +kernel

/-- The characters of a name in lower case are those of the name, each in lower case: no letter is
split or joined by it, in either way to read a text. -/
theorem characters_asciiLower (mode : Mode) (t : Text) :
    characters mode t.asciiLower = (characters mode t).map Text.asciiSmallPoint := by
  unfold characters
  split
  · exact Text.points_asciiLower t
  · simp [Text.asciiLower, Text.toNat_asciiSmall]

/-- A pattern ignores the case of ASCII letters, in every mode. -/
theorem test_asciiLower (pattern : Pattern) (t : Text) :
    pattern.test t.asciiLower = pattern.test t := by
  apply test_eq_of_canonical_eq
  rw [characters_asciiLower, List.map_map]
  exact List.map_congr_left fun c _ => canonical_asciiSmallPoint _ c

end Pattern

/-- A field test ignores the case of ASCII letters in the name. -/
theorem FieldTest.accepts_asciiLower (test : FieldTest) (field : Text) :
    test.accepts field.asciiLower = test.accepts field := by
  cases test with
  | containing part => rw [accepts, Text.lower_asciiLower, accepts]
  | matching pattern => exact pattern.test_asciiLower field

/-- An allowlist ignores the case of ASCII letters in the name. -/
theorem Allowlist.allows_of_asciiLower (a : Allowlist) {f g : Text}
    (h : f.asciiLower = g.asciiLower) : a.allows f = a.allows g := by
  rw [allows, ← normalize_asciiLower f, h, normalize_asciiLower, allows]

namespace Strategy

/-- The strategy is defined by a field test. -/
def Defined (s : Strategy) : Prop := ∃ name test mask, s = define name test mask

/-- Such a strategy ignores the case of ASCII letters in the name. -/
theorem accepts_of_asciiLower {s : Strategy} (hs : s.Defined) {f g : Text}
    (h : f.asciiLower = g.asciiLower) : s.accepts f = s.accepts g := by
  obtain ⟨name, test, mask, rfl⟩ := hs
  show test.accepts f = test.accepts g
  rw [← test.accepts_asciiLower f, h, test.accepts_asciiLower g]

/-- The strategies of the library are defined by field tests. -/
theorem defined_of_provided {s : Strategy} {c : Concealment} (h : s.Provided c) : s.Defined := by
  cases h <;> exact ⟨_, _, _, rfl⟩

end Strategy

namespace Settings

variable {s : Settings}

/-- All strategies are defined by a field test. -/
def AllDefined (s : Settings) : Prop := ∀ strategy ∈ s.registry.strategies, strategy.Defined

/-- An engine with such strategies ignores the case of ASCII letters. -/
theorem ignores_asciiLower (h : s.AllDefined) : s.Ignores Text.asciiLower :=
  ignores_of_forall (fun _ _ hfg => s.fields.allows_of_asciiLower hfg)
    fun strategy hstrategy _ _ hfg => Strategy.accepts_of_asciiLower (h strategy hstrategy) hfg

end Settings

/-- Field names that differ only in the case of ASCII letters are treated alike.

Every strategy that is defined by a field test accepts both or neither, whatever text or pattern the
test is made of: a pattern is any tree in any mode. In particular, every source that is a pattern
with its flags makes a field test, with that pattern, and strategies with this test accept both or
neither. The strategies that keep the end of a number and those of configuration rules are defined
in this way. Every allowlist allows both or neither. So an engine with such strategies masks a value
under one name as under the other; and from two documents that are the same but for the case of
ASCII letters in the names of members, it makes two that are so again, with the same counts and the
same log, or refuses both in the same way. -/
theorem asciiCase_ignored {f g : Text} (h : f.asciiLower = g.asciiLower) :
    (∀ name test mask,
      (Strategy.define name test mask).accepts f = (Strategy.define name test mask).accepts g) ∧
    (∀ source flags pattern, Pattern.compile source flags = .ok pattern →
      ∃ test, FieldTest.ofSource source flags = .ok test ∧ test = .matching pattern ∧
        ∀ name mask, (Strategy.define name test mask).accepts f
          = (Strategy.define name test mask).accepts g) ∧
    (∀ name test keep s, Strategy.trailingDigits name test keep = .ok s →
      s.accepts f = s.accepts g) ∧
    (∀ (r : Config.Rule) s, r.compile = .ok s → s.accepts f = s.accepts g) ∧
    (∀ a : Allowlist, a.allows f = a.allows g) ∧
    (∀ e : Engine, e.settings.AllDefined →
      (∀ value, e.maskValue f value = e.maskValue g value) ∧
      ∀ t u a b tally, Json.parse .same t = .ok a → Json.parse .same u = .ok b →
        a.rename Text.asciiLower = b.rename Text.asciiLower →
        (e.maskDocument t tally).SameUpTo Text.asciiLower (e.maskDocument u tally)) := by
  -- All kinds of strategies below are defined by a field test.
  have haccepts : ∀ s : Strategy, s.Defined → s.accepts f = s.accepts g :=
    fun s hs => Strategy.accepts_of_asciiLower hs h
  refine ⟨?_, ?_, ?_, ?_, fun a => a.allows_of_asciiLower h, ?_⟩
  · intro name test mask
    exact haccepts _ ⟨name, test, mask, rfl⟩
  · intro source flags pattern hpattern
    have htest : FieldTest.ofSource source flags = .ok (.matching pattern) := by
      rw [FieldTest.ofSource_eq, hpattern]
      rfl
    exact ⟨.matching pattern, htest, rfl, fun name mask => haccepts _ ⟨name, _, mask, rfl⟩⟩
  · intro name test keep s hs
    obtain ⟨n, hprovided⟩ := Strategy.provided_of_trailingDigits hs
    exact haccepts s (Strategy.defined_of_provided hprovided)
  · intro r s hs
    obtain ⟨n, hprovided⟩ := Strategy.provided_of_compile hs
    exact haccepts s (Strategy.defined_of_provided hprovided)
  · intro e he
    constructor
    · exact e.maskValue_congr (e.settings.fields.allows_of_asciiLower h)
        fun s hs => haccepts s (he s hs)
    · intro t u a b tally ht hu hab
      exact e.maskDocument_of_rename (Settings.ignores_asciiLower he) ht hu hab tally

/-- The pattern `^e-mail$`, which matches no part of a longer name. Its letters are in canonical
form, which is upper case. -/
def wholeNamePattern : Pattern :=
  ⟨⟨.units, false, false⟩, 0, .seq (.seq (.seq (.seq (.seq (.seq (.seq .start (.char 0x45))
    (.char 0x2D)) (.char 0x4D)) (.char 0x41)) (.char 0x49)) (.char 0x4C)) .finish⟩

/-- An engine that masks the fields whose whole name is `e-mail`, by that pattern. -/
def wholeNameEngine : Engine where
  settings :=
    { enabled := true
      fields := ⟨["e-mail"]⟩
      registry := ⟨[Strategy.define "mail" (.matching wholeNamePattern) fun _ => .ok "*"]⟩
      failClosed := true }

/-- The pattern of this engine can be written with a flag that has no part in a field test, and the
test with it accepts the name in either case. The name is masked in both documents, however it is
written. -/
theorem asciiCase_ignored_wholeNameEngine :
    ("E-Mail" : Text).asciiLower = ("e-mAIL" : Text).asciiLower ∧
    wholeNameEngine.settings.AllDefined ∧
    (∃ test, FieldTest.ofSource "^e-mail$" "g" = .ok test ∧
      ∀ mask, (Strategy.define "mail" test mask).accepts "e-mAIL" = true) ∧
    wholeNameEngine.maskValue "E-Mail" "x" = .ok "*" ∧
    wholeNameEngine.maskValue "e-mAIL" "x" = .ok "*" ∧
    (wholeNameEngine.maskDocument "\x7b\"E-Mail\":\"x\"\x7d" .empty).tally
      = (wholeNameEngine.maskDocument "\x7b\"e-mAIL\":\"x\"\x7d" .empty).tally := by
  have hnames : ("E-Mail" : Text).asciiLower = ("e-mAIL" : Text).asciiLower := by decide
  have hdefined : wholeNameEngine.settings.AllDefined := by
    intro s hs
    rw [List.mem_singleton.mp hs]
    exact ⟨_, _, _, rfl⟩
  have hmasked : wholeNameEngine.maskValue "E-Mail" "x" = .ok "*" := by decide +kernel
  obtain ⟨-, hsource, -, -, -, hengine⟩ := asciiCase_ignored hnames
  obtain ⟨hvalue, hdocument⟩ := hengine wholeNameEngine hdefined
  have hread : Json.parse .same "\x7b\"E-Mail\":\"x\"\x7d"
      = .ok (.object [("E-Mail", .string "x")]) := by decide +kernel
  have hread' : Json.parse .same "\x7b\"e-mAIL\":\"x\"\x7d"
      = .ok (.object [("e-mAIL", .string "x")]) := by decide +kernel
  have hcompile : Pattern.compile "^e-mail$" "g" = .ok wholeNamePattern := by decide +kernel
  have hfound : (FieldTest.matching wholeNamePattern).accepts "E-Mail" = true := by decide +kernel
  obtain ⟨test, htest, rfl, hsame⟩ := hsource _ _ _ hcompile
  refine ⟨hnames, hdefined, ⟨_, htest, fun mask => (hsame "mail" mask).symm.trans hfound⟩, hmasked,
    (hvalue "x").symm.trans hmasked, ?_⟩
  exact (hdocument _ _ _ _ .empty hread hread' (by decide)).tally

end FieldMask
