import Mathlib.Data.List.TakeWhile
import FieldMask.Engine
import FieldMask.Proofs.Json.Visit

/-!
# `FieldMask.Proofs.Walk`: what a walk leaves behind

The walk threads three things through a tree: the tree itself, the counts and the refusal that
ends it. All three are functions of the list of string members alone. `Settings.done` is the part
of that list before the first member whose mask refuses, and `walk_eq` says that a walk ends with

* the tree with that many of its string members masked (`Json.rewriteFirst`),
* the counts with one step for each of them,
* the refusal of the first member that is left, if there is one.

The proof needs one fact about two walks in a row, `walkedOver_andThen`; the recursion over the
tree only applies it.

`maskObject_eq_reference` is the same for an engine, with `Engine.maskValue` as the mask of a
single member.
-/

set_option autoImplicit false

namespace FieldMask

open Json (Visit)

namespace Settings

variable (s : Settings)

/-- What masking makes of a visited member: what its strategy makes of the value, or the value
itself if there is none. -/
def maskVisit (m : Visit) : Except Refusal Text :=
  match s.strategyFor? m.field with
  | none => .ok m.value
  | some strategy => strategy.mask m.value

/-- The text that masking puts under a visited member, if it does not refuse. -/
def masked (m : Visit) : Text := (s.maskVisit m).toOption.getD m.value

/-- Masking does not refuse a visited member, so the walk goes on after it. -/
def passes (m : Visit) : Bool := (s.maskVisit m).isOk

/-- The visited members before the first refusal. A walk has dealt with these, and with no others.
-/
def done (ms : List Visit) : List Visit := ms.takeWhile s.passes

/-- The first refusal, if there is one. It ends the walk. -/
def refusal? (ms : List Visit) : Option Refusal :=
  ms.findSome? fun m =>
    match s.maskVisit m with
    | .ok _ => none
    | .error r => some r

/-- The counts after a visited member: one more for the name of its strategy, if it has one. -/
def count (tally : Tally) (m : Visit) : Tally :=
  match s.strategyFor? m.field with
  | none => tally
  | some strategy => tally.add strategy.name

/-- The names of the strategies that mask the visited members, in order and with repetitions. -/
def hits (ms : List Visit) : List Text :=
  (ms.map Visit.field).filterMap fun field => (s.strategyFor? field).map Strategy.name

/-- The counts after some visited members are those after the strategies that mask them, so counting
is about names alone. -/
theorem foldl_count (ms : List Visit) (tally : Tally) :
    ms.foldl s.count tally = (s.hits ms).foldl Tally.add tally := by
  induction ms generalizing tally with
  | nil => rfl
  | cons m rest ih =>
      rw [List.foldl_cons, ih]
      unfold hits count
      cases hs : s.strategyFor? m.field <;> simp [hs]

/-- The state of a walk over the string members `ms` of a thing, where `value n` is that thing
with the first `n` of them masked. -/
def walkedOver {α : Type} (value : Nat → α) (ms : List Visit) (tally : Tally) : Walked α :=
  ⟨value (s.done ms).length, (s.done ms).foldl s.count tally, s.refusal? ms⟩

/-! ### Two lists of string members in a row -/

/-- The first refusal in two lists is that of the first list, or else that of the second. -/
theorem refusal?_append (as bs : List Visit) :
    s.refusal? (as ++ bs) = (s.refusal? as).or (s.refusal? bs) :=
  List.findSome?_append

/-- Nothing is refused exactly when every member passes. -/
theorem refusal?_eq_none_iff (ms : List Visit) :
    s.refusal? ms = none ↔ ∀ m ∈ ms, s.passes m = true := by
  unfold refusal? passes
  rw [List.findSome?_eq_none_iff]
  refine forall_congr' fun m => forall_congr' fun _ => ?_
  cases s.maskVisit m <;> simp [Except.isOk, Except.toBool]

/-- A member that passes gets what its strategy makes of its value, or keeps it without one. -/
theorem masked_of_passes {m : Visit} (h : s.passes m = true) :
    match s.strategyFor? m.field with
    | none => s.masked m = m.value
    | some strategy => strategy.mask m.value = .ok (s.masked m) := by
  cases hs : s.strategyFor? m.field with
  | none => simp [masked, maskVisit, hs, Except.toOption]
  | some strategy =>
      cases hmask : strategy.mask m.value with
      | ok t => simp [masked, maskVisit, hs, hmask, Except.toOption]
      | error r => simp [passes, maskVisit, hs, hmask, Except.isOk, Except.toBool] at h

/-- Without a refusal the walk gets through the whole list. -/
theorem done_eq_self {ms : List Visit} (h : s.refusal? ms = none) : s.done ms = ms :=
  List.takeWhile_eq_self_iff.mpr ((s.refusal?_eq_none_iff ms).mp h)

/-- With a refusal some members are left, at least the one that was refused. -/
theorem length_done_lt {ms : List Visit} {r : Refusal} (h : s.refusal? ms = some r) :
    (s.done ms).length < ms.length := by
  have hle : (s.done ms).length ≤ ms.length := (List.takeWhile_prefix s.passes).length_le
  refine Nat.lt_of_le_of_ne hle fun heq => ?_
  have hself : s.done ms = ms := (List.takeWhile_prefix s.passes).eq_of_length heq
  have hnone := (s.refusal?_eq_none_iff ms).mpr (List.takeWhile_eq_self_iff.mp hself)
  rw [h] at hnone
  exact nomatch hnone

/-- After a list without a refusal the walk goes on with the next one. -/
theorem done_append_of_none {as : List Visit} (bs : List Visit) (h : s.refusal? as = none) :
    s.done (as ++ bs) = as ++ s.done bs := by
  have hself : as.takeWhile s.passes = as := s.done_eq_self h
  unfold done
  rw [List.takeWhile_append, if_pos (by rw [hself])]

/-- After a list with a refusal it does not, whatever the next one holds. -/
theorem done_append_of_some {as : List Visit} {r : Refusal} (bs : List Visit)
    (h : s.refusal? as = some r) : s.done (as ++ bs) = s.done as := by
  have hlt : (as.takeWhile s.passes).length < as.length := s.length_done_lt h
  unfold done
  rw [List.takeWhile_append, if_neg (by omega)]

/-- A member that is refused after members that pass is where the walk ends, and its refusal is the
one that ends it. -/
theorem done_of_refused {before : List Visit} {m : Visit} {r : Refusal} (after : List Visit)
    (hbefore : s.refusal? before = none) (hm : s.maskVisit m = .error r) :
    s.done (before ++ m :: after) = before ∧ s.refusal? (before ++ m :: after) = some r := by
  have hpasses : s.passes m = false := by rw [passes, hm]; rfl
  have hdone : s.done (m :: after) = [] := by simp [done, hpasses]
  have hrefusal : s.refusal? (m :: after) = some r := by simp [refusal?, hm]
  rw [s.done_append_of_none _ hbefore, hdone, List.append_nil, s.refusal?_append, hbefore,
    hrefusal]
  exact ⟨rfl, rfl⟩

/-- A walk over one thing and then another is a walk over both: `f` and `g` are the two things
with their first members masked, and the second keeps its members until the first has none left.
Past its last member `f` changes no more (`hf`). -/
theorem walkedOver_andThen {α β : Type} (f : Nat → α) (g : Nat → β) (as bs : List Visit)
    (tally : Tally) (hf : ∀ n, as.length ≤ n → f n = f as.length) :
    (s.walkedOver f as tally).andThen (g 0) (fun tally => s.walkedOver g bs tally)
      = s.walkedOver (fun n => (f n, g (n - as.length))) (as ++ bs) tally := by
  cases h : s.refusal? as with
  | some r =>
      have hlt := s.length_done_lt h
      simp only [walkedOver, Walked.andThen, h, s.refusal?_append, Option.some_or,
        s.done_append_of_some bs h, Nat.sub_eq_zero_of_le (Nat.le_of_lt hlt)]
  | none =>
      have hlast : f (as.length + (s.done bs).length) = f as.length := hf _ (by omega)
      simp only [walkedOver, Walked.andThen, Walked.map, h, s.refusal?_append, Option.none_or,
        s.done_append_of_none bs h, s.done_eq_self h, List.length_append, hlast,
        List.foldl_append, Nat.add_sub_cancel_left]

end Settings

namespace Json

variable (s : Settings)

/-- The walk over the string of a single member, which is masked, or left as it is by a refusal. -/
theorem walkString_eq (field value : Text) (tally : Tally) :
    walkString s field value tally
      = s.walkedOver (fun n => .string (if n = 0 then value else s.masked ⟨field, value⟩))
          [⟨field, value⟩] tally := by
  unfold walkString Settings.walkedOver Settings.done Settings.refusal? Settings.passes
    Settings.masked Settings.maskVisit Settings.count
  cases hs : s.strategyFor? field with
  | none => simp [Except.isOk, Except.toBool, Except.toOption, hs]
  | some strategy =>
      cases hm : strategy.mask value <;>
        simp [Except.isOk, Except.toBool, Except.toOption, hs, hm]

/-- The string members of a tree past the last one leave nothing to rewrite. -/
theorem rewriteFirst_of_length_le (g : Visit → Text) (j : Json) (n : Nat)
    (h : j.visits.length ≤ n) : j.rewriteFirst g n = j.rewriteFirst g j.visits.length := by
  rw [rewriteFirst_eq_mapVisits g j n h, rewriteFirst_eq_mapVisits g j _ (Nat.le_refl _)]

mutual

/-- A walk masks the string members of a tree up to the first refusal. By induction on the tree,
with two walks in a row at every branch. -/
theorem walk_eq : ∀ (j : Json) (tally : Tally),
    walk s j tally = s.walkedOver (fun n => j.rewriteFirst s.masked n) j.visits tally
  | .array items, tally => by rw [walk, walkItems_eq items tally]; rfl
  | .object members, tally => by rw [walk, walkMembers_eq members tally]; rfl
  | .null, _ | .bool _, _ | .number _, _ | .string _, _ => rfl

/-- The same for the items of an array. -/
theorem walkItems_eq : ∀ (items : List Json) (tally : Tally),
    walkItems s items tally
      = s.walkedOver (fun n => rewriteFirstItems s.masked n items) (visitsItems items) tally
  | [], _ => rfl
  | j :: rest, tally => by
      have hboth := s.walkedOver_andThen (fun n => j.rewriteFirst s.masked n)
        (fun n => rewriteFirstItems s.masked n rest) j.visits (visitsItems rest) tally
        (rewriteFirst_of_length_le s.masked j)
      rw [rewriteFirstItems_zero] at hboth
      rw [walkItems, walk_eq j tally, funext (walkItems_eq rest), hboth]
      rfl

/-- The same for the members of an object, of which the strings are masked themselves. -/
theorem walkMembers_eq : ∀ (members : List (Text × Json)) (tally : Tally),
    walkMembers s members tally
      = s.walkedOver (fun n => rewriteFirstMembers s.masked n members)
          (visitsMembers members) tally
  | [], _ => rfl
  | (name, j) :: rest, tally => by
      have hrest := funext (walkMembers_eq rest)
      have hj := walk_eq j tally
      have hboth := s.walkedOver_andThen (fun n => j.rewriteFirst s.masked n)
        (fun n => rewriteFirstMembers s.masked n rest) j.visits (visitsMembers rest) tally
        (rewriteFirst_of_length_le s.masked j)
      rw [rewriteFirstMembers_zero] at hboth
      cases j with
      | string value =>
          have hboth := s.walkedOver_andThen
            (fun n => Json.string (if n = 0 then value else s.masked ⟨name, value⟩))
            (fun n => rewriteFirstMembers s.masked n rest) [⟨name, value⟩]
            (visitsMembers rest) tally
            (fun n hn => by
              simp only [List.length_singleton] at hn ⊢
              simp [show n ≠ 0 by omega])
          rw [rewriteFirstMembers_zero] at hboth
          rw [walkMembers, walkString_eq, hrest, hboth]
          rfl
      | _ =>
          simp only [walkMembers]
          rw [hj, hrest, hboth]
          rfl

end

end Json

namespace Engine

variable (e : Engine)

/-- The text that `maskValue` puts under a visited member, if it does not refuse. -/
def masked (m : Visit) : Text := (e.maskValue m.field m.value).toOption.getD m.value

/-- An engine that is switched on masks a single value by the two gates of the walk: scope first,
and then the strategy. -/
theorem maskValue_eq_maskVisit (henabled : e.settings.enabled = true) (m : Visit) :
    e.maskValue m.field m.value = e.settings.maskVisit m := by
  unfold maskValue isEnabledFor findStrategy? Settings.maskVisit Settings.strategyFor?
  cases e.settings.fields.allows m.field
  · simp
  · rw [henabled]
    cases e.settings.registry.find? m.field <;> rfl

/-- The text under a visited member is the same by value and by walk. -/
theorem masked_eq (henabled : e.settings.enabled = true) : e.masked = e.settings.masked := by
  funext m
  rw [masked, Settings.masked, e.maskValue_eq_maskVisit henabled]

/-- Masking an object is its walk, so it leaves behind what `walk_eq` says. Whatever is proved of a
whole run of the engine starts from here. -/
theorem maskObject_eq (root : Record Json) (tally : Tally) :
    e.maskObject root tally
      = e.settings.walkedOver (fun n => Json.rewriteFirstMembers e.settings.masked n root)
          (Json.object root).visits tally :=
  Json.walkMembers_eq e.settings root tally

/-- The object that a walk leaves behind has every string member masked if no value was refused,
for then the members it rewrote are all of them. -/
theorem rewriteFirstMembers_done {root : Record Json}
    (h : e.settings.refusal? (Json.object root).visits = none) :
    Json.object (Json.rewriteFirstMembers e.settings.masked
        (e.settings.done (Json.object root).visits).length root)
      = (Json.object root).mapVisits e.settings.masked := by
  rw [e.settings.done_eq_self h]
  exact Json.rewriteFirst_eq_mapVisits _ (.object root) _ (Nat.le_refl _)

/-- Masking an object is the reference walk with `maskValue` at every string member.

If no value is refused, every string member is rewritten, and nothing else (`mapVisits`). If `m` is
the first member whose value is refused, the members visited before `m` are rewritten, `m` and
everything after it stay, and the refusal of `m` ends the walk. In both cases the rest of the
tree, its skeleton, is as it was. -/
theorem maskObject_eq_reference (henabled : e.settings.enabled = true) (root : Record Json)
    (tally : Tally) :
    let visited := (Json.object root).visits
    let run := e.maskObject root tally
    ((∀ m ∈ visited, ∃ t, e.maskValue m.field m.value = .ok t) →
      run.refusal = none ∧ Json.object run.value = (Json.object root).mapVisits e.masked) ∧
    (∀ before m after r, visited = before ++ m :: after →
      (∀ b ∈ before, ∃ t, e.maskValue b.field b.value = .ok t) →
      e.maskValue m.field m.value = .error r →
      run.refusal = some r ∧
      Json.object run.value = (Json.object root).rewriteFirst e.masked before.length ∧
      (Json.object run.value).visits
        = before.map (Visit.rewritten e.masked) ++ m :: after) ∧
    (Json.object run.value).skeleton = (Json.object root).skeleton := by
  intro visited run
  have hrun := e.maskObject_eq root tally
  have hvalue : Json.object run.value
      = (Json.object root).rewriteFirst e.masked (e.settings.done visited).length := by
    rw [e.masked_eq henabled]
    exact congrArg (fun w => Json.object w.value) hrun
  have hrefusal : run.refusal = e.settings.refusal? visited := congrArg Walked.refusal hrun
  -- Passing by `maskValue` is passing by the walk's own gates.
  have hpasses : ∀ ms : List Visit, (∀ m ∈ ms, ∃ t, e.maskValue m.field m.value = .ok t) →
      e.settings.refusal? ms = none := by
    intro ms h
    rw [Settings.refusal?_eq_none_iff]
    intro m hm
    obtain ⟨t, ht⟩ := h m hm
    rw [e.maskValue_eq_maskVisit henabled] at ht
    rw [Settings.passes, ht]
    rfl
  refine ⟨fun hall => ?_, fun before m after r hvisited hbefore hm => ?_, ?_⟩
  · have hnone := hpasses visited hall
    rw [hrefusal, hvalue, e.settings.done_eq_self hnone]
    exact ⟨hnone, Json.rewriteFirst_eq_mapVisits _ _ _ (Nat.le_refl _)⟩
  · rw [e.maskValue_eq_maskVisit henabled] at hm
    obtain ⟨hdone, hsome⟩ := e.settings.done_of_refused after (hpasses before hbefore) hm
    rw [hrefusal, hvalue, hvisited, hdone, Json.visits_rewriteFirst]
    refine ⟨hsome, rfl, ?_⟩
    rw [show (Json.object root).visits = before ++ m :: after from hvisited,
      List.take_left, List.drop_left]
  · rw [hvalue]
    exact Json.skeleton_rewriteFirst _ _ _

/-- An engine that puts a star under every `a` but refuses the value `x`, and fails closed. -/
def starEngine : Engine where
  settings :=
    { enabled := true
      fields := ⟨["a"]⟩
      registry :=
        ⟨[⟨"star", fun _ => true, fun v => if v = "x" then .error (.error "no") else .ok "*"⟩]⟩
      failClosed := true }

/-- An object whose second `a`, inside an array, holds the value that `starEngine` refuses, and
which has a third one after it. -/
def starTree : Record Json :=
  [("a", .string "1"), ("b", .array [.object [("a", .string "x")], .string "x"]),
    ("c", .object [("a", .string "2")])]

/-- The walk of `starEngine` stops at the second `a`: the first is masked, the third is not. -/
theorem maskObject_starTree :
    starEngine.settings.enabled = true ∧
    (starEngine.maskObject starTree .empty).refusal = some (.error "no") ∧
    Json.object (starEngine.maskObject starTree .empty).value
      = .object [("a", .string "*"), ("b", .array [.object [("a", .string "x")], .string "x"]),
          ("c", .object [("a", .string "2")])] := by
  have hstop := (maskObject_eq_reference starEngine rfl starTree .empty).2.1 [⟨"a", "1"⟩]
    ⟨"a", "x"⟩ [⟨"a", "2"⟩] (.error "no") (by decide +kernel)
    (fun b hb => ⟨"*", by rw [List.mem_singleton.mp hb]; decide +kernel⟩) (by decide +kernel)
  exact ⟨rfl, hstop.1, hstop.2.1.trans (by decide +kernel)⟩

end Engine
end FieldMask
