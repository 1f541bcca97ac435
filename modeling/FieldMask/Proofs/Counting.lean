import FieldMask.Proofs.Outcome
import FieldMask.Proofs.Tally

/-!
# `FieldMask.Proofs.Counting`: what the tally says about a run

An engine is called again and again, and the calls share one tally. A `Session` is the engine and
the tally, and an `Operation` is a call: it masks a document, an object or a single value, or it
changes the engine. `Session.run` folds the calls.

`Session.handled` lists the string members that a call masks. A call walks over one tree at most:
over none if masking is switched off, or the text is blank or no document. Of that tree it masks the
members that have a strategy, up to the first one whose value is refused. `tally_step` says that
these members, and nothing else, are counted, each under the name of the strategy that the engine
has for it at that moment.

`counting_exact` states what follows for a whole run: in every state that the session comes to, the
next call counts what it masks; a name has an entry if and only if a strategy of that name masked
a value; and the total is the sum of the entries, as long as no strategy has the reserved name.
-/

set_option autoImplicit false

namespace FieldMask

open Json (Visit)

/-! ### The members that are masked -/

namespace Settings

variable (s : Settings)

/-- The visited members that a walk masks: up to the first refusal, those that have a strategy.
Members without one are visited, too, and stay as they are. -/
def handled (ms : List Visit) : List Visit :=
  (s.done ms).filter fun m => (s.strategyFor? m.field).isSome

/-- The strategy for a visited member has the given name. Two strategies can have one name, and then
they share an entry of the tally. -/
def isNamed (name : Text) (m : Visit) : Bool :=
  (s.strategyFor? m.field).map Strategy.name == some name

/-- The names that a walk adds are read off the members that have a strategy, in their order. -/
theorem hits_eq_filterMap (ms : List Visit) :
    s.hits ms = ms.filterMap fun m => (s.strategyFor? m.field).map Strategy.name := by
  rw [hits, List.filterMap_map]
  rfl

/-- Members without a strategy add no name, so it makes no difference whether they are left out
first. -/
theorem hits_handled (ms : List Visit) : s.hits (s.handled ms) = s.hits (s.done ms) := by
  rw [hits_eq_filterMap, hits_eq_filterMap, handled, List.filterMap_filter]
  congr 1
  funext m
  cases s.strategyFor? m.field <;> rfl

/-- Every member with a strategy adds one name, so there are as many names as such members. -/
theorem length_hits (ms : List Visit) :
    (s.hits ms).length = ms.countP fun m => (s.strategyFor? m.field).isSome := by
  rw [hits_eq_filterMap, List.length_filterMap_eq_countP]
  simp only [Option.isSome_map]

/-- Every masked member has a strategy, so each of them adds one name. The total grows by their
number. -/
theorem length_hits_handled (ms : List Visit) :
    (s.hits (s.handled ms)).length = (s.handled ms).length := by
  rw [length_hits, List.countP_eq_length]
  intro m hm
  exact (List.mem_filter.mp hm).2

/-- A name comes as often as there are members whose strategy has it. Its count grows by that
number. -/
theorem count_hits (ms : List Visit) (name : Text) :
    (s.hits ms).count name = ms.countP (s.isNamed name) := by
  rw [hits_eq_filterMap, List.count_filterMap]
  rfl

/-- A name comes at all exactly if there is a member whose strategy has it. Then it has an entry. -/
theorem mem_hits_iff (ms : List Visit) (name : Text) :
    name ∈ s.hits ms ↔ ∃ m ∈ ms, s.isNamed name m = true := by
  rw [← List.count_pos_iff, count_hits, List.countP_pos_iff]

/-- The tree that masking a text walks over: none if masking is switched off, or if the text is
blank or no document. -/
def tree? (t : Text) : Option Json :=
  if !s.enabled || t.isBlank then none
  else
    match Json.parse .same t with
    | .ok (.object root) => some (.object root)
    | _ => none

/-- A tree to walk over is the object that an engine in service reads. Whether failures are fatal
plays no part in that. -/
theorem of_tree?_eq_some {s : Settings} {t : Text} {tree : Json} (h : s.tree? t = some tree) :
    s.enabled = true ∧ ∃ root, Json.parse .same t = .ok (.object root) ∧ tree = .object root := by
  unfold tree? at h
  split at h
  · exact nomatch h
  · next hattempts =>
      split at h
      · next root hparse =>
          simp only [Bool.or_eq_true, Bool.not_eq_true', not_or, Bool.not_eq_false] at hattempts
          exact ⟨hattempts.1, root, hparse, (Option.some.inj h).symm⟩
      · exact nomatch h

/-- The outcome of a text names the strategies of the members that are masked, and nothing if there
is no tree to walk over. -/
theorem hits_outcome (t : Text) :
    (s.outcome t).hits
      = s.hits (match s.tree? t with
        | some tree => s.handled tree.visits
        | none => []) := by
  unfold outcome tree?
  by_cases hpassed : (!s.enabled || t.isBlank) = true
  · rw [if_pos hpassed, if_pos hpassed]
    rfl
  · rw [if_neg hpassed, if_neg hpassed]
    cases Json.parse .same t with
    | error mistake => rfl
    | ok root =>
        cases root with
        | object members =>
            simp only [Json.isObject, Json.kind, beq_self_eq_true, if_true, hits_handled]
            cases hrefusal : s.refusal? (Json.object members).visits with
            | some r => rfl
            | none =>
                rw [s.done_eq_self hrefusal]
                rfl
        | null | bool | number | string | array => rfl

/-- No strategy has the reserved name. Where one has, its members go into the total and not into an
entry. -/
def Unreserved : Prop := ∀ strategy ∈ s.registry.strategies, strategy.name ≠ Tally.reservedName

/-- Where no strategy has the reserved name, no visited member adds it. -/
theorem reservedName_notMem_hits (h : s.Unreserved) (ms : List Visit) :
    Tally.reservedName ∉ s.hits ms := by
  rw [mem_hits_iff]
  rintro ⟨m, _, hm⟩
  obtain ⟨strategy, hstrategy, hname⟩ := Option.map_eq_some_iff.mp (beq_iff_eq.mp hm)
  unfold strategyFor? at hstrategy
  split at hstrategy
  · exact h strategy (List.mem_of_find?_eq_some hstrategy) hname
  · exact nomatch hstrategy

end Settings

/-! ### Sessions -/

/-- A call to an engine: for a document, for an object that is a tree already, for a single value,
or to change the engine itself. -/
inductive Operation where
  /-- Masks a document. -/
  | document (t : Text)
  /-- Masks the members of an object. -/
  | object (members : Record Json)
  /-- Masks a single value as in a document. -/
  | value (field value : Text)
  /-- Masks a single value by the strategy of a field, in scope or not. -/
  | direct (field value : Text)
  /-- Adds a strategy. -/
  | register (strategy : Strategy)
  /-- Puts other settings in place. -/
  | reconfigure (o : Options)

/-- An engine, and the tally that its calls share. The calls between two looks at the tally are one
run. -/
structure Session where
  engine : Engine
  tally : Tally

namespace Session

/-- The session after a call. A call for a single value leaves nothing behind but its result, which
the session does not keep. -/
def step (s : Session) : Operation → Session
  | .document t => { s with tally := (s.engine.maskDocument t s.tally).tally }
  | .object members => { s with tally := (s.engine.maskObject members s.tally).tally }
  | .value .. | .direct .. => s
  | .register strategy => { s with engine := s.engine.register strategy }
  | .reconfigure o => { s with engine := s.engine.reconfigure o }

/-- The session after some calls, one after the other, each with the engine and the tally that the
one before it left. -/
def run (s : Session) (calls : List Operation) : Session := calls.foldl step s

/-- The tree that a call walks over, if it walks at all. Calls for a single value and calls that
change the engine do not. -/
def tree? (s : Session) : Operation → Option Json
  | .document t => s.engine.settings.tree? t
  | .object members => some (.object members)
  | _ => none

/-- The string members that a call masks, with the settings that the engine has at that moment. -/
def handled (s : Session) (o : Operation) : List Visit :=
  match s.tree? o with
  | some tree => s.engine.settings.handled tree.visits
  | none => []

/-- The names of the strategies that mask a member in some calls, once for each member. The session
is stepped along, since a call may change the engine for the next one. -/
def fired (s : Session) : List Operation → List Text
  | [] => []
  | o :: rest => s.engine.settings.hits (s.handled o) ++ (s.step o).fired rest

/-- A call counts the members that it masks, under the names of their strategies, and nothing else.
This is the step of `tally_run`. -/
theorem tally_step (s : Session) (o : Operation) :
    (s.step o).tally = (s.engine.settings.hits (s.handled o)).foldl Tally.add s.tally := by
  cases o with
  | document t =>
      have hrun := s.engine.tally_maskDocument t s.tally
      rw [Settings.hits_outcome] at hrun
      exact hrun
  | object members =>
      show (s.engine.maskObject members s.tally).tally = _
      rw [s.engine.maskObject_eq]
      show ((s.engine.settings.done (Json.object members).visits).foldl _ s.tally) = _
      rw [s.engine.settings.foldl_count, ← s.engine.settings.hits_handled]
      rfl
  | value | direct | register | reconfigure => rfl

/-- Some calls count all that they mask, added to what was counted before. By induction on the
calls. -/
theorem tally_run (s : Session) (calls : List Operation) :
    (s.run calls).tally = (s.fired calls).foldl Tally.add s.tally := by
  induction calls generalizing s with
  | nil => rfl
  | cons o rest ih =>
      show ((s.step o).run rest).tally = _
      rw [ih, tally_step, fired, List.foldl_append]

end Session

/-! ### The reserved name -/

/-- A call brings in no strategy with the reserved name. Only the two calls that change the engine
can. -/
def Operation.Unreserved : Operation → Prop
  | .register strategy => strategy.name ≠ Tally.reservedName
  | .reconfigure o => ∀ strategies ∈ o.strategies, ∀ strategy ∈ strategies,
      strategy.name ≠ Tally.reservedName
  | _ => True

namespace Session

/-- A call that brings in no strategy with the reserved name leaves an engine without one. The
default strategies do not have that name either. -/
theorem unreserved_step {s : Session} {o : Operation} (hs : s.engine.settings.Unreserved)
    (ho : o.Unreserved) : (s.step o).engine.settings.Unreserved := by
  cases o with
  | document | object | value | direct => exact hs
  | register strategy =>
      intro other hother
      rcases List.mem_append.mp hother with hold | hnew
      · exact hs other hold
      · obtain rfl := List.mem_singleton.mp hnew
        exact ho
  | reconfigure options =>
      intro other hother
      change other ∈ options.strategies.getD Strategy.defaults at hother
      cases hgiven : options.strategies with
      | some strategies =>
          rw [hgiven] at hother
          exact ho strategies hgiven other hother
      | none =>
          -- The strategies that are used where none are given have names of their own.
          rw [hgiven] at hother
          simp only [Option.getD_none, Strategy.defaults, List.mem_cons, List.not_mem_nil,
            or_false] at hother
          rcases hother with rfl | rfl | rfl <;> decide

/-- Calls that bring in no strategy with the reserved name count nothing under it. By induction on
the calls. -/
theorem reservedName_notMem_fired {s : Session} {calls : List Operation}
    (hs : s.engine.settings.Unreserved) (hcalls : ∀ o ∈ calls, o.Unreserved) :
    Tally.reservedName ∉ s.fired calls := by
  induction calls generalizing s with
  | nil => exact List.not_mem_nil
  | cons o rest ih =>
      obtain ⟨ho, hrest⟩ := List.forall_mem_cons.mp hcalls
      rw [fired, List.mem_append, not_or]
      exact ⟨s.engine.settings.reservedName_notMem_hits hs _, ih (unreserved_step hs ho) hrest⟩

/-- Counting is exact. After any calls the next one adds to the total the number of members that it
masks, and to the count of each name the number of those whose strategy has it. An entry is there
only for names that had one in the beginning, and for those of strategies that masked a value since.
If no strategy has the reserved name, a total that was the sum of all counts in the beginning still
is. -/
theorem counting_exact (s : Session) (calls : List Operation) :
    let now := s.run calls
    (∀ o, (now.step o).tally.total = now.tally.total + (now.handled o).length ∧
      ∀ name, name ≠ Tally.reservedName →
        (now.step o).tally.count name = now.tally.count name
          + (now.handled o).countP (now.engine.settings.isNamed name) ∧
        (((now.step o).tally.byStrategy.get? name).isSome = true ↔
          (now.tally.byStrategy.get? name).isSome = true ∨
            ∃ m ∈ now.handled o, now.engine.settings.isNamed name m = true)) ∧
    (∀ name, (now.tally.byStrategy.get? name).isSome = true ↔
      (s.tally.byStrategy.get? name).isSome = true ∨
        name ≠ Tally.reservedName ∧ name ∈ s.fired calls) ∧
    (s.engine.settings.Unreserved → (∀ o ∈ calls, o.Unreserved) →
      s.tally.total = s.tally.sum → now.tally.total = now.tally.sum) := by
  intro now
  refine ⟨?_, ?_, ?_⟩
  · intro o
    -- Each member that is handled adds one name, so members can be counted in place of names.
    have hhandled : (now.engine.settings.hits (now.handled o)).length
        = (now.handled o).length := by
      unfold handled
      split
      · exact Settings.length_hits_handled _ _
      · rfl
    rw [tally_step, Tally.total_foldl_add, hhandled]
    refine ⟨rfl, ?_⟩
    intro name hname
    rw [Tally.count_foldl_add _ _ hname, Settings.count_hits, Tally.isSome_foldl_add_iff,
      Settings.mem_hits_iff]
    exact ⟨rfl, or_congr_right (and_iff_right hname)⟩
  · intro name
    rw [s.tally_run, Tally.isSome_foldl_add_iff]
  · intro hs hcalls hsum
    rw [s.tally_run, Tally.total_foldl_add,
      Tally.sum_foldl_add _ _ (reservedName_notMem_fired hs hcalls), hsum]

/-- Calls to `Engine.starEngine`: a walk that a refusal ends after one member, a document under the
default settings, and the same document once masking is switched off. -/
def mixedCalls : List Operation :=
  [.object Engine.starTree, .reconfigure {}, .document "\x7b\"name\":\"Ann\",\"city\":\"Oslo\"\x7d",
    .reconfigure { enabled := some false },
    .document "\x7b\"name\":\"Ann\",\"city\":\"Oslo\"\x7d"]

/-- Two members are masked in `mixedCalls`, by strategies of different names. -/
theorem counting_exact_mixedCalls :
    let s : Session := ⟨Engine.starEngine, .empty⟩
    s.engine.settings.Unreserved ∧ (∀ o ∈ mixedCalls, o.Unreserved) ∧
    s.tally.total = s.tally.sum ∧ s.fired mixedCalls = [("star" : Text), ("name" : Text)] ∧
    (s.run mixedCalls).tally.total = (s.run mixedCalls).tally.sum ∧
    (s.run mixedCalls).tally.total = 2 ∧
    ((s.run mixedCalls).tally.byStrategy.get? "star").isSome = true ∧
    ((s.run mixedCalls).tally.byStrategy.get? "email").isSome = false := by
  intro s
  have hunreserved : s.engine.settings.Unreserved := by
    intro strategy hstrategy
    obtain rfl := List.mem_singleton.mp hstrategy
    decide
  have hcalls : ∀ o ∈ mixedCalls, o.Unreserved := by
    simp [mixedCalls, Operation.Unreserved]
  have hfired : s.fired mixedCalls = [("star" : Text), ("name" : Text)] := by decide +kernel
  obtain ⟨-, hentries, hsum⟩ := counting_exact s mixedCalls
  have hstar := (hentries "star").mpr (.inr ⟨by decide, by rw [hfired]; decide⟩)
  have hemail : ((s.run mixedCalls).tally.byStrategy.get? "email").isSome = false := by
    rw [Bool.eq_false_iff, ne_eq, hentries "email", hfired]
    decide
  have htotal : (s.run mixedCalls).tally.total = 2 := by
    rw [s.tally_run, hfired]
    rfl
  exact ⟨hunreserved, hcalls, rfl, hfired, hsum hunreserved hcalls rfl, htotal, hstar, hemail⟩

end Session

end FieldMask
