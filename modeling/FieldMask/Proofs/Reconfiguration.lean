import FieldMask.Proofs.Allowlist
import FieldMask.Proofs.Registration
import Mathlib.Data.List.DropRight

/-!
# `FieldMask.Proofs.Reconfiguration`: which settings an engine has

An engine starts with the settings that its first options give. Of the calls to it, `reconfigure`
puts other options in place of all that was there, `register` adds a strategy, and a call that masks
changes nothing, whether it gives a result or is refused (`Session.settings_step`).

So after any calls the settings are those of the options that were given last, with the strategies
that were registered since (`Session.settings_run`). `configuration_invariant` states what follows
for every state that an engine comes to. Its allowlist is sound at any time, since it is made by
`Allowlist.create`: each of its names is found there, and so is every variant of one.
-/

set_option autoImplicit false

namespace FieldMask

namespace Operation

/-- The options that a call puts in place, if it is a call that does. -/
def options? : Operation → Option Options
  | .reconfigure o => some o
  | _ => none

/-- The strategy that a call adds, if it is a call that does. -/
def strategy? : Operation → Option Strategy
  | .register s => some s
  | _ => none

/-- The call is there to mask something, so it neither puts options in place nor adds a strategy. -/
def IsMasking (o : Operation) : Prop := o.options? = none ∧ o.strategy? = none

end Operation

/-- The options that were given last, `first` to begin with. This is read off the calls, without
making them. -/
def optionsAfter (first : Options) (calls : List Operation) : Options :=
  (calls.filterMap Operation.options?).getLast?.getD first

/-- The strategies that were registered since options were last given, in order. -/
def registeredSince (calls : List Operation) : List Strategy :=
  (calls.rtakeWhile fun o => o.options?.isNone).filterMap Operation.strategy?

section

variable (first : Options) (calls : List Operation)

/-- A call without options leaves those that were given last. -/
theorem optionsAfter_concat_of_none {o : Operation} (h : o.options? = none) :
    optionsAfter first (calls ++ [o]) = optionsAfter first calls := by
  rw [optionsAfter, List.filterMap_append, List.filterMap_cons_none h, List.filterMap_nil,
    List.append_nil, optionsAfter]

/-- Such a call adds its strategy, if it has one, behind those that were registered. -/
theorem registeredSince_concat_of_none {o : Operation} (h : o.options? = none) :
    registeredSince (calls ++ [o]) = registeredSince calls ++ o.strategy?.toList := by
  rw [registeredSince, List.rtakeWhile_concat, h, Option.isNone_none, if_pos rfl,
    List.filterMap_append, registeredSince]
  cases hs : o.strategy? with
  | none => rw [List.filterMap_cons_none hs]; rfl
  | some s => rw [List.filterMap_cons_some hs]; rfl

/-- A call with options replaces those that were given before. None of them is kept where the new
ones say nothing. -/
theorem optionsAfter_concat_reconfigure (o : Options) :
    optionsAfter first (calls ++ [.reconfigure o]) = o := by
  have hgiven : [Operation.reconfigure o].filterMap Operation.options? = [o] := rfl
  rw [optionsAfter, List.filterMap_append, hgiven, List.getLast?_concat, Option.getD_some]

/-- It leaves nothing of what was registered before. -/
theorem registeredSince_concat_reconfigure (o : Options) :
    registeredSince (calls ++ [.reconfigure o]) = [] := by
  rw [registeredSince, List.rtakeWhile_concat, if_neg (by simp [Operation.options?]),
    List.filterMap_nil]

end

/-- Registered strategies stand behind those that were there, in the order in which they were
registered. -/
theorem Registry.strategies_registerAll (r : Registry) (added : List Strategy) :
    (r.registerAll added).strategies = r.strategies ++ added := by
  induction added generalizing r with
  | nil => exact (List.append_nil _).symm
  | cons s rest ih =>
      show ((r.register s).registerAll rest).strategies = _
      rw [ih, register, List.append_assoc, List.singleton_append]

/-- One more strategy is registered after others, which is how calls come. -/
theorem Settings.registerAll_concat (s : Settings) (added : List Strategy) (strategy : Strategy) :
    s.registerAll (added ++ [strategy]) = (s.registerAll added).register strategy := by
  unfold registerAll Registry.registerAll
  rw [List.foldl_concat]
  rfl

namespace Session

/-- What one call does to the settings: a call with options puts theirs in place, and any other one
adds its strategy, if it has one. -/
theorem settings_step (s : Session) (o : Operation) :
    (s.step o).engine.settings
      = match o.options? with
        | some options => Settings.create options
        | none => s.engine.settings.registerAll o.strategy?.toList := by
  cases o <;> rfl

/-- A call that masks leaves the engine as it is, whatever comes of it. -/
theorem engine_step_of_isMasking (s : Session) {o : Operation} (h : o.IsMasking) :
    (s.step o).engine = s.engine := by
  cases o with
  | document | object | value | direct => rfl
  | register strategy => exact nomatch h.2
  | reconfigure options => exact nomatch h.1

/-- After any calls the settings are those of the options that were given last, with the strategies
that were registered since. By induction on the calls, from the last one. -/
theorem settings_run (first : Options) (tally : Tally) (calls : List Operation) :
    (Session.run ⟨Engine.create first, tally⟩ calls).engine.settings
      = (Settings.create (optionsAfter first calls)).registerAll (registeredSince calls) := by
  induction calls using List.reverseRecOn with
  | nil => rfl
  | append_singleton calls o ih =>
      rw [run, List.foldl_concat, ← run, settings_step, ih]
      cases hoptions : o.options? with
      | none =>
          rw [optionsAfter_concat_of_none first calls hoptions,
            registeredSince_concat_of_none calls hoptions]
          cases o.strategy? with
          | none => simp [Settings.registerAll, Registry.registerAll]
          | some strategy => exact (Settings.registerAll_concat _ _ strategy).symm
      | some options =>
          cases o with
          | reconfigure given =>
              obtain rfl : given = options := Option.some.inj hoptions
              rw [optionsAfter_concat_reconfigure, registeredSince_concat_reconfigure]
              rfl
          | _ => exact nomatch hoptions

/-- What is so in every state that an engine comes to, by any calls after it was made.

Its allowlist lists something, nothing twice, and only names in normal form that are not blank; it
allows every variant of each of them. Its strategies are those that were given last, the default
ones if none were, and after them those that were registered since, in order. Its fields and its two
switches are those that were given last. And no call that masks changes the engine. -/
theorem configuration_invariant (first : Options) (tally : Tally) (calls : List Operation) :
    let now := Session.run ⟨Engine.create first, tally⟩ calls
    let settings := now.engine.settings
    let given := optionsAfter first calls
    settings.fields.Sound ∧
    (∀ e ∈ settings.fields.fields, ∀ field, Allowlist.IsVariant e field →
      settings.fields.allows field = true) ∧
    settings.registry.strategies
      = given.strategies.getD Strategy.defaults ++ registeredSince calls ∧
    settings.fields = Allowlist.create given.fields ∧
    settings.enabled = given.enabled.getD true ∧
    settings.failClosed = given.failClosed.getD false ∧
    ∀ o : Operation, o.IsMasking → (now.step o).engine = now.engine := by
  intro now settings given
  have hsettings : settings = (Settings.create given).registerAll (registeredSince calls) :=
    settings_run first tally calls
  have hfields : settings.fields = Allowlist.create given.fields := by
    rw [hsettings]
    rfl
  -- The allowlist was made from names, and whatever these were, that makes a sound one.
  have hsound : settings.fields.Sound := hfields ▸ Allowlist.sound_create given.fields
  refine ⟨hsound, fun e he field hfield => hsound.allows he hfield, ?_, hfields, ?_, ?_,
    fun o ho => now.engine_step_of_isMasking ho⟩
  · rw [hsettings]
    exact Registry.strategies_registerAll _ _
  · rw [hsettings]
    rfl
  · rw [hsettings]
    rfl

/-- Calls to an engine: a strategy is registered, a document is refused, other options are given and
another strategy is registered, and an object is masked as far as that strategy lets it. -/
def changingCalls : List Operation :=
  [.register Strategy.forAccounts, .document "[]",
    .reconfigure { fields := some (.text "Name, ,NAME,\u0130d"), failClosed := some true },
    .register ⟨"star", fun _ => true, fun _ => .error (.error "no")⟩, .document "\x7b",
    .object Engine.starTree]

/-- After those calls both names that were given last are allowed, the one with the dotted capital I
among them, in other cases and with white space around them; the last strategy is the one that was
registered since. -/
theorem configuration_invariant_changingCalls :
    let now := Session.run ⟨Engine.create { enabled := some false }, .empty⟩ changingCalls
    now.engine.settings.fields.Sound ∧
    Allowlist.IsVariant "name" "\tnAME " ∧ Allowlist.IsVariant "i\u0307d" " I\u0307D" ∧
    now.engine.settings.fields.allows "\tnAME " = true ∧
    now.engine.settings.fields.allows " I\u0307D" = true ∧
    now.engine.settings.fields.fields = [("name" : Text), ("i\u0307d" : Text)] ∧
    now.engine.settings.registry.names
      = [("name" : Text), ("email" : Text), ("phone" : Text), ("star" : Text)] ∧
    now.engine.settings.enabled = true ∧ now.engine.settings.failClosed = true ∧
    (now.step (.document "\x7b")).engine = now.engine := by
  intro now
  obtain ⟨hsound, hallows, hstrategies, hfields, henabled, hfailClosed, hmasking⟩ :=
    configuration_invariant { enabled := some false } .empty changingCalls
  have hlisted : now.engine.settings.fields.fields = [("name" : Text), ("i\u0307d" : Text)] := by
    rw [hfields]
    decide +kernel
  have hname : Allowlist.IsVariant "name" "\tnAME " :=
    ⟨"\t", " ", by decide, by decide, by decide⟩
  have hid : Allowlist.IsVariant "i\u0307d" " I\u0307D" :=
    ⟨" ", "", by decide, by decide, by decide⟩
  refine ⟨hsound, hname, hid, hallows _ ?_ _ hname, hallows _ ?_ _ hid, hlisted, ?_, henabled,
    hfailClosed, hmasking _ ⟨rfl, rfl⟩⟩
  · rw [hlisted]
    exact List.mem_cons_self
  · rw [hlisted]
    exact List.mem_cons_of_mem _ List.mem_cons_self
  · rw [Registry.names, hstrategies]
    rfl

end Session

end FieldMask
