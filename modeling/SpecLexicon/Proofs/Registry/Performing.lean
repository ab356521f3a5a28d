import SpecLexicon.Proofs.Registry.Accounts

/-!
# Operations as deeds

Every operation that does not change who listens consists of deeds, whatever the registry holds and
whatever lines and templates it is given.
-/

set_option autoImplicit false

namespace SpecLexicon.Registry

variable {earlier middle later registry : Registry}

/-- The later registry came from the earlier one by deeds. -/
def Performs (earlier later : Registry) : Prop :=
  ∃ deeds, Performed deeds earlier later

theorem Announces.performs {sources : List String} (announces : Announces sources earlier later) :
    Performs earlier later := by
  obtain ⟨deeds, performed, _⟩ := announces
  exact ⟨deeds, performed⟩

namespace Performs

theorem of_outward_eq (same : later.outward = earlier.outward) : Performs earlier later :=
  ⟨[], .nil same⟩

theorem of_withoutLoads_eq (same : later.withoutLoads = earlier.withoutLoads) :
    Performs earlier later :=
  .of_outward_eq (outward_eq_of_withoutLoads_eq same)

theorem trans (early : Performs earlier middle) (late : Performs middle later) :
    Performs earlier later := by
  obtain ⟨front, before⟩ := early
  obtain ⟨behind, performed⟩ := late
  exact ⟨front ++ behind, before.append performed⟩

theorem emit {event : Event} (plain : event.isNotice = false) (registry : Registry) :
    Performs registry (registry.emit event) :=
  ⟨[.acted event], .acted plain rfl (.nil rfl)⟩

theorem recordAll (records : List Record) (registry : Registry) :
    Performs registry (registry.recordAll records) := by
  refine ⟨_, .acts ?_ registry⟩
  intro event member
  obtain ⟨record, _, rfl⟩ := List.mem_map.mp member
  rfl

theorem notifyWith (depth : Nat) (uri : String) (registry : Registry) :
    Performs registry (Registry.notifyWith (updateSnippetsWithin depth) uri registry) :=
  ⟨[.announced uri registry.store registry.listeners], .announced rfl (.nil rfl)⟩

/-- Records are made, something is stored, and it is announced. -/
theorem announced {level : Level} {text : String} (depth : Nat) (uri : String)
    (stored : Performs earlier middle) : Performs earlier
      (Registry.notifyWith (updateSnippetsWithin depth) uri (middle.record level text)) :=
  stored.trans (.trans (.emit rfl middle) (.notifyWith depth uri _))

theorem bind {first second : Action Unit} (early : Performs registry (outcome first registry).2)
    (late : ∀ changed, Performs changed (outcome second changed).2) :
    Performs registry (outcome (first >>= fun _ => second) registry).2 :=
  snd_outcome_bind early fun _ _ => early.trans (late _)

end Performs

/-!
## Rebuilds
-/

theorem performs_updateSnippets (registry : Registry) :
    Performs registry (updateSnippets registry) :=
  (announces_updateSnippets registry).performs

theorem performs_rebuildMnemonics (uri : String) (lines : Lines) (target : ItemMap)
    (registry : Registry) : Performs registry (registry.rebuildMnemonics uri lines target) := by
  have stored : Performs registry
      { registry.recordAll (Mnemonic.rebuild target lines.readable).journal with
        store := registry.store.setMap uri .member
          (Mnemonic.rebuild target lines.readable).items } :=
    .trans (.recordAll _ registry) (.of_outward_eq rfl)
  simp only [rebuildMnemonics]
  split
  · exact stored
  · exact stored.announced (nestingLimit + 1) uri

theorem performs_updateMnemonics (uri : String) (lines : Lines) (registry : Registry) :
    Performs registry (updateMnemonics uri lines registry) := by
  rw [updateMnemonics]
  split
  · exact .of_outward_eq rfl
  · rename_i target _
    have rebuilt := performs_rebuildMnemonics uri lines target registry
    dsimp only
    split
    · exact rebuilt
    · exact rebuilt.trans (performs_updateSnippets _)

theorem performs_mnemonicsWhen (affected : Bool) (uri : String) (registry : Registry) :
    Performs registry (outcome (mnemonicsWhen affected uri) registry).2 := by
  rw [outcome_mnemonicsWhen]
  split
  · exact performs_updateMnemonics uri _ registry
  · exact .of_outward_eq rfl

theorem performs_rebuildAffected (change : Change) (registry : Registry) :
    Performs registry (outcome (rebuildAffected change) registry).2 := by
  rw [rebuildAffected_eq]
  refine (performs_mnemonicsWhen _ _ registry).bind fun motors => ?_
  refine (performs_mnemonicsWhen _ _ motors).bind fun counters => ?_
  split
  · rw [requestSnippets, outcome_attempt]
    exact performs_updateSnippets counters
  · exact .of_outward_eq rfl

theorem performs_configurationChanged (inLoop : Bool) (change : Change)
    (settings : Option Settings) (registry : Registry) :
    Performs registry (outcome (configurationChanged inLoop change settings) registry).2 := by
  rw [outcome_configurationChanged]
  split
  · exact .of_outward_eq rfl
  · have adopted : Performs registry (registry.adopt (settings.getD registry.settings)) :=
      .of_outward_eq rfl
    exact (adopted.trans (performs_rebuildAffected change _)).trans
      (.of_withoutLoads_eq (withoutLoads_andSchedule change _))

theorem performs_create (settings : Settings) (window : Option Window) :
    Performs (bare settings window) (create settings window) :=
  (performs_updateMnemonics Source.motor settings.motors _).trans
    (performs_updateMnemonics Source.counter settings.counters _)

/-- Every operation but those that change who listens consists of deeds. -/
theorem performs_after {operation : Operation} (elsewhere : operation.isListening = false)
    (registry : Registry) : Performs registry (operation.after registry) := by
  cases operation with
  | apply inLoop adopted =>
    rw [Operation.after, outcome_applySettings]
    exact performs_configurationChanged inLoop _ _ registry
  | react inLoop change => exact performs_configurationChanged inLoop change none registry
  | rebuildMnemonics uri lines =>
    rw [Operation.after, Operation.action, requestMnemonics, outcome_attempt]
    exact performs_updateMnemonics uri lines registry
  | rebuildSnippets =>
    rw [Operation.after, Operation.action, requestSnippets, outcome_attempt]
    exact performs_updateSnippets registry
  | load read path =>
    rw [after_load]
    exact (announces_endLoad _ _ registry).performs
  | endLoad location fetched => exact (announces_endLoad location fetched registry).performs
  | activate partition =>
    have installed : Performs registry
        { registry with store := registry.store.install Source.activeDocument partition } :=
      .of_outward_eq rfl
    exact installed.trans (.notifyWith (nestingLimit + 1) Source.activeDocument _)
  | listen name listener => cases elsewhere
  | unlisten name => cases elsewhere
  | startup => exact .of_withoutLoads_eq (withoutLoads_scheduleLoad registry)
  | step number => exact (announces_stepLoad number registry).performs
  | deliver number fetched => exact .of_outward_eq rfl
  | beginShutdown => exact .of_withoutLoads_eq (withoutLoads_beginShutdown registry)
  | endShutdown number => exact .of_withoutLoads_eq (withoutLoads_endShutdown number registry)

end SpecLexicon.Registry
