import SpecLexicon.Proofs.Registry.Deeds

/-!
# Accounts of operations

Which sources an operation announces by itself, in order, and what its deeds make of the events.
All that is announced besides comes from listeners that ask for a rebuild of the snippets. Where no
listener does more than fail, an announcement is followed by one call for each registration.
-/

set_option autoImplicit false

namespace SpecLexicon

namespace Registry

variable {settings : Settings} {symbols : String → ItemMap} {registry later : Registry}

/-!
## The sources of an operation
-/

def sourcesOfDatabase : Except Database.FetchError Partition → List String
  | .ok _ => [Source.builtIn]
  | .error _ => []

/-- The sources that a reaction to a change announces under given templates. -/
def sourcesOfChange (inLoop : Bool) (change : Change) (templates : Lines) : List String :=
  if change.affectsField .database && !inLoop then [] else affectedSources change templates

/-- The sources that a load announces at its next step. -/
def sourcesOfTask (task : LoadTask) : List String :=
  if task.stopRequested then []
  else match task.stage with
    | .read _ outcome => sourcesOfDatabase outcome
    | _ => []

theorem sourcesOfTask_of_isEnded {task : LoadTask} (ended : task.stage.isEnded = true) :
    sourcesOfTask task = [] := by
  obtain ⟨stage, stopRequested⟩ := task
  rw [sourcesOfTask]
  cases stage with
  | read location outcome => cases ended
  | scheduled => simp
  | reading location => simp
  | installed => simp
  | reported => simp
  | cancelled => simp
  | crashed fault => simp

/-- The sources that an operation announces by itself. -/
def Operation.sources (registry : Registry) : Operation → List String
  | apply inLoop adopted =>
    sourcesOfChange inLoop (.between registry.settings adopted) adopted.templates
  | react inLoop change => sourcesOfChange inLoop change registry.settings.templates
  | rebuildMnemonics uri _ => uri :: refreshed registry.settings.templates
  | rebuildSnippets => refreshed registry.settings.templates
  | load read path => sourcesOfDatabase (Database.fetch read (registry.locationOf path))
  | endLoad _ outcome => sourcesOfDatabase outcome
  | activate _ => [Source.activeDocument]
  | step number => (registry.loads[number]?.map sourcesOfTask).getD []
  | _ => []

/-- The operation changes who listens. -/
def Operation.isListening : Operation → Bool
  | listen _ _ => true
  | unlisten _ => true
  | _ => false

theorem outward_eq_of_withoutLoads_eq {left right : Registry}
    (same : left.withoutLoads = right.withoutLoads) : left.outward = right.outward := by
  have projected := congrArg outward same
  exact projected

theorem announces_installDatabase (location : Location) (partition : Partition)
    (registry : Registry) :
    Announces [Source.builtIn] registry (installDatabase location partition registry) := by
  rw [installDatabase_eq]
  have recorded : Announces [] (registry.withDatabase partition)
      ((registry.withDatabase partition).recordAll (installRecords location partition)) := by
    refine .recordAll ?_ _
    intro record member
    rcases List.mem_cons.mp member with rfl | member
    · rfl
    · obtain rfl := List.mem_singleton.mp member
      rfl
  exact (recorded.append (.notify (by decide) _)).congr_left rfl

theorem announces_endLoad (location : Location)
    (outcome : Except Database.FetchError Partition) (registry : Registry) :
    Announces (sourcesOfDatabase outcome) registry
      ((Operation.endLoad location outcome).after registry) := by
  rw [after_endLoad]
  cases outcome with
  | ok partition => exact announces_installDatabase location partition registry
  | error reason => exact .nil rfl

theorem announces_finished (location : Location)
    (outcome : Except Database.FetchError Partition) (registry : Registry) :
    Announces (sourcesOfDatabase outcome) registry (registry.finished location outcome) := by
  cases outcome with
  | ok partition => exact announces_installDatabase location partition registry
  | error reason =>
    cases reason with
    | unnameable fault => exact .nil rfl
    | malformed reason =>
      refine .acts ?_ ?_ registry
      · cases registry.window <;> simp [reportEvents, Event.isNotice]
      · cases registry.window <;> simp [reportEvents, Event.isCompilation, Record.isCompilation]

theorem announces_stepLoad (number : Nat) (registry : Registry) :
    Announces ((Operation.step number).sources registry) registry (registry.stepLoad number) := by
  have step := loadStep_stepLoad number registry
  generalize registry.stepLoad number = stepped at step
  rw [Operation.sources]
  cases step with
  | absent found =>
    rw [found]
    exact .nil rfl
  | ended found ended =>
    rw [found, Option.map_some, sourcesOfTask_of_isEnded ended]
    exact .nil rfl
  | cancelled found _ stopRequested =>
    rw [found, Option.map_some, sourcesOfTask, if_pos stopRequested]
    exact .nil rfl
  | started found =>
    rw [found]
    exact .nil rfl
  | waiting found =>
    rw [found]
    exact .nil rfl
  | @finished location outcome found =>
    rw [found]
    exact (announces_finished location outcome registry).congr_right rfl

namespace Settled

theorem announces_configurationChanged (settled : Settled settings symbols registry)
    (inLoop : Bool) {change : Change} {adopted : Option Settings}
    (proper : (adopted.getD registry.settings).IsProper) :
    Announces (sourcesOfChange inLoop change (adopted.getD registry.settings).templates) registry
      (outcome (Registry.configurationChanged inLoop change adopted) registry).2 := by
  rw [outcome_configurationChanged, sourcesOfChange]
  split
  · exact .nil rfl
  · have holds : Holds symbols (registry.adopt (adopted.getD registry.settings)) :=
      settled.holds.congr rfl
    have rebuilt := announces_rebuildAffected holds proper change
    exact (rebuilt.congr_right
      (outward_eq_of_withoutLoads_eq (withoutLoads_andSchedule change _))).congr_left rfl

/-- An operation announces its sources and compiles the snippets as often as it announces them. -/
theorem announces (settled : Settled settings symbols registry) {operation : Operation}
    (proper : operation.IsProper) (elsewhere : operation.isListening = false) :
    Announces (operation.sources registry) registry (operation.after registry) := by
  have aside (same : (operation.after registry).withoutLoads = registry.withoutLoads) :
      Announces [] registry (operation.after registry) :=
    .nil (outward_eq_of_withoutLoads_eq same)
  cases operation with
  | apply inLoop adopted =>
    rw [Operation.after, outcome_applySettings]
    exact settled.announces_configurationChanged inLoop proper
  | react inLoop change =>
    exact settled.announces_configurationChanged inLoop settled.settingsProper
  | rebuildMnemonics uri lines =>
    obtain ⟨known, lines_proper⟩ := proper
    rw [Operation.after, Operation.action, requestMnemonics, outcome_attempt]
    exact announces_updateMnemonics settled.holds settled.settingsProper
      (mem_mnemonicSources.mpr known) lines_proper
  | rebuildSnippets =>
    rw [Operation.after, Operation.action, requestSnippets, outcome_attempt]
    rw [Operation.sources, ← snippetSources_eq settled.holds.place settled.settingsProper.isRow]
    exact announces_updateSnippets registry
  | load read path =>
    rw [after_load]
    exact announces_endLoad _ _ registry
  | endLoad location fetched => exact announces_endLoad location fetched registry
  | activate partition => exact (Announces.notify (by decide) _).congr_left rfl
  | listen name listener => cases elsewhere
  | unlisten name => cases elsewhere
  | startup => exact aside (withoutLoads_scheduleLoad registry)
  | step number => exact announces_stepLoad number registry
  | deliver number fetched => exact aside rfl
  | beginShutdown => exact aside (withoutLoads_beginShutdown registry)
  | endShutdown number => exact aside (withoutLoads_endShutdown number registry)

end Settled

end Registry

end SpecLexicon
