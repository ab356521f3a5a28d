import SpecLexicon.Proofs.Registry.Announcing
import SpecLexicon.Proofs.Registry.Operation

/-!
# What a load does

A database that was fetched is installed and announced; one that was not is reported, or nothing is
done at all. A background load does so in its last step only: all its other steps change nothing but
the load itself.
-/

set_option autoImplicit false

namespace SpecLexicon.Registry

variable {registry : Registry}

/-- The registry with the database installed, of which nobody was told yet. -/
def withDatabase (partition : Partition) (registry : Registry) : Registry :=
  { registry with store := registry.store.install Source.builtIn partition }

/-- The records that come before the announcement of a database. -/
def installRecords (location : Location) (partition : Partition) : List Record :=
  [Database.loaded partition, ⟨.info, .registry, "Installed built-in reference: " ++
    toString (Partition.itemCount partition) ++ " items from " ++ location.text⟩]

theorem installDatabase_eq (location : Location) (partition : Partition)
    (registry : Registry) : installDatabase location partition registry =
      notify Source.builtIn
        ((registry.withDatabase partition).recordAll (installRecords location partition)) := by
  simp [installDatabase, installRecords, withDatabase, recordAll, record, emit]

theorem installDatabase_refreshes (location : Location) (partition : Partition)
    (registry : Registry) :
    Refreshes (registry.withDatabase partition) (installDatabase location partition registry) := by
  rw [installDatabase_eq]
  exact .trans (.of_core_eq (core_recordAll _ _)) (notify_refreshes Source.builtIn _)

theorem Announcement.behind {uri : String} {shown : Store} {earlier middle later : Registry}
    {records : List Record} {added : List Event}
    (announcement : Announcement uri shown middle later [] added)
    (events : middle.events = earlier.events ++ records.map .recorded)
    (listeners : middle.listeners = earlier.listeners) (known : middle.known = earlier.known) :
    Announcement uri shown earlier later records added := by
  refine ⟨?_, ?_, announcement.others, ?_⟩
  · rw [announcement.events, events]
    simp
  · rw [announcement.told, listeners]
  · intro passive
    apply announcement.passive
    rw [IsPassive, known]
    exact passive

theorem exists_announcement_installDatabase (location : Location) (partition : Partition)
    (registry : Registry) :
    ∃ added, Announcement Source.builtIn (registry.store.install Source.builtIn partition) registry
      (installDatabase location partition registry) (installRecords location partition) added := by
  obtain ⟨added, announcement⟩ := exists_announcement_notify
    (show Source.builtIn ≠ Source.snippet by decide)
    ((registry.withDatabase partition).recordAll (installRecords location partition))
  rw [← installDatabase_eq] at announcement
  exact ⟨added, announcement.behind rfl rfl rfl⟩

/-- What is done about a database that cannot be loaded: a record, and an error shown to the user if
there is a window. -/
def reportEvents (window : Option Window) (reason : Database.Malformed) : List Event :=
  .recorded ⟨.error, .registry, "Failed to load API reference database: " ++ reason.message⟩ ::
    match window with
    | none => []
    | some _ =>
      [.used (.errorMessage ("Failed to load the API reference database: " ++ reason.message))]

def finished (location : Location) (outcome : Except Database.FetchError Partition)
    (registry : Registry) : Registry :=
  match outcome with
  | .ok partition => installDatabase location partition registry
  | .error (.malformed reason) =>
    { registry with events := registry.events ++ reportEvents registry.window reason }
  | .error (.unnameable _) => registry

def lastResult (window : Option Window) :
    Except Database.FetchError Partition → Except Fault LoadStage
  | .ok _ => .ok .installed
  | .error (.malformed _) =>
    if window.any fun window => window.failing.contains "show_error_message" then
      .error (.windowFailed "show_error_message")
    else .ok .reported
  | .error (.unnameable fault) => .error (.unnameable fault)

def lastStage (window : Option Window) (outcome : Except Database.FetchError Partition) :
    LoadStage :=
  match lastResult window outcome with
  | .ok stage => stage
  | .error fault => .crashed fault

theorem isEnded_lastStage (window : Option Window)
    (outcome : Except Database.FetchError Partition) :
    (lastStage window outcome).isEnded = true := by
  rw [lastStage]
  cases outcome with
  | ok partition => rfl
  | error reason =>
    cases reason with
    | unnameable fault => rfl
    | malformed reason =>
      rw [lastResult]
      split
      · rename_i result
        split at result
        · cases result
        · cases result
          rfl
      · rfl

def arrive (number : Nat) (stage : LoadStage) (registry : Registry) : Registry :=
  registry.modifyLoad number fun task => { task with stage }

theorem outcome_useWindow (window : Window) (call : WindowCall) (registry : Registry) :
    outcome (useWindow window call) registry =
      (if window.failing.contains call.name then .error (.windowFailed call.name) else .ok (),
        registry.emit (.used call)) := by
  rw [useWindow, outcome_perform_bind]
  by_cases failing : window.failing.contains call.name = true
  · rw [if_pos failing, if_pos failing, outcome_throw]
  · rw [if_neg failing, if_neg failing, outcome_pure]

theorem outcome_finishInBackground (location : Location)
    (outcome : Except Database.FetchError Partition) (registry : Registry) :
    Registry.outcome (finishInBackground location outcome) registry =
      (lastResult registry.window outcome, registry.finished location outcome) := by
  cases outcome with
  | ok partition => rfl
  | error reason =>
    cases reason with
    | unnameable fault => rfl
    | malformed reason =>
      rw [finishInBackground, outcome_perform_bind, outcome_bind, showError, outcome_get_bind]
      cases present : registry.window with
      | none => simp [record, emit, present, finished, lastResult, reportEvents, outcome_pure]
      | some window =>
        have used := outcome_useWindow window
          (.errorMessage ("Failed to load the API reference database: " ++ reason.message))
          (registry.record .error ("Failed to load API reference database: " ++ reason.message))
        simp only [record, emit, present, WindowCall.name, outcome_pure, List.append_assoc,
          List.cons_append, List.nil_append] at used ⊢
        simp only [finished, present, lastResult, reportEvents, Option.any_some, used]
        by_cases failing : window.failing.contains "show_error_message" = true
        · simp only [failing, if_true]
        · simp only [failing, Bool.false_eq_true, if_false]

/-- All that a step of a load can be. -/
inductive LoadStep (number : Nat) (registry : Registry) : Registry → Prop where
  | absent : registry.loads[number]? = none → LoadStep number registry registry
  | ended {task : LoadTask} : registry.loads[number]? = some task → task.stage.isEnded = true →
      LoadStep number registry registry
  | cancelled {task : LoadTask} : registry.loads[number]? = some task →
      task.stage.isEnded = false → task.stopRequested = true →
      LoadStep number registry (registry.arrive number .cancelled)
  | started : registry.loads[number]? = some ⟨.scheduled, false⟩ →
      LoadStep number registry (registry.arrive number (.reading registry.settings.database))
  | waiting {location : Location} :
      registry.loads[number]? = some ⟨.reading location, false⟩ → LoadStep number registry registry
  | finished {location : Location} {outcome : Except Database.FetchError Partition} :
      registry.loads[number]? = some ⟨.read location outcome, false⟩ →
      LoadStep number registry ((registry.finished location outcome).arrive number
        (lastStage registry.window outcome))

theorem loadStep_stepLoad (number : Nat) (registry : Registry) :
    LoadStep number registry (registry.stepLoad number) := by
  rw [stepLoad]
  cases found : registry.loads[number]? with
  | none => exact .absent found
  | some task =>
    obtain ⟨stage, stopRequested⟩ := task
    dsimp only
    by_cases ended : stage.isEnded = true
    · rw [if_pos ended]
      exact .ended found ended
    · rw [if_neg ended]
      cases stopRequested with
      | true => exact .cancelled found (Bool.eq_false_iff.mpr ended) rfl
      | false =>
        cases stage with
        | scheduled => exact .started found
        | reading location => exact .waiting found
        | read location outcome =>
          have last := outcome_finishInBackground location outcome registry
          have step := LoadStep.finished found
          change (finishInBackground location outcome).run.run registry = _ at last
          rw [if_neg Bool.false_ne_true]
          simp only [last]
          rw [lastStage] at step
          cases result : lastResult registry.window outcome with
          | ok stage =>
            rw [result] at step
            exact step
          | error fault =>
            rw [result] at step
            exact step
        | installed => exact absurd rfl ended
        | reported => exact absurd rfl ended
        | cancelled => exact absurd rfl ended
        | crashed fault => exact absurd rfl ended

theorem outcome_loadDatabase (read : FileReader) (path : Option LooseText) (registry : Registry) :
    outcome (loadDatabase read path) registry =
      match Database.fetch read (registry.locationOf path) with
      | .ok partition => (.ok partition,
          installDatabase (registry.locationOf path) partition registry)
      | .error reason => (.error (.ofFetchError reason), registry) := by
  rw [loadDatabase, outcome_get_bind]
  dsimp only
  cases Database.fetch read (registry.locationOf path) with
  | ok partition => rfl
  | error reason => rfl

theorem after_endLoad (location : Location)
    (fetched : Except Database.FetchError Partition) (registry : Registry) :
    (Operation.endLoad location fetched).after registry =
      match fetched with
      | .ok partition => installDatabase location partition registry
      | .error _ => registry := by
  cases fetched with
  | ok partition => rfl
  | error reason => rfl

/-- A load that a program waits for ends like one whose file was read in between. -/
theorem after_load (read : FileReader) (path : Option LooseText) (registry : Registry) :
    (Operation.load read path).after registry =
      (Operation.endLoad (registry.locationOf path)
        (Database.fetch read (registry.locationOf path))).after registry := by
  rw [after_endLoad, Operation.after, Operation.action, outcome_bind, outcome_loadDatabase]
  cases Database.fetch read (registry.locationOf path) with
  | ok partition => rfl
  | error reason => rfl

/-!
## What loads leave alone
-/

def withoutLoads (registry : Registry) : Registry :=
  { registry with loads := [], current := none, closing := [] }

@[simp] theorem withoutLoads_modifyLoad (number : Nat) (change : LoadTask → LoadTask)
    (registry : Registry) :
    (registry.modifyLoad number change).withoutLoads = registry.withoutLoads := rfl

@[simp] theorem withoutLoads_scheduleLoad (registry : Registry) :
    registry.scheduleLoad.withoutLoads = registry.withoutLoads := by
  rw [scheduleLoad]
  split
  · rfl
  · rfl

@[simp] theorem withoutLoads_beginShutdown (registry : Registry) :
    registry.beginShutdown.withoutLoads = registry.withoutLoads := by
  rw [beginShutdown]
  split
  · rfl
  · split
    · rfl
    · split
      · rfl
      · rfl

@[simp] theorem withoutLoads_endShutdown (number : Nat) (registry : Registry) :
    (registry.endShutdown number).withoutLoads = registry.withoutLoads := by
  rw [endShutdown]
  split
  · rfl
  · split
    · rfl
    · rfl

theorem settings_eq_of_withoutLoads_eq {left right : Registry}
    (same : left.withoutLoads = right.withoutLoads) : left.settings = right.settings := by
  have projected := congrArg Registry.settings same
  exact projected

theorem store_eq_of_withoutLoads_eq {left right : Registry}
    (same : left.withoutLoads = right.withoutLoads) : left.store = right.store := by
  have projected := congrArg Registry.store same
  exact projected

end SpecLexicon.Registry
