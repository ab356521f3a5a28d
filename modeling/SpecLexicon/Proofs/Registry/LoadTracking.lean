import SpecLexicon.Proofs.Registry.Steady

/-!
# What operations do to loads

Rebuilds and announcements leave all loads alone. So an operation schedules a load, asks one to
stop, gives one its next step, or does nothing to any of them; and what happens to one load is
one of few changes.
-/

set_option autoImplicit false

namespace SpecLexicon.Registry

variable {registry : Registry}

/-- The loads of a registry, the one it knows as its load, and those that a shutdown waits for. -/
def track (registry : Registry) : List LoadTask × Option Nat × List Nat :=
  (registry.loads, registry.current, registry.closing)

theorem loads_eq_of_track_eq {left right : Registry} (same : left.track = right.track) :
    left.loads = right.loads := by
  have projected := congrArg Prod.fst same
  exact projected

theorem current_eq_of_track_eq {left right : Registry} (same : left.track = right.track) :
    left.current = right.current := by
  have projected := congrArg (fun tracked => tracked.2.1) same
  exact projected

theorem isSteady_track : IsSteady track where
  refreshed := by
    intro earlier later refreshed
    rcases refreshed with kept | rebuilt
    · have projected := congrArg track kept
      exact projected
    · have projected := congrArg track rebuilt
      exact projected
  replaced := fun _ _ _ => rfl

theorem track_create (settings : Settings) (window : Option Window) :
    (create settings window).track = ([], none, []) := by
  rw [create, isSteady_track.updateMnemonics, isSteady_track.updateMnemonics]
  rfl

theorem track_installDatabase (location : Location) (partition : Partition)
    (registry : Registry) :
    (installDatabase location partition registry).track = registry.track := by
  have kept := isSteady_track.refreshed (installDatabase_refreshes location partition registry)
  exact kept

theorem track_finished (location : Location)
    (outcome : Except Database.FetchError Partition) (registry : Registry) :
    (registry.finished location outcome).track = registry.track := by
  cases outcome with
  | ok partition => exact track_installDatabase location partition registry
  | error reason =>
    cases reason with
    | malformed reason => rfl
    | unnameable fault => rfl

theorem track_endLoad (location : Location)
    (fetched : Except Database.FetchError Partition) (registry : Registry) :
    ((Operation.endLoad location fetched).after registry).track = registry.track := by
  rw [after_endLoad]
  cases fetched with
  | ok partition => exact track_installDatabase location partition registry
  | error reason => rfl

theorem track_scheduleLoad_congr {left right : Registry} (same : left.track = right.track) :
    left.scheduleLoad.track = right.scheduleLoad.track := by
  obtain ⟨leftSettings, leftStore, leftListeners, leftKnown, leftCalls, leftWindow, leftLoads,
    leftCurrent, leftClosing, leftEvents⟩ := left
  obtain ⟨rightSettings, rightStore, rightListeners, rightKnown, rightCalls, rightWindow,
    rightLoads, rightCurrent, rightClosing, rightEvents⟩ := right
  simp only [track, Prod.mk.injEq] at same
  obtain ⟨rfl, rfl, rfl⟩ := same
  cases leftCurrent with
  | none => rfl
  | some number => rfl

theorem track_configurationChanged (inLoop : Bool) (change : Change)
    (settings : Option Settings) (registry : Registry) :
    (outcome (configurationChanged inLoop change settings) registry).2.track = registry.track ∨
      (outcome (configurationChanged inLoop change settings) registry).2.track =
        registry.scheduleLoad.track := by
  rw [outcome_configurationChanged]
  split
  · exact .inl rfl
  · have kept := isSteady_track.rebuildAffected change
      (registry.adopt (settings.getD registry.settings))
    generalize outcome (rebuildAffected change) _ = result at kept
    obtain ⟨given, changed⟩ := result
    cases given with
    | error fault => exact .inl kept
    | ok value =>
      rw [andSchedule]
      split
      · exact .inr (track_scheduleLoad_congr kept)
      · exact .inl kept

def Operation.IsLoadWork : Operation → Prop
  | step _ => True
  | deliver _ _ => True
  | beginShutdown => True
  | endShutdown _ => True
  | _ => False

/-- All other operations schedule a load or leave the loads alone. -/
theorem track_after {operation : Operation} (other : ¬operation.IsLoadWork)
    (registry : Registry) :
    (operation.after registry).track = registry.track ∨
      (operation.after registry).track = registry.scheduleLoad.track := by
  cases operation with
  | apply inLoop settings =>
    rw [Operation.after, outcome_applySettings]
    exact track_configurationChanged inLoop _ _ registry
  | react inLoop change => exact track_configurationChanged inLoop change none registry
  | rebuildMnemonics uri lines => exact .inl (isSteady_track.requestMnemonics uri lines registry)
  | rebuildSnippets => exact .inl (isSteady_track.requestSnippets registry)
  | load read path =>
    rw [after_load]
    exact .inl (track_endLoad _ _ registry)
  | endLoad location fetched => exact .inl (track_endLoad location fetched registry)
  | activate partition =>
    have kept := isSteady_track.notify Source.activeDocument
      { registry with store := registry.store.install Source.activeDocument partition }
    exact .inl kept
  | listen name listener => exact .inl rfl
  | unlisten name => exact .inl rfl
  | startup => exact .inr rfl
  | step number => exact absurd trivial other
  | deliver number fetched => exact absurd trivial other
  | beginShutdown => exact absurd trivial other
  | endShutdown number => exact absurd trivial other

/-!
## One load
-/

def asked (task : LoadTask) : LoadTask :=
  if task.stage.isEnded then task else { task with stopRequested := true }

theorem getElem?_modifyLoad (number other : Nat) (change : LoadTask → LoadTask)
    (registry : Registry) :
    (registry.modifyLoad number change).loads[other]? =
      (registry.loads[other]?).map fun task => if number = other then change task else task :=
  List.getElem?_modify change number registry.loads other

theorem getElem?_requestStop (number other : Nat) (registry : Registry) :
    (registry.requestStop number).loads[other]? =
      (registry.loads[other]?).map fun task => if number = other then asked task else task :=
  getElem?_modifyLoad number other asked registry

theorem getElem?_scheduleLoad (other : Nat) (registry : Registry) :
    registry.scheduleLoad.loads[other]? =
      if other = registry.loads.length then some ⟨.scheduled, false⟩
      else (registry.loads[other]?).map fun task =>
        if registry.current = some other then asked task else task := by
  have appended : ∀ loads : List LoadTask,
      (loads ++ [(⟨.scheduled, false⟩ : LoadTask)])[other]? =
        if other = loads.length then some ⟨.scheduled, false⟩ else loads[other]? := by
    intro loads
    rw [List.getElem?_append]
    split
    · rw [if_neg (by omega)]
    · split
      · simp [*]
      · rw [List.getElem?_eq_none (by simp; omega), List.getElem?_eq_none (by omega)]
  rw [scheduleLoad]
  cases current : registry.current with
  | none =>
    refine (appended registry.loads).trans ?_
    simp
  | some number =>
    refine (appended (registry.requestStop number).loads).trans ?_
    have length : (registry.requestStop number).loads.length = registry.loads.length :=
      List.length_modify _ _ _
    rw [length, getElem?_requestStop]
    simp

/-- All that an operation can do to one load. -/
inductive LoadChange (registry : Registry) (number : Nat) :
    Operation → Option LoadTask → Option LoadTask → Prop where
  | same {operation : Operation} {task? : Option LoadTask} :
      LoadChange registry number operation task? task?
  | scheduled {operation : Operation} : ¬operation.IsLoadWork →
      LoadChange registry number operation none (some ⟨.scheduled, false⟩)
  | asked {operation : Operation} {stage : LoadStage} {stopRequested : Bool} :
      stage.isEnded = false → LoadChange registry number operation (some ⟨stage, stopRequested⟩)
        (some ⟨stage, true⟩)
  | cancelled {stage : LoadStage} : stage.isEnded = false →
      LoadChange registry number (.step number) (some ⟨stage, true⟩) (some ⟨.cancelled, true⟩)
  | started : LoadChange registry number (.step number) (some ⟨.scheduled, false⟩)
      (some ⟨.reading registry.settings.database, false⟩)
  | delivered {location : Location} {stopRequested : Bool}
      {outcome : Except Database.FetchError Partition} :
      LoadChange registry number (.deliver number outcome) (some ⟨.reading location, stopRequested⟩)
        (some ⟨.read location outcome, stopRequested⟩)
  | finished {location : Location} {outcome : Except Database.FetchError Partition} :
      LoadChange registry number (.step number) (some ⟨.read location outcome, false⟩)
        (some ⟨lastStage registry.window outcome, false⟩)

theorem loadChange_asked (number : Nat) (operation : Operation) (task? : Option LoadTask)
    (stops : Prop) [Decidable stops] :
    LoadChange registry number operation task?
      (task?.map fun task => if stops then Registry.asked task else task) := by
  cases task? with
  | none => exact .same
  | some task =>
    obtain ⟨stage, stopRequested⟩ := task
    by_cases stopping : stops
    · simp only [Option.map_some, if_pos stopping, Registry.asked]
      cases ended : stage.isEnded with
      | true => exact .same
      | false => exact .asked ended
    · simp only [Option.map_some, if_neg stopping]
      exact .same

theorem loadChange_scheduleLoad (number : Nat) {operation : Operation}
    (other : ¬operation.IsLoadWork) (registry : Registry) :
    LoadChange registry number operation registry.loads[number]?
      registry.scheduleLoad.loads[number]? := by
  rw [getElem?_scheduleLoad]
  split
  · rw [List.getElem?_eq_none (by omega)]
    exact .scheduled other
  · exact loadChange_asked number operation _ _

theorem loadChange_stepLoad (number other : Nat) (registry : Registry) :
    LoadChange registry other (.step number) registry.loads[other]?
      (registry.stepLoad number).loads[other]? := by
  have step := loadStep_stepLoad number registry
  generalize registry.stepLoad number = stepped at step
  by_cases different : number = other
  · subst different
    cases step with
    | absent _ => exact .same
    | ended _ _ => exact .same
    | @cancelled task found unended stopping =>
      obtain ⟨stage, stopRequested⟩ := task
      obtain rfl : stopRequested = true := stopping
      rw [arrive, getElem?_modifyLoad, found, Option.map_some, if_pos rfl]
      exact .cancelled unended
    | started found =>
      rw [arrive, getElem?_modifyLoad, found, Option.map_some, if_pos rfl]
      exact .started
    | waiting _ => exact .same
    | @finished location outcome found =>
      rw [arrive, getElem?_modifyLoad, loads_eq_of_track_eq (track_finished _ _ _), found,
        Option.map_some, if_pos rfl]
      exact .finished
  · have kept : ∀ start : Registry, ∀ stage,
        (start.arrive number stage).loads[other]? = start.loads[other]? := by
      intro start stage
      rw [arrive, getElem?_modifyLoad]
      simp [different]
    cases step with
    | absent _ => exact .same
    | ended _ _ => exact .same
    | cancelled _ _ _ => rw [kept]; exact .same
    | started _ => rw [kept]; exact .same
    | waiting _ => exact .same
    | finished _ => rw [kept, loads_eq_of_track_eq (track_finished _ _ _)]; exact .same

theorem loadChange_deliver (number other : Nat) (outcome : Except Database.FetchError Partition)
    (registry : Registry) :
    LoadChange registry other (.deliver number outcome) registry.loads[other]?
      (Registry.deliver number outcome registry).loads[other]? := by
  rw [deliver, getElem?_modifyLoad]
  cases found : registry.loads[other]? with
  | none => exact .same
  | some task =>
    obtain ⟨stage, stopRequested⟩ := task
    rw [Option.map_some]
    by_cases same : number = other
    · subst same
      rw [if_pos rfl]
      cases stage with
      | reading location => exact .delivered
      | scheduled => exact .same
      | read location fetched => exact .same
      | installed => exact .same
      | reported => exact .same
      | cancelled => exact .same
      | crashed fault => exact .same
    · rw [if_neg same]
      exact .same

theorem loadChange_beginShutdown (number : Nat) (registry : Registry) :
    LoadChange registry number .beginShutdown registry.loads[number]?
      registry.beginShutdown.loads[number]? := by
  rw [beginShutdown]
  cases registry.current with
  | none => exact .same
  | some current =>
    dsimp only
    cases registry.loads[current]? with
    | none => exact .same
    | some task =>
      dsimp only
      split
      · exact .same
      · change LoadChange registry number .beginShutdown registry.loads[number]?
          (registry.requestStop current).loads[number]?
        rw [getElem?_requestStop]
        exact loadChange_asked number _ _ _

theorem loads_endShutdown (number : Nat) (registry : Registry) :
    (registry.endShutdown number).loads = registry.loads := by
  rw [endShutdown]
  split
  · rfl
  · split
    · rfl
    · rfl

theorem loadChange_after (number : Nat) (operation : Operation) (registry : Registry) :
    LoadChange registry number operation registry.loads[number]?
      (operation.after registry).loads[number]? := by
  by_cases work : operation.IsLoadWork
  · cases operation with
    | step other => exact loadChange_stepLoad other number registry
    | deliver other outcome => exact loadChange_deliver other number outcome registry
    | beginShutdown => exact loadChange_beginShutdown number registry
    | endShutdown other =>
      have kept : ((Operation.endShutdown other).after registry).loads = registry.loads :=
        loads_endShutdown other registry
      rw [kept]
      exact .same
    | _ => exact work.elim
  · rcases track_after work registry with kept | scheduled
    · rw [loads_eq_of_track_eq kept]
      exact .same
    · rw [loads_eq_of_track_eq scheduled]
      exact loadChange_scheduleLoad number work registry

end SpecLexicon.Registry
