import SpecLexicon.Proofs.Registry.Deeds

/-!
# Registries that hold the same

What an operation gives and what it leaves depends on what the registry holds, and not on who
listens or on what happened before. Rebuilds keep this always, since they end with the snippets that
listeners could ask for. All else keeps it where announcements change nothing: where no listener
asks for a rebuild, or where the snippets are up to date.
-/

set_option autoImplicit false

namespace SpecLexicon.Registry

variable {α β : Type} {left right : Registry} {related : Registry → Registry → Prop}

/-- On two registries the actions give the same, and what they leave is related. -/
def Alike (related : Registry → Registry → Prop) (left right : Registry)
    (first second : Action α) : Prop :=
  (outcome first left).1 = (outcome second right).1 ∧
    related (outcome first left).2 (outcome second right).2

namespace Alike

theorem pure (value : α) (same : related left right) :
    Alike related left right (Pure.pure value) (Pure.pure value) :=
  ⟨rfl, same⟩

theorem throw (fault : Fault) (same : related left right) :
    Alike related left right (MonadExcept.throw fault : Action α) (MonadExcept.throw fault) :=
  ⟨rfl, same⟩

theorem bind {first second : Action α} {next other : α → Action β}
    (early : Alike related left right first second)
    (late : ∀ value left right, related left right →
      Alike related left right (next value) (other value)) :
    Alike related left right (first >>= next) (second >>= other) := by
  obtain ⟨given, changed⟩ := early
  rw [Alike, outcome_bind, outcome_bind]
  generalize outcome first left = leftRan at given changed
  generalize outcome second right = rightRan at given changed
  obtain ⟨result, leftLater⟩ := leftRan
  obtain ⟨_, rightLater⟩ := rightRan
  obtain rfl := given
  cases result with
  | ok value => exact late value leftLater rightLater changed
  | error fault => exact ⟨rfl, changed⟩

theorem get_bind {next other : Registry → Action β}
    (goes : Alike related left right (next left) (other right)) :
    Alike related left right (getThe Registry >>= next) (getThe Registry >>= other) :=
  goes

theorem perform {change other : Registry → Registry} (same : related (change left) (other right)) :
    Alike related left right (Registry.perform change) (Registry.perform other) :=
  ⟨rfl, same⟩

theorem attempt {fault? : Registry → Option Fault} {change : Registry → Registry}
    (fault : fault? left = fault? right) (same : related (change left) (change right)) :
    Alike related left right (Registry.attempt fault? change) (Registry.attempt fault? change) := by
  rw [Alike, outcome_attempt, outcome_attempt, fault]
  exact ⟨rfl, same⟩

theorem ofExcept (result : Except Fault α) (same : related left right) :
    Alike related left right (MonadExcept.ofExcept result) (MonadExcept.ofExcept result) := by
  cases result with
  | ok value => exact ⟨rfl, same⟩
  | error fault => exact ⟨rfl, same⟩

end Alike

def SameCore (left right : Registry) : Prop :=
  left.core = right.core

/-- What does not look at listeners and events is the same for registries that hold the same. -/
theorem SameCore.view {view : Registry → α} (same : SameCore left right)
    (blind : ∀ registry, view registry = view registry.core) : view left = view right := by
  rw [blind left, blind right, same]

theorem SameCore.of_commutes {change : Registry → Registry} (same : SameCore left right)
    (commutes : ∀ registry, (change registry).core = change registry.core) :
    SameCore (change left) (change right) := by
  rw [SameCore, commutes, commutes, same]

/-!
## Rebuilds
-/

theorem SameCore.updateSnippets (same : SameCore left right) :
    SameCore (Registry.updateSnippets left) (Registry.updateSnippets right) := by
  rw [SameCore, core_updateSnippets, core_updateSnippets, same]

theorem SameCore.updateMnemonics (same : SameCore left right) (uri : String) (lines : Lines) :
    SameCore (Registry.updateMnemonics uri lines left)
      (Registry.updateMnemonics uri lines right) := by
  rw [SameCore, core_updateMnemonics_eq, core_updateMnemonics_eq, same]

theorem SameCore.requestSnippets (same : SameCore left right) :
    Alike SameCore left right Registry.requestSnippets Registry.requestSnippets :=
  .attempt (same.view fun _ => rfl) same.updateSnippets

theorem SameCore.requestMnemonics (same : SameCore left right) (uri : String) (lines : Lines) :
    Alike SameCore left right (Registry.requestMnemonics uri lines)
      (Registry.requestMnemonics uri lines) :=
  .attempt (same.view fun _ => rfl) (same.updateMnemonics uri lines)

theorem SameCore.mnemonicsWhen (same : SameCore left right) (affected : Bool) (uri : String) :
    Alike SameCore left right (Registry.mnemonicsWhen affected uri)
      (Registry.mnemonicsWhen affected uri) := by
  have settings := settings_eq_of_core_eq same
  rw [Alike, outcome_mnemonicsWhen, outcome_mnemonicsWhen, settings]
  split
  · have faults : mnemonicFault? uri (right.settings.linesOf uri) left =
        mnemonicFault? uri (right.settings.linesOf uri) right := same.view fun _ => rfl
    exact ⟨by rw [faults], same.updateMnemonics uri _⟩
  · exact ⟨rfl, same⟩

theorem SameCore.rebuildAffected (same : SameCore left right) (change : Change) :
    Alike SameCore left right (Registry.rebuildAffected change)
      (Registry.rebuildAffected change) := by
  rw [rebuildAffected_eq]
  refine (same.mnemonicsWhen _ _).bind fun _ _ _ motors => ?_
  refine (motors.mnemonicsWhen _ _).bind fun _ _ _ counters => ?_
  split
  · exact counters.requestSnippets
  · exact .pure () counters

theorem core_scheduleLoad (registry : Registry) :
    registry.scheduleLoad.core = registry.core.scheduleLoad := by
  obtain ⟨settings, store, listeners, known, calls, window, loads, current, closing, events⟩ :=
    registry
  cases current with
  | none => rfl
  | some number => rfl

theorem SameCore.configurationChanged (same : SameCore left right) (inLoop : Bool)
    (change : Change) (adopted : Option Settings) :
    Alike SameCore left right (Registry.configurationChanged inLoop change adopted)
      (Registry.configurationChanged inLoop change adopted) := by
  have settings : adopted.getD left.settings = adopted.getD right.settings := by
    rw [settings_eq_of_core_eq same]
  rw [Alike, outcome_configurationChanged, outcome_configurationChanged, settings]
  split
  · exact ⟨rfl, same⟩
  · have adopts : SameCore (left.adopt (adopted.getD right.settings))
        (right.adopt (adopted.getD right.settings)) := same.of_commutes fun _ => rfl
    obtain ⟨given, changed⟩ := adopts.rebuildAffected change
    generalize outcome (Registry.rebuildAffected change) (left.adopt _) = leftRan at given changed
    generalize outcome (Registry.rebuildAffected change) (right.adopt _) = rightRan at given changed
    obtain ⟨result, leftLater⟩ := leftRan
    obtain ⟨_, rightLater⟩ := rightRan
    obtain rfl := given
    cases result with
    | error fault => exact ⟨rfl, changed⟩
    | ok value =>
      refine ⟨rfl, ?_⟩
      dsimp only [andSchedule]
      split
      · exact SameCore.of_commutes changed core_scheduleLoad
      · exact changed

theorem SameCore.applySettings (same : SameCore left right) (inLoop : Bool)
    (adopted : Settings) :
    Alike SameCore left right (Registry.applySettings inLoop adopted)
      (Registry.applySettings inLoop adopted) := by
  refine .get_bind ?_
  rw [settings_eq_of_core_eq same]
  exact (same.configurationChanged inLoop _ _).bind fun _ _ _ changed => .pure _ changed

/-!
## Loads and documents
-/

/-- What a step makes of a load. -/
def stepTask (number : Nat) (task : LoadTask) (registry : Registry) : Registry :=
  if task.stage.isEnded then registry
  else if task.stopRequested then registry.arrive number .cancelled
  else match task.stage with
    | .scheduled => registry.arrive number (.reading registry.settings.database)
    | .read location outcome =>
      (registry.finished location outcome).arrive number (lastStage registry.window outcome)
    | _ => registry

theorem stepLoad_eq (number : Nat) (registry : Registry) :
    registry.stepLoad number =
      match registry.loads[number]? with
      | none => registry
      | some task => registry.stepTask number task := by
  rw [stepLoad]
  cases registry.loads[number]? with
  | none => rfl
  | some task =>
    obtain ⟨stage, stopRequested⟩ := task
    cases stage with
    | read location outcome =>
      have last := outcome_finishInBackground location outcome registry
      change (finishInBackground location outcome).run.run registry = _ at last
      dsimp only
      simp only [stepTask, last, lastStage]
      cases lastResult registry.window outcome with
      | ok stage => rfl
      | error fault => rfl
    | scheduled => rfl
    | reading location => rfl
    | installed => rfl
    | reported => rfl
    | cancelled => rfl
    | crashed fault => rfl

theorem core_beginShutdown (registry : Registry) :
    registry.beginShutdown.core = registry.core.beginShutdown := by
  obtain ⟨settings, store, listeners, known, calls, window, loads, current, closing, events⟩ :=
    registry
  cases current with
  | none => rfl
  | some number =>
    dsimp only [core, beginShutdown]
    split
    · rfl
    · split
      · rfl
      · rfl

theorem core_endShutdown (number : Nat) (registry : Registry) :
    (registry.endShutdown number).core = registry.core.endShutdown number := by
  dsimp only [core, endShutdown]
  split
  · rfl
  · split
    · rfl
    · rfl

/-!
## Registries that announcements leave alone
-/

/-- What such registries hold stays as it is when a source that was installed is announced, and they
may do something by themselves. -/
structure IsCalm (calm : Registry → Prop) : Prop where
  document : ∀ {registry : Registry} (partition : Partition), calm registry →
    (setActiveDocument partition registry).core = { registry.core with
      store := registry.core.store.install Source.activeDocument partition }
  database : ∀ {registry : Registry} (location : Location) (partition : Partition),
    calm registry →
    (installDatabase location partition registry).core = registry.core.withDatabase partition
  emit : ∀ {registry : Registry} {event : Event}, event.isNotice = false → calm registry →
    calm (registry.emit event)

def IsSettled (registry : Registry) : Prop :=
  ∃ settings symbols, Settled settings symbols registry

/-- Listeners that ask for a rebuild get the snippets that are there. -/
theorem isCalm_isSettled : IsCalm IsSettled := by
  constructor
  · rintro registry partition ⟨settings, symbols, settled⟩
    have installed := settled.install (show Source.activeDocument ∉ _ by decide) partition
    exact installed.holds.core_eq_of_refreshes installed.current (notify_refreshes _ _)
  · rintro registry location partition ⟨settings, symbols, settled⟩
    have installed := settled.withDatabase partition
    exact installed.holds.core_eq_of_refreshes installed.current
      (installDatabase_refreshes location partition registry)
  · rintro registry event _ ⟨settings, symbols, settled⟩
    exact ⟨settings, symbols, settled.congr rfl rfl⟩

theorem core_foldl_callListener (uri : String) (names : List String) (registry : Registry) :
    (names.foldl (callListener id uri) registry).core = registry.core := by
  induction names generalizing registry with
  | nil => rfl
  | cons name rest ih =>
    rw [List.foldl_cons, ih]
    simp only [callListener]
    split
    case h_5 =>
      split
      · rfl
      · rfl
    all_goals rfl

theorem IsPassive.core_notify {registry : Registry} (passive : registry.IsPassive) (uri : String) :
    (registry.notify uri).core = registry.core := by
  have entered : (registry.emit (.announced uri registry.store)).IsPassive := passive
  rw [notify, Registry.notifyWith, entered.foldl_callListener updateSnippets,
    core_foldl_callListener]
  rfl

/-- No listener asks for a rebuild. -/
theorem isCalm_isPassive : IsCalm IsPassive := by
  constructor
  · intro registry partition passive
    have installed : IsPassive { registry with
        store := registry.store.install Source.activeDocument partition } := passive
    exact installed.core_notify Source.activeDocument
  · intro registry location partition passive
    have recorded : IsPassive ((registry.withDatabase partition).recordAll
        (installRecords location partition)) := passive
    rw [installDatabase_eq]
    exact recorded.core_notify Source.builtIn
  · exact fun _ passive => passive

/-- The registries hold the same, and both are calm. -/
structure Matches (calm : Registry → Prop) (left right : Registry) : Prop where
  same : SameCore left right
  left : calm left
  right : calm right

section Calm

variable {calm : Registry → Prop}

theorem IsCalm.core_finished (isCalm : IsCalm calm) {registry : Registry} (quiet : calm registry)
    (location : Location) (outcome : Except Database.FetchError Partition) :
    (registry.finished location outcome).core =
      match outcome with
      | .ok partition => registry.core.withDatabase partition
      | .error _ => registry.core := by
  cases outcome with
  | ok partition => exact isCalm.database location partition quiet
  | error reason =>
    cases reason with
    | malformed reason => rfl
    | unnameable fault => rfl

namespace Matches

theorem installDatabase (fits : Matches calm left right) (isCalm : IsCalm calm)
    (location : Location) (partition : Partition) :
    SameCore (Registry.installDatabase location partition left)
      (Registry.installDatabase location partition right) := by
  rw [SameCore, isCalm.database _ _ fits.left, isCalm.database _ _ fits.right, fits.same]

theorem setActiveDocument (fits : Matches calm left right) (isCalm : IsCalm calm)
    (partition : Partition) :
    SameCore (Registry.setActiveDocument partition left)
      (Registry.setActiveDocument partition right) := by
  rw [SameCore, isCalm.document _ fits.left, isCalm.document _ fits.right, fits.same]

theorem stepTask (fits : Matches calm left right) (isCalm : IsCalm calm) (number : Nat)
    (task : LoadTask) : SameCore (left.stepTask number task) (right.stepTask number task) := by
  have same := fits.same
  have arrives (stage : LoadStage) :
      SameCore (left.arrive number stage) (right.arrive number stage) :=
    same.of_commutes fun _ => rfl
  rw [Registry.stepTask, Registry.stepTask]
  split
  · exact same
  · split
    · exact arrives .cancelled
    · split
      · rw [settings_eq_of_core_eq same]
        exact arrives _
      · rename_i location outcome _
        have finished :
            SameCore (left.finished location outcome) (right.finished location outcome) := by
          rw [SameCore, isCalm.core_finished fits.left, isCalm.core_finished fits.right, same]
        have window : left.window = right.window := same.view fun _ => rfl
        rw [window]
        exact finished.of_commutes fun _ => rfl
      · exact same

theorem stepLoad (fits : Matches calm left right) (isCalm : IsCalm calm) (number : Nat) :
    SameCore (left.stepLoad number) (right.stepLoad number) := by
  have loads : left.loads = right.loads := fits.same.view fun _ => rfl
  rw [stepLoad_eq, stepLoad_eq, loads]
  cases right.loads[number]? with
  | none => exact fits.same
  | some task => exact fits.stepTask isCalm number task

theorem finishLoad (fits : Matches calm left right) (isCalm : IsCalm calm)
    (location : Location) (outcome : Except Database.FetchError Partition) :
    Alike SameCore left right (Registry.finishLoad location outcome)
      (Registry.finishLoad location outcome) := by
  cases outcome with
  | ok partition => exact ⟨rfl, fits.installDatabase isCalm location partition⟩
  | error reason => exact ⟨rfl, fits.same⟩

theorem loadDatabase (fits : Matches calm left right) (isCalm : IsCalm calm) (read : FileReader)
    (path : Option LooseText) :
    Alike SameCore left right (Registry.loadDatabase read path)
      (Registry.loadDatabase read path) := by
  have location : left.locationOf path = right.locationOf path := by
    rw [locationOf, locationOf, settings_eq_of_core_eq fits.same]
  refine .get_bind ?_
  rw [location]
  exact fits.finishLoad isCalm _ _

end Matches

end Calm

end SpecLexicon.Registry
