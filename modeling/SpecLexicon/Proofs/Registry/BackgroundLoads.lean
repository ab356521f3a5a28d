import SpecLexicon.Proofs.Registry.DatabaseLoad
import SpecLexicon.Proofs.Registry.ExclusiveLoads

/-!
# Background loads

Whatever a load does to the outside, it does in one of its turns: it installs the database and has
it announced, or it reports one error. All its other turns change nothing but the load, and its last
stage tells which of both it did. Only a path that cannot be a name lets a load end without either.
-/

set_option autoImplicit false

namespace SpecLexicon

/-- What a load has done to the outside. -/
inductive Ending where
  | silent
  | installed
  | reported
deriving DecidableEq, Repr

/-- What a load in a stage has done. A load that crashed in the window has reported its error. -/
def LoadStage.ending : LoadStage → Ending
  | installed => .installed
  | reported => .reported
  | crashed (.windowFailed _) => .reported
  | _ => .silent

def endingOf : Option LoadTask → Ending
  | none => .silent
  | some task => task.stage.ending

namespace Registry

variable {registry : Registry} {number : Nat} {operation : Operation}

/-- The registry before and after a turn changed in nothing but the load. -/
def Quiet (number : Nat) (turn : Registry × Registry) : Prop :=
  ∃ change, turn.2 = turn.1.modifyLoad number change

def Installs (number : Nat) (turn : Registry × Registry) : Prop :=
  ∃ partition installed change, Installed partition turn.1 installed ∧
    turn.2 = installed.modifyLoad number change

/-- A turn in which a load reports one error and changes nothing else. -/
def Reports (number : Nat) (turn : Registry × Registry) : Prop :=
  ∃ reason change,
    turn.2 = Registry.modifyLoad number change
      { turn.1 with events := turn.1.events ++ reportEvents turn.1.window reason }

/-- The turns of a load, together with what it did in them. -/
inductive Accounted (number : Nat) : Ending → List (Registry × Registry) → Prop where
  | nil : Accounted number .silent []
  | quiet {ending : Ending} {turn : Registry × Registry} {rest : List (Registry × Registry)} :
      Quiet number turn → Accounted number ending rest → Accounted number ending (turn :: rest)
  | installs {turn : Registry × Registry} {rest : List (Registry × Registry)} :
      Installs number turn → (∀ later ∈ rest, Quiet number later) →
      Accounted number .installed (turn :: rest)
  | reports {turn : Registry × Registry} {rest : List (Registry × Registry)} :
      Reports number turn → (∀ later ∈ rest, Quiet number later) →
      Accounted number .reported (turn :: rest)

def Operation.drives (number : Nat) : Operation → Bool
  | step other => other == number
  | deliver other _ => other == number
  | _ => false

def turns (number : Nat) : List Operation → Registry → List (Registry × Registry)
  | [], _ => []
  | operation :: rest, registry =>
    if operation.drives number then
      (registry, operation.after registry) :: turns number rest (operation.after registry)
    else turns number rest (operation.after registry)

theorem ending_lastStage (window : Option Window)
    (outcome : Except Database.FetchError Partition) :
    (lastStage window outcome).ending =
      match outcome with
      | .ok _ => .installed
      | .error (.malformed _) => .reported
      | .error (.unnameable _) => .silent := by
  rw [lastStage]
  cases outcome with
  | ok partition => rfl
  | error reason =>
    cases reason with
    | unnameable fault => rfl
    | malformed reason =>
      rw [lastResult]
      by_cases failing : (window.any fun window =>
          window.failing.contains "show_error_message") = true
      · rw [if_pos failing]
        rfl
      · rw [if_neg failing]
        rfl

theorem LoadChange.endingOf_eq {before after : Option LoadTask}
    (changed : LoadChange registry number operation before after)
    (other : operation.drives number = false) : endingOf after = endingOf before := by
  cases changed with
  | same => rfl
  | scheduled _ => rfl
  | asked _ => rfl
  | cancelled _ => simp [Operation.drives] at other
  | started => rfl
  | delivered => rfl
  | finished => simp [Operation.drives] at other

theorem isEnded_of_ending {stage : LoadStage} (done : stage.ending ≠ .silent) :
    stage.isEnded = true := by
  cases stage with
  | scheduled => exact absurd rfl done
  | reading location => exact absurd rfl done
  | read location outcome => exact absurd rfl done
  | installed => rfl
  | reported => rfl
  | cancelled => rfl
  | crashed fault => rfl

theorem quiet_refl (number : Nat) (registry : Registry) : Quiet number (registry, registry) := by
  refine ⟨id, ?_⟩
  rw [modifyLoad, List.modify_id]

theorem quiet_of_ending {task : LoadTask} (found : registry.loads[number]? = some task)
    (done : task.stage.ending ≠ .silent) (drives : operation.drives number = true) :
    Quiet number (registry, operation.after registry) ∧
      (operation.after registry).loads[number]? = some task := by
  have ended := isEnded_of_ending done
  cases operation with
  | step other =>
    obtain rfl : other = number := by simpa [Operation.drives] using drives
    have kept : registry.stepLoad other = registry := by
      simp [stepLoad, found, ended]
    have after : (Operation.step other).after registry = registry := kept
    rw [after]
    exact ⟨quiet_refl other registry, found⟩
  | deliver other outcome =>
    obtain rfl : other = number := by simpa [Operation.drives] using drives
    refine ⟨⟨_, rfl⟩, ?_⟩
    change (Registry.deliver other outcome registry).loads[other]? = some task
    rw [deliver, getElem?_modifyLoad, found, Option.map_some, if_pos rfl]
    obtain ⟨stage, stopRequested⟩ := task
    cases stage with
    | reading location => exact absurd rfl done
    | scheduled => rfl
    | read location fetched => rfl
    | installed => rfl
    | reported => rfl
    | cancelled => rfl
    | crashed fault => rfl
  | _ => cases drives

theorem endingOf_arrive {task : LoadTask} {stage : LoadStage} {before : Registry}
    (found : before.loads[number]? = some task) :
    endingOf (before.arrive number stage).loads[number]? = stage.ending := by
  rw [arrive, getElem?_modifyLoad, found, Option.map_some, if_pos rfl]
  rfl

/-- A load that did nothing yet does at most one thing in a turn. -/
theorem turn_of_silent {settings : Settings} {symbols : String → ItemMap}
    (settled : Settled settings symbols registry)
    (silent : endingOf registry.loads[number]? = .silent)
    (drives : operation.drives number = true) :
    (Quiet number (registry, operation.after registry) ∧
        endingOf (operation.after registry).loads[number]? = .silent) ∨
      (Installs number (registry, operation.after registry) ∧
        endingOf (operation.after registry).loads[number]? = .installed) ∨
      (Reports number (registry, operation.after registry) ∧
        endingOf (operation.after registry).loads[number]? = .reported) := by
  cases operation with
  | step other =>
    obtain rfl : other = number := by simpa [Operation.drives] using drives
    have after : (Operation.step other).after registry = registry.stepLoad other := rfl
    rw [after]
    have step := loadStep_stepLoad other registry
    generalize registry.stepLoad other = stepped at step
    cases step with
    | absent _ => exact .inl ⟨quiet_refl other registry, silent⟩
    | ended _ _ => exact .inl ⟨quiet_refl other registry, silent⟩
    | cancelled found _ _ => exact .inl ⟨⟨_, rfl⟩, endingOf_arrive found⟩
    | started found => exact .inl ⟨⟨_, rfl⟩, endingOf_arrive found⟩
    | waiting _ => exact .inl ⟨quiet_refl other registry, silent⟩
    | @finished location outcome found =>
      have kept : (registry.finished location outcome).loads[other]? =
          some ⟨.read location outcome, false⟩ := by
        rw [loads_eq_of_track_eq (track_finished location outcome registry)]
        exact found
      rw [endingOf_arrive kept, ending_lastStage]
      cases outcome with
      | ok partition =>
        exact .inr (.inl ⟨⟨partition, _, _, settled.installed location partition, rfl⟩, rfl⟩)
      | error reason =>
        cases reason with
        | malformed reason => exact .inr (.inr ⟨⟨reason, _, rfl⟩, rfl⟩)
        | unnameable fault => exact .inl ⟨⟨_, rfl⟩, rfl⟩
  | deliver other outcome =>
    obtain rfl : other = number := by simpa [Operation.drives] using drives
    refine .inl ⟨⟨_, rfl⟩, ?_⟩
    change endingOf (Registry.deliver other outcome registry).loads[other]? = .silent
    rw [deliver, getElem?_modifyLoad]
    cases found : registry.loads[other]? with
    | none => rfl
    | some task =>
      obtain ⟨stage, stopRequested⟩ := task
      rw [found] at silent
      rw [Option.map_some, if_pos rfl]
      cases stage with
      | reading location => rfl
      | _ => exact silent
  | _ => cases drives

/-!
## Runs
-/

/-- Once a load did something, all its later turns are quiet and what it did stays. -/
theorem quiet_turns (operations : List Operation) {ending : Ending} (done : ending ≠ .silent)
    (reached : endingOf registry.loads[number]? = ending) :
    (∀ turn ∈ turns number operations registry, Quiet number turn) ∧
      endingOf (run operations registry).loads[number]? = ending := by
  induction operations generalizing registry with
  | nil => exact ⟨by simp [turns], reached⟩
  | cons operation rest ih =>
    rw [run_cons, turns]
    cases drives : operation.drives number with
    | false =>
      rw [if_neg Bool.false_ne_true]
      have changed := loadChange_after number operation registry
      exact ih ((changed.endingOf_eq drives).trans reached)
    | true =>
      rw [if_pos rfl]
      cases found : registry.loads[number]? with
      | none =>
        rw [found] at reached
        exact absurd reached.symm done
      | some task =>
        rw [found] at reached
        change task.stage.ending = ending at reached
        obtain ⟨quiet, stays⟩ := quiet_of_ending found (by rw [reached]; exact done) drives
        obtain ⟨later, last⟩ := ih (by rw [stays]; exact reached)
        refine ⟨?_, last⟩
        intro turn member
        rcases List.mem_cons.mp member with rfl | present
        · exact quiet
        · exact later turn present

/-- What a load did in a run is what its last stage says. -/
theorem accounted_run {settings : Settings} {symbols : String → ItemMap}
    {operations : List Operation} (settled : Settled settings symbols registry)
    (proper : ∀ operation ∈ operations, operation.IsProper)
    (silent : endingOf registry.loads[number]? = .silent) :
    Accounted number (endingOf (run operations registry).loads[number]?)
      (turns number operations registry) := by
  induction operations generalizing settings symbols registry with
  | nil =>
    rw [run_nil, silent]
    exact .nil
  | cons operation rest ih =>
    obtain ⟨later, laterSymbols, laterSettled⟩ := settled.after (proper operation List.mem_cons_self)
    have laterProper : ∀ operation ∈ rest, operation.IsProper :=
      fun other member => proper other (List.mem_cons_of_mem operation member)
    rw [run_cons, turns]
    cases drives : operation.drives number with
    | false =>
      rw [if_neg Bool.false_ne_true]
      have changed := loadChange_after number operation registry
      exact ih laterSettled laterProper ((changed.endingOf_eq drives).trans silent)
    | true =>
      rw [if_pos rfl]
      -- The first turn that is not quiet settles what the load did.
      rcases turn_of_silent settled silent drives with
        ⟨quiet, still⟩ | ⟨installs, reached⟩ | ⟨reports, reached⟩
      · exact .quiet quiet (ih laterSettled laterProper still)
      · obtain ⟨quiet, last⟩ := quiet_turns rest (by decide) reached
        rw [last]
        exact .installs installs quiet
      · obtain ⟨quiet, last⟩ := quiet_turns rest (by decide) reached
        rw [last]
        exact .reports reports quiet

/-!
## Loads that are asked to stop
-/

end Registry

/-- A load that was asked to stop ends in no other way, and no other load is cancelled. A load
crashes in the window, or at a path that cannot be a name. -/
structure LoadTask.IsSound (task : LoadTask) : Prop where
  stops : task.stopRequested = true → task.stage.isEnded = true → task.stage = .cancelled
  asked : task.stage = .cancelled → task.stopRequested = true
  crashed : ∀ fault, task.stage = .crashed fault → task.stage.ending = .silent →
    ∃ reason, fault = .unnameable reason

namespace LoadTask.IsSound

variable {task : LoadTask}

theorem ending_of_stopRequested (sound : task.IsSound) (stopped : task.stopRequested = true) :
    task.stage.ending = .silent := by
  by_cases ended : task.stage.isEnded = true
  · rw [sound.stops stopped ended]
    rfl
  · by_cases silent : task.stage.ending = .silent
    · exact silent
    · exact absurd (Registry.isEnded_of_ending silent) ended

theorem eq_crashed (sound : task.IsSound) (unstopped : task.stopRequested = false)
    (ended : task.stage.isEnded = true) (silent : task.stage.ending = .silent) :
    ∃ reason, task.stage = .crashed (.unnameable reason) := by
  cases stage : task.stage with
  | crashed fault =>
    obtain ⟨reason, rfl⟩ := sound.crashed fault stage silent
    exact ⟨reason, rfl⟩
  | cancelled =>
    rw [sound.asked stage] at unstopped
    cases unstopped
  | installed =>
    rw [stage] at silent
    cases silent
  | reported =>
    rw [stage] at silent
    cases silent
  | _ =>
    rw [stage] at ended
    cases ended

end LoadTask.IsSound

namespace Registry

variable {registry : Registry} {number : Nat} {operation : Operation}

theorem isSound_finished (window : Option Window)
    (outcome : Except Database.FetchError Partition) :
    LoadTask.IsSound ⟨lastStage window outcome, false⟩ := by
  refine ⟨by simp, ?_, ?_⟩
  · intro cancelled
    have ended := ending_lastStage window outcome
    rw [lastStage] at cancelled
    cases outcome with
    | ok partition => cases cancelled
    | error reason =>
      cases reason with
      | unnameable fault => cases cancelled
      | malformed reason =>
        rw [← lastStage] at cancelled
        dsimp only at cancelled
        rw [cancelled] at ended
        cases ended
  · intro fault crashed silent
    dsimp only at crashed silent
    rw [ending_lastStage] at silent
    cases outcome with
    | ok partition => cases silent
    | error reason =>
      cases reason with
      | malformed reason => cases silent
      | unnameable reason =>
        cases crashed
        exact ⟨reason, rfl⟩

theorem LoadChange.isSound {before after : Option LoadTask}
    (changed : LoadChange registry number operation before after)
    (sound : ∀ task, before = some task → task.IsSound) :
    ∀ task, after = some task → task.IsSound := by
  intro task found
  cases changed with
  | same => exact sound task found
  | scheduled _ =>
    cases found
    exact ⟨by simp, by simp, by simp⟩
  | asked unended =>
    cases found
    have earlier := sound _ rfl
    exact ⟨fun _ ended => absurd ended (by simp [unended]), fun _ => rfl, earlier.crashed⟩
  | cancelled _ =>
    cases found
    exact ⟨fun _ _ => rfl, fun _ => rfl, by simp⟩
  | started =>
    cases found
    exact ⟨by simp, by simp, by simp⟩
  | delivered =>
    cases found
    exact ⟨by simp [LoadStage.isEnded], by simp, by simp⟩
  | finished =>
    cases found
    exact isSound_finished _ _

theorem isSound_run {operations : List Operation}
    (sound : ∀ task, registry.loads[number]? = some task → task.IsSound) :
    ∀ task, (run operations registry).loads[number]? = some task → task.IsSound := by
  induction operations generalizing registry with
  | nil => exact sound
  | cons operation rest ih => exact ih ((loadChange_after number operation registry).isSound sound)

/-!
## Paths that cannot be names
-/

end Registry

/-- The read of a load found a path that cannot be a name. -/
def LoadStage.IsUnnameable (reason : NameFault) : LoadStage → Prop
  | read _ outcome => outcome = .error (.unnameable reason)
  | crashed fault => fault = .unnameable reason
  | _ => False

namespace Registry

variable {registry : Registry} {number : Nat} {operation : Operation} {reason : NameFault}

theorem LoadChange.isUnnameable {before : Option LoadTask} {task : LoadTask}
    (changed : LoadChange registry number operation before (some task))
    (unnameable : task.stage.IsUnnameable reason) :
    (∃ earlier, before = some earlier ∧ earlier.stage.IsUnnameable reason) ∨
      operation = .deliver number (.error (.unnameable reason)) := by
  cases changed with
  | same => exact .inl ⟨task, rfl, unnameable⟩
  | scheduled _ => exact unnameable.elim
  | asked _ => exact .inl ⟨_, rfl, unnameable⟩
  | cancelled _ => exact unnameable.elim
  | started => exact unnameable.elim
  | @delivered location stopRequested outcome =>
    obtain rfl : outcome = .error (.unnameable reason) := unnameable
    exact .inr rfl
  | @finished location outcome =>
    refine .inl ⟨_, rfl, ?_⟩
    change (lastStage registry.window outcome).IsUnnameable reason at unnameable
    cases outcome with
    | ok partition => exact unnameable.elim
    | error error =>
      cases error with
      | unnameable fault =>
        cases unnameable
        rfl
      | malformed malformed =>
        rw [lastStage, lastResult] at unnameable
        split at unnameable
        · rename_i result
          split at result
          · cases result
          · cases result
            exact unnameable.elim
        · rename_i result
          split at result
          · cases result
            cases unnameable
          · cases result

theorem mem_of_isUnnameable {operations : List Operation} {task : LoadTask}
    (found : (run operations registry).loads[number]? = some task)
    (unnameable : task.stage.IsUnnameable reason) :
    (∃ earlier, registry.loads[number]? = some earlier ∧ earlier.stage.IsUnnameable reason) ∨
      Operation.deliver number (.error (.unnameable reason)) ∈ operations := by
  induction operations generalizing registry with
  | nil => exact .inl ⟨task, found, unnameable⟩
  | cons operation rest ih =>
    rcases ih found with ⟨later, present, laterUnnameable⟩ | member
    · have changed := loadChange_after number operation registry
      rw [present] at changed
      rcases changed.isUnnameable laterUnnameable with earlier | rfl
      · exact .inl earlier
      · exact .inr List.mem_cons_self
    · exact .inr (List.mem_cons_of_mem operation member)

/-!
## Every load ends
-/

theorem ended_or_reading {task : LoadTask} (found : registry.loads[number]? = some task) :
    ∃ later, (registry.stepLoad number).loads[number]? = some later ∧
      (later.stage.isEnded = true ∨ ∃ location, later.stage = .reading location) := by
  have arrived {start : Registry} {known : LoadTask} (stage : LoadStage)
      (present : start.loads[number]? = some known) :
      (start.arrive number stage).loads[number]? = some { known with stage } := by
    rw [arrive, getElem?_modifyLoad, present, Option.map_some, if_pos rfl]
  have step := loadStep_stepLoad number registry
  generalize registry.stepLoad number = stepped at step
  cases step with
  | absent none =>
    rw [none] at found
    cases found
  | ended present ended => exact ⟨_, present, .inl ended⟩
  | cancelled present _ _ => exact ⟨_, arrived _ present, .inl rfl⟩
  | started present => exact ⟨_, arrived _ present, .inr ⟨_, rfl⟩⟩
  | waiting present => exact ⟨_, present, .inr ⟨_, rfl⟩⟩
  | @finished location outcome present =>
    have kept : (registry.finished location outcome).loads[number]? =
        some ⟨.read location outcome, false⟩ := by
      rw [loads_eq_of_track_eq (track_finished location outcome registry)]
      exact present
    exact ⟨_, arrived _ kept, .inl (isEnded_lastStage _ _)⟩

theorem ended_or_read {task : LoadTask} (found : registry.loads[number]? = some task)
    (waits : task.stage.isEnded = true ∨ ∃ location, task.stage = .reading location)
    (fetched : Except Database.FetchError Partition) :
    ∃ later, (Registry.deliver number fetched registry).loads[number]? = some later ∧
      (later.stage.isEnded = true ∨ ∃ location, later.stage = .read location fetched) := by
  rw [deliver, getElem?_modifyLoad, found, Option.map_some, if_pos rfl]
  obtain ⟨stage, stopRequested⟩ := task
  rcases waits with ended | ⟨location, rfl⟩
  · refine ⟨_, rfl, .inl ?_⟩
    cases stage with
    | reading location => cases ended
    | _ => exact ended
  · exact ⟨_, rfl, .inr ⟨location, rfl⟩⟩

theorem ended_of_read {task : LoadTask} (found : registry.loads[number]? = some task)
    {fetched : Except Database.FetchError Partition}
    (ready : task.stage.isEnded = true ∨ ∃ location, task.stage = .read location fetched) :
    ∃ last, (registry.stepLoad number).loads[number]? = some last ∧
      last.stage.isEnded = true := by
  obtain ⟨last, present, ended | ⟨location, reading⟩⟩ := ended_or_reading found
  · exact ⟨last, present, ended⟩
  · -- A load that is ready does not begin to wait again.
    have changed := loadChange_stepLoad number number registry
    rw [found, present] at changed
    obtain ⟨stage, stopRequested⟩ := task
    rcases ready with ended | ⟨other, rfl⟩
    · cases changed with
      | same => exact ⟨_, present, ended⟩
      | asked unended => exact absurd ended (by simp [unended])
      | cancelled _ => cases reading
      | started => cases ended
      | finished => exact ⟨_, present, isEnded_lastStage _ _⟩
    · cases changed with
      | same => cases reading
      | asked _ => cases reading
      | cancelled _ => cases reading
      | finished => exact ⟨_, present, isEnded_lastStage _ _⟩

theorem ended_after_turns {task : LoadTask} (found : registry.loads[number]? = some task)
    (fetched : Except Database.FetchError Partition) :
    ∃ last, (run [.step number, .deliver number fetched, .step number] registry).loads[number]? =
        some last ∧ last.stage.isEnded = true := by
  obtain ⟨waiting, waitingFound, waits⟩ := ended_or_reading found
  obtain ⟨ready, readyFound, isReady⟩ := ended_or_read waitingFound waits fetched
  exact ended_of_read readyFound isReady

/-!
## All runs
-/

/-- Through a whole run only the current load is alive exactly if no shutdown forgets one. And every
load of the run is accounted for: one that was asked to stop has done nothing, one that ended has
installed the database or reported an error, unless its path cannot be a name, and every one comes
to an end as soon as it gets its file and its turns. -/
theorem background_loads {initial : Settings} {window : Option Window} {start : Registry}
    (initialProper : initial.IsProper) (created : createChecked initial window = .ok start)
    (operations : List Operation) (proper : ∀ operation ∈ operations, operation.IsProper) :
    ((∀ first second, operations = first ++ second → Exclusive (run first start)) ↔
        Remembers operations start) ∧
      ∀ number task, (run operations start).loads[number]? = some task →
        Accounted number task.stage.ending (turns number operations start) ∧
          (task.stopRequested = true → task.stage.ending = .silent) ∧
          (task.stopRequested = false → task.stage.isEnded = true →
            task.stage.ending ≠ .silent ∨
              ∃ reason, task.stage = .crashed (.unnameable reason) ∧
                .deliver number (.error (.unnameable reason)) ∈ operations) ∧
          ∀ fetched, ∃ last,
            (run [.step number, .deliver number fetched, .step number]
              (run operations start)).loads[number]? = some last ∧
            last.stage.isEnded = true := by
  obtain rfl := eq_create_of_createChecked created
  have settled := settled_create initialProper window
  have empty : (create initial window).loads = [] := congrArg Prod.fst (track_create initial window)
  have absent : ∀ number : Nat, (create initial window).loads[number]? = none := by simp [empty]
  have exclusive : Exclusive (create initial window) := by
    intro number task found
    rw [absent] at found
    cases found
  refine ⟨exclusive.run_iff, ?_⟩
  intro number task found
  have silent : endingOf (create initial window).loads[number]? = .silent := by
    rw [absent]
    rfl
  have accounted := accounted_run settled proper silent
  rw [found] at accounted
  have sound : task.IsSound := by
    refine isSound_run ?_ task found
    intro known present
    rw [absent] at present
    cases present
  refine ⟨accounted, sound.ending_of_stopRequested, ?_, ended_after_turns found⟩
  intro unstopped ended
  by_cases silent : task.stage.ending = .silent
  · obtain ⟨reason, crashed⟩ := sound.eq_crashed unstopped ended silent
    have unnameable : task.stage.IsUnnameable reason := by
      rw [crashed]
      rfl
    rcases mem_of_isUnnameable found unnameable with ⟨earlier, present, _⟩ | member
    · rw [absent] at present
      cases present
    · exact .inr ⟨reason, crashed, member⟩
  · exact .inl silent

def missingRun : List Operation :=
  [.startup, .step 0, .deliver 0 (.error (.malformed
    ⟨.unreadable (FileTree.Cause.notFound.error (.ofText "db.json")), "db.json"⟩)), .step 0]

theorem background_load_of_missing_file :
    (∀ first second, missingRun = first ++ second →
        Exclusive (run first (create .standard none))) ∧
      (run missingRun (create .standard none)).loads[0]? = some ⟨.reported, false⟩ ∧
      Accounted 0 .reported (turns 0 missingRun (create .standard none)) := by
  have created : createChecked .standard none = .ok (create .standard none) := rfl
  have proper : ∀ operation ∈ missingRun, operation.IsProper := by
    intro operation member
    simp only [missingRun, List.mem_cons, List.not_mem_nil, or_false] at member
    rcases member with rfl | rfl | rfl | rfl
    · trivial
    · trivial
    · trivial
    · trivial
  obtain ⟨exclusive, accounted⟩ :=
    background_loads Settings.isProper_standard created missingRun proper
  have found : (run missingRun (create .standard none)).loads[0]? = some ⟨.reported, false⟩ := rfl
  exact ⟨exclusive.mpr ⟨id, id, id, id, trivial⟩, found, (accounted 0 _ found).1⟩

/-- A registry that is started again while a shutdown waits. -/
def forgetfulRun : List Operation :=
  [.startup, .step 0, .beginShutdown, .startup, .step 0, .endShutdown 0]

/-- A registry that loads a database from a file while nobody has files. -/
def loadedFrom (path : Path) : Registry :=
  let fetched := Database.fetch (FileTree.empty.reader Database.bundledBytes) (.file path)
  run [.startup, .step 0, .deliver 0 fetched, .step 0]
    (create { Settings.standard with database := .file path } none)

theorem loadedFrom_of_nameFault {path : Path} {reason : NameFault}
    (fault : path.nameFault? = some reason) :
    (loadedFrom path).loads = [⟨.crashed (.unnameable reason), false⟩] ∧
      (loadedFrom path).withoutLoads =
        (create { Settings.standard with database := .file path } none).withoutLoads := by
  have fetched : Database.fetch (FileTree.empty.reader Database.bundledBytes) (.file path) =
      .error (.unnameable reason) := by
    simp only [Database.fetch, FileTree.reader, FileTree.readPath, fault]
  rw [loadedFrom, fetched]
  have fresh := track_create { Settings.standard with database := .file path } none
  generalize create { Settings.standard with database := .file path } none = start at fresh
  obtain ⟨settings, store, listeners, known, calls, window, loads, current, closing, events⟩ := start
  simp only [track, Prod.mk.injEq] at fresh
  obtain ⟨rfl, rfl, rfl⟩ := fresh
  exact ⟨rfl, rfl⟩

/-- The shutdown forgets the new load, which goes on beside the next one. And a path that cannot be
a name lets a load end without a word. -/
theorem forgotten_and_silent_loads :
    ¬Exclusive (run forgetfulRun (create .standard none)) ∧
      (run (forgetfulRun ++ [.startup]) (create .standard none)).loads.map LoadTask.isLive =
        [false, true, true] ∧
      (loadedFrom (.ofText "a\x00b")).loads = [⟨.crashed (.unnameable .null), false⟩] ∧
      (loadedFrom (.ofText "a\x00b")).withoutLoads =
        (create { Settings.standard with database := .file (.ofText "a\x00b") } none).withoutLoads := by
  refine ⟨?_, rfl, loadedFrom_of_nameFault (by decide +kernel)⟩
  intro exclusive
  have known := exclusive 1 ⟨.scheduled, false⟩ rfl rfl
  have forgotten : (run forgetfulRun (create .standard none)).current = none := rfl
  rw [forgotten] at known
  cases known

end Registry

end SpecLexicon
