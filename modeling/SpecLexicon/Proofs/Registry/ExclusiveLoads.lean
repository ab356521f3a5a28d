import SpecLexicon.Proofs.Registry.LoadTracking

/-!
# Loads do not race

At most one load is alive, that is, neither ended nor asked to stop, and the registry knows it. The
one thing that breaks this is the end of a shutdown: it forgets the current load, also where that
was scheduled while the shutdown waited for the one before it.
-/

set_option autoImplicit false

namespace SpecLexicon

def LoadTask.isLive (task : LoadTask) : Bool :=
  !task.stage.isEnded && !task.stopRequested

namespace Registry

variable {registry : Registry}

def Exclusive (registry : Registry) : Prop :=
  ∀ number task, registry.loads[number]? = some task → task.isLive = true →
    registry.current = some number

theorem Exclusive.congr {other : Registry} (exclusive : Exclusive registry)
    (same : other.track = registry.track) : Exclusive other := by
  intro number task found live
  rw [loads_eq_of_track_eq same] at found
  rw [current_eq_of_track_eq same]
  exact exclusive number task found live

theorem LoadChange.isLive {number : Nat} {operation : Operation} {before : Option LoadTask}
    {task : LoadTask} (changed : LoadChange registry number operation before (some task))
    (live : task.isLive = true) :
    (∃ earlier, before = some earlier ∧ earlier.isLive = true) ∨ ¬operation.IsLoadWork := by
  cases changed with
  | same => exact .inl ⟨task, rfl, live⟩
  | scheduled other => exact .inr other
  | asked _ => simp [LoadTask.isLive] at live
  | cancelled _ => simp [LoadTask.isLive] at live
  | started => exact .inl ⟨_, rfl, rfl⟩
  | delivered => exact .inl ⟨_, rfl, live⟩
  | finished => simp [LoadTask.isLive, isEnded_lastStage] at live

theorem Exclusive.after_of_current_eq {operation : Operation} (exclusive : Exclusive registry)
    (work : operation.IsLoadWork)
    (same : (operation.after registry).current = registry.current) :
    Exclusive (operation.after registry) := by
  intro number task found live
  have changed := loadChange_after number operation registry
  rw [found] at changed
  rcases changed.isLive live with ⟨earlier, known, alive⟩ | other
  · rw [same]
    exact exclusive number earlier known alive
  · exact absurd work other

theorem Exclusive.scheduleLoad (exclusive : Exclusive registry) :
    Exclusive registry.scheduleLoad := by
  intro number task found live
  have current : registry.scheduleLoad.current = some registry.loads.length := by
    rw [Registry.scheduleLoad]
    cases registry.current with
    | none => rfl
    | some stopped => exact congrArg some (List.length_modify _ _ _)
  rw [getElem?_scheduleLoad] at found
  by_cases new : number = registry.loads.length
  · rw [current, new]
  · rw [if_neg new] at found
    obtain ⟨earlier, known, rfl⟩ := Option.map_eq_some_iff.mp found
    -- Only the current load was alive, and that one was asked to stop.
    by_cases stopped : registry.current = some number
    · rw [if_pos stopped, asked] at live
      split at live
      case isTrue ended => simp [LoadTask.isLive, ended] at live
      case isFalse => simp [LoadTask.isLive] at live
    · rw [if_neg stopped] at live
      exact absurd (exclusive number earlier known live) stopped

theorem current_stepLoad (number : Nat) (registry : Registry) :
    (registry.stepLoad number).current = registry.current := by
  have step := loadStep_stepLoad number registry
  generalize registry.stepLoad number = stepped at step
  cases step with
  | absent _ => rfl
  | ended _ _ => rfl
  | cancelled _ _ _ => rfl
  | started _ => rfl
  | waiting _ => rfl
  | finished _ =>
    have kept := current_eq_of_track_eq (track_finished ‹_› ‹_› registry)
    exact kept

theorem Exclusive.beginShutdown (exclusive : Exclusive registry) :
    Exclusive (Operation.beginShutdown.after registry) := by
  have work : Operation.beginShutdown.IsLoadWork := trivial
  cases current : registry.current with
  | none =>
    apply exclusive.after_of_current_eq work
    change registry.beginShutdown.current = _
    simp only [Registry.beginShutdown, current]
  | some number =>
    have forgets (ended : ∀ task, registry.loads[number]? = some task → task.isLive = false) :
        Exclusive { registry with current := none } := by
      intro other task found live
      have known := exclusive other task found live
      rw [current, Option.some.injEq] at known
      subst known
      rw [ended task found] at live
      cases live
    cases found : registry.loads[number]? with
    | none =>
      have after : Operation.beginShutdown.after registry = { registry with current := none } := by
        change registry.beginShutdown = _
        simp only [Registry.beginShutdown, current, found]
      rw [after]
      apply forgets
      intro task present
      rw [found] at present
      cases present
    | some task =>
      by_cases ended : task.stage.isEnded = true
      · have after : Operation.beginShutdown.after registry =
            { registry with current := none } := by
          change registry.beginShutdown = _
          simp only [Registry.beginShutdown, current, found, if_pos ended]
        rw [after]
        apply forgets
        intro other present
        rw [found, Option.some.injEq] at present
        subst present
        simp [LoadTask.isLive, ended]
      · apply exclusive.after_of_current_eq work
        change registry.beginShutdown.current = _
        simp only [Registry.beginShutdown, current, found, if_neg ended]
        exact current

/-- The end of a shutdown that forgets a load which is alive. -/
def Operation.Forgets (registry : Registry) : Operation → Prop
  | endShutdown number =>
    (number ∈ registry.closing ∧
      ∃ task, registry.loads[number]? = some task ∧ task.stage.isEnded = true) ∧
      ∃ current task, registry.current = some current ∧
        registry.loads[current]? = some task ∧ task.isLive = true
  | _ => False

theorem Exclusive.endShutdown_iff (exclusive : Exclusive registry) (number : Nat) :
    Exclusive (registry.endShutdown number) ↔
      ¬(Operation.endShutdown number).Forgets registry := by
  by_cases awaited : number ∈ registry.closing ∧
      ∃ task, registry.loads[number]? = some task ∧ task.stage.isEnded = true
  · obtain ⟨member, task, found, ended⟩ := awaited
    have after : registry.endShutdown number =
        { registry with closing := registry.closing.erase number, current := none } := by
      simp [endShutdown, found, ended, member]
    rw [after]
    constructor
    · rintro forgotten ⟨_, current, other, _, present, live⟩
      have known := forgotten current other present live
      cases known
    · intro remembered other present live alive
      exact absurd ⟨⟨member, task, found, ended⟩, other, present,
        exclusive other present live alive, live, alive⟩ remembered
  · have after : registry.endShutdown number = registry := by
      rw [endShutdown]
      split
      · rfl
      · split
        case h_2.isTrue task found both =>
          rw [Bool.and_eq_true, List.contains_iff_mem] at both
          exact absurd ⟨both.2, task, found, both.1⟩ awaited
        case h_2.isFalse => rfl
    rw [after]
    exact ⟨fun _ forgotten => awaited forgotten.1, fun _ => exclusive⟩

theorem Exclusive.after_iff (exclusive : Exclusive registry) (operation : Operation) :
    Exclusive (operation.after registry) ↔ ¬operation.Forgets registry := by
  by_cases work : operation.IsLoadWork
  · cases operation with
    | step number =>
      exact ⟨fun _ => id, fun _ =>
        exclusive.after_of_current_eq trivial (current_stepLoad number registry)⟩
    | deliver number outcome =>
      exact ⟨fun _ => id, fun _ => exclusive.after_of_current_eq trivial rfl⟩
    | beginShutdown => exact ⟨fun _ => id, fun _ => exclusive.beginShutdown⟩
    | endShutdown number => exact exclusive.endShutdown_iff number
    | _ => exact work.elim
  · have remembers : ¬operation.Forgets registry := by
      cases operation with
      | endShutdown number => exact absurd trivial work
      | _ => exact id
    refine ⟨fun _ => remembers, fun _ => ?_⟩
    rcases track_after work registry with kept | scheduled
    · exact exclusive.congr kept
    · exact exclusive.scheduleLoad.congr scheduled

def Remembers : List Operation → Registry → Prop
  | [], _ => True
  | operation :: rest, registry =>
    ¬operation.Forgets registry ∧ Remembers rest (operation.after registry)

theorem Exclusive.run_iff {operations : List Operation} (exclusive : Exclusive registry) :
    (∀ first second, operations = first ++ second → Exclusive (run first registry)) ↔
      Remembers operations registry := by
  induction operations generalizing registry with
  | nil =>
    refine ⟨fun _ => trivial, ?_⟩
    intro _ first second split
    obtain ⟨rfl, rfl⟩ := List.append_eq_nil_iff.mp split.symm
    exact exclusive
  | cons operation rest ih =>
    constructor
    · intro throughout
      have next : Exclusive (operation.after registry) := throughout [operation] rest rfl
      refine ⟨(exclusive.after_iff operation).mp next, (ih next).mp ?_⟩
      intro first second split
      exact throughout (operation :: first) second (by rw [split, List.cons_append])
    · rintro ⟨remembered, later⟩ first second split
      have next := (exclusive.after_iff operation).mpr remembered
      cases first with
      | nil => exact exclusive
      | cons head tail =>
        rw [List.cons_append, List.cons.injEq] at split
        obtain ⟨rfl, split⟩ := split
        exact (ih next).mpr later tail second split

end Registry

end SpecLexicon
