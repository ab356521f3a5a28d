import SpecLexicon.Proofs.Registry.Waiting

/-!
# The course of a wait

A wait looks for its source at once and then after every sleep, and it sleeps only after a look in
vain. The first look that finds the source ends it, and so does the look for which no attempt is
left: a wait of so many attempts makes one look more than it has attempts. It leaves no trace but its
sleeps.
-/

set_option autoImplicit false

namespace SpecLexicon.Registry

/-- What a wait does by turns. -/
inductive Turn where
  | look (found : Option Partition)
  | sleep (interval : Delay)

namespace Turn

def isLook : Turn → Bool
  | look _ => true
  | sleep _ => false

def isSleep : Turn → Bool
  | look _ => false
  | sleep _ => true

end Turn

/-- The looks and sleeps of a wait, with what it finds and the registry that it leaves. -/
def course (uri : String) (interval : Delay) (during : Nat → Registry → Registry) :
    Nat → Nat → Registry → List Turn × Option Partition × Registry
  | 0, _, registry =>
    ([.look (registry.store.get? uri)], registry.store.get? uri, registry)
  | attempts + 1, slept, registry =>
    match registry.store.get? uri with
    | some partition => ([.look (some partition)], some partition, registry)
    | none =>
      let (turns, ended) := course uri interval during attempts (slept + 1)
        (during slept (registry.emit (.slept interval)))
      (.look none :: .sleep interval :: turns, ended)

/-- A number of sleeps, each of them after a look in vain, and then the last look. -/
def turnsOf (interval : Delay) (sleeps : Nat) (found : Option Partition) : List Turn :=
  (List.replicate sleeps [.look none, .sleep interval]).flatten ++ [.look found]

/-- A wait ends at the first of its looks that finds the source, else at the last one. -/
inductive EndsAt (uri : String) (states : Nat → Registry) (attempts : Nat) :
    Nat → Option Partition → Prop where
  | found {number : Nat} {partition : Partition} (inTime : number ≤ attempts)
      (first : FirstFound uri states number partition) :
      EndsAt uri states attempts number (some partition)
  | exhausted (missing : ∀ number ≤ attempts, (states number).store.get? uri = none) :
      EndsAt uri states attempts attempts none

section Turns

variable (interval : Delay) (sleeps : Nat) (found : Option Partition)

theorem turnsOf_succ : turnsOf interval (sleeps + 1) found =
    .look none :: .sleep interval :: turnsOf interval sleeps found := rfl

theorem countP_isLook_turnsOf : (turnsOf interval sleeps found).countP Turn.isLook = sleeps + 1 := by
  induction sleeps with
  | zero => rfl
  | succ sleeps ih =>
    rw [turnsOf_succ, List.countP_cons_of_pos rfl, List.countP_cons_of_neg Bool.false_ne_true, ih]

theorem countP_isSleep_turnsOf : (turnsOf interval sleeps found).countP Turn.isSleep = sleeps := by
  induction sleeps with
  | zero => rfl
  | succ sleeps ih =>
    rw [turnsOf_succ, List.countP_cons_of_neg Bool.false_ne_true, List.countP_cons_of_pos rfl, ih]

end Turns

theorem missing_of_le {uri : String} {states : Nat → Registry} {last : Nat}
    (missed : ∀ earlier < last, (states earlier).store.get? uri = none)
    (looked : (states last).store.get? uri = none) {number : Nat} (within : number ≤ last) :
    (states number).store.get? uri = none := by
  rcases Nat.lt_or_eq_of_le within with earlier | rfl
  · exact missed number earlier
  · exact looked

section Course

variable {uri : String} {interval : Delay} {during : Nat → Registry → Registry}
  {registry : Registry}

/-- The course of a wait is the wait itself, with its turns kept. -/
theorem snd_course (attempts slept : Nat) :
    (course uri interval during attempts slept registry).2 =
      poll uri interval during attempts slept registry := by
  induction attempts generalizing slept registry with
  | zero => rfl
  | succ attempts ih =>
    rw [course, poll]
    cases registry.store.get? uri with
    | some partition => rfl
    | none => exact ih (slept + 1)

theorem course_of_found {partition : Partition} (present : registry.store.get? uri = some partition)
    (attempts slept : Nat) :
    course uri interval during attempts slept registry =
      (turnsOf interval 0 (some partition), some partition, registry) := by
  cases attempts with
  | zero =>
    rw [course, present]
    rfl
  | succ attempts =>
    rw [course, present]
    rfl

theorem course_of_missing (absent : registry.store.get? uri = none) (attempts slept : Nat) :
    course uri interval during (attempts + 1) slept registry =
      let (turns, ended) := course uri interval during attempts (slept + 1)
        (during slept (registry.emit (.slept interval)))
      (.look none :: .sleep interval :: turns, ended) := by
  rw [course, absent]

/-- A wait that has looked in vain so far goes on to the first look that finds the source, or to its
last one. -/
theorem exists_endsAt_course (attempts slept : Nat)
    (missed : ∀ earlier < slept,
      (afterSleeps interval during registry earlier).store.get? uri = none) :
    ∃ sleeps found,
      EndsAt uri (afterSleeps interval during registry) (slept + attempts) (slept + sleeps) found ∧
        course uri interval during attempts slept (afterSleeps interval during registry slept) =
          (turnsOf interval sleeps found, found,
            afterSleeps interval during registry (slept + sleeps)) := by
  -- The attempts that are left go down by one with every sleep, so their sum stays the same.
  induction attempts generalizing slept with
  | zero =>
    cases looked : (afterSleeps interval during registry slept).store.get? uri with
    | some partition =>
      exact ⟨0, some partition, .found (Nat.le_refl _) ⟨looked, missed⟩, course_of_found looked _ _⟩
    | none =>
      refine ⟨0, none, .exhausted fun _ => missing_of_le missed looked, ?_⟩
      rw [course, looked]
      rfl
  | succ attempts ih =>
    cases looked : (afterSleeps interval during registry slept).store.get? uri with
    | some partition =>
      exact ⟨0, some partition, .found (Nat.le_add_right _ _) ⟨looked, missed⟩,
        course_of_found looked _ _⟩
    | none =>
      obtain ⟨sleeps, found, ends, later⟩ := ih (slept + 1) fun _ within =>
        missing_of_le missed looked (Nat.le_of_lt_succ within)
      rw [afterSleeps] at later
      have shifted (count : Nat) : slept + 1 + count = slept + (count + 1) := by omega
      rw [shifted] at later
      rw [shifted, shifted] at ends
      refine ⟨sleeps + 1, found, ends, ?_⟩
      rw [course_of_missing looked, later]
      rfl

/-- From the start on a wait goes to the first look that finds the source, or to its last one. -/
theorem exists_endsAt (attempts : Nat) :
    ∃ sleeps found,
      EndsAt uri (afterSleeps interval during registry) attempts sleeps found ∧
        course uri interval during attempts 0 registry =
          (turnsOf interval sleeps found, found, afterSleeps interval during registry sleeps) := by
  have missed : ∀ earlier < 0,
      (afterSleeps interval during registry earlier).store.get? uri = none :=
    fun _ earlier => absurd earlier (Nat.not_lt_zero _)
  have whole := exists_endsAt_course attempts 0 missed
  simpa only [Nat.zero_add, afterSleeps] using whole

end Course

/-!
## What a wait leaves
-/

/-- What other operations do to the store while a wait sleeps. -/
def changing (changes : Nat → Store → Store) (slept : Nat) (registry : Registry) : Registry :=
  { registry with store := changes slept registry.store }

/-- The store after so many sleeps, with what other operations did to it in each of them. -/
def changedStore (changes : Nat → Store → Store) (store : Store) : Nat → Store
  | 0 => store
  | slept + 1 => changes slept (changedStore changes store slept)

theorem afterSleeps_changing (interval : Delay) (changes : Nat → Store → Store)
    (registry : Registry) (slept : Nat) :
    afterSleeps interval (changing changes) registry slept =
      { registry with
        store := changedStore changes registry.store slept
        events := registry.events ++ List.replicate slept (.slept interval) } := by
  induction slept with
  | zero => simp [afterSleeps, changedStore]
  | succ slept ih =>
    rw [afterSleeps, ih, changing, emit, List.replicate_succ', ← List.append_assoc]
    rfl

/-- A wait looks once more than it sleeps. It gives the partition that its first look to find one
finds, and a timeout after one look more than it has attempts if none does. What it leaves is the
work of others and the record of its sleeps. -/
theorem waitForPartition_polls (uri : String) (during : Nat → Registry → Registry)
    {registry : Registry} {attempts? : Option Count} (interval? : Option Delay) {attempts : Nat}
    (counted : (attempts?.getD registry.settings.attempts).toInt? = some (attempts : Int)) :
    let interval := interval?.getD registry.settings.interval
    let states := afterSleeps interval during registry
    ∃ sleeps found,
      EndsAt uri states attempts sleeps found ∧
        outcome (waitForPartition during uri attempts? interval?) registry =
          (match found with
            | some partition => .ok partition
            | none => .error (.timeout uri (attempts + 1)), states sleeps) ∧
        course uri interval during attempts 0 registry =
          (turnsOf interval sleeps found, found, states sleeps) ∧
        (turnsOf interval sleeps found).countP Turn.isLook = sleeps + 1 ∧
        (turnsOf interval sleeps found).countP Turn.isSleep = sleeps ∧
        ∀ changes, during = changing changes →
          states sleeps = { registry with
            store := changedStore changes registry.store sleeps
            events := registry.events ++ List.replicate sleeps (.slept interval) } := by
  intro interval states
  obtain ⟨sleeps, found, ends, whole⟩ := exists_endsAt attempts
  refine ⟨sleeps, found, ends, ?outcome, whole, countP_isLook_turnsOf _ _ _,
    countP_isSleep_turnsOf _ _ _, ?left⟩
  case outcome =>
    have polled : poll uri interval during attempts 0 registry = (found, states sleeps) := by
      rw [← snd_course, whole]
    rw [outcome_wait counted rfl, if_neg (Int.not_lt.mpr (Int.natCast_nonneg attempts)),
      Int.toNat_natCast, polled]
    cases found with
    | some partition => rfl
    | none => rfl
  case left =>
    rintro changes rfl
    exact afterSleeps_changing interval changes registry sleeps

/-- The built-in source comes in the second sleep, without symbols, and goes in the third. -/
def passingSource (slept : Nat) (store : Store) : Store :=
  if slept = 1 then store.install Source.builtIn .empty else store.remove Source.builtIn

theorem wait_of_passingSource :
    let registry := bare .standard none
    let result := outcome
      (waitForPartition (changing passingSource) Source.builtIn (some (.number 5)) none) registry
    ((some (Count.number 5)).getD registry.settings.attempts).toInt? = some ((5 : Nat) : Int) ∧
      result.1 = .ok .empty ∧
      result.2.events = registry.events ++ List.replicate 2 (.slept registry.settings.interval) := by
  intro registry result
  have counted :
      ((some (Count.number 5)).getD registry.settings.attempts).toInt? = some ((5 : Nat) : Int) := rfl
  obtain ⟨sleeps, found, ends, given, _, _, _, left⟩ :=
    waitForPartition_polls Source.builtIn (changing passingSource) none counted
  have looks (slept : Nat) : (afterSleeps registry.settings.interval (changing passingSource)
      registry slept).store.get? Source.builtIn =
        (changedStore passingSource initialStore slept).get? Source.builtIn := by
    rw [afterSleeps_changing]
    rfl
  have absent : ∀ slept < 2,
      (changedStore passingSource initialStore slept).get? Source.builtIn = none := by
    rintro (_ | _ | _) early
    · rfl
    · exact Store.get?_remove _ _ _
    · contradiction
  have present : (changedStore passingSource initialStore 2).get? Source.builtIn = some .empty :=
    Store.get?_install _ _ _ _
  have second : sleeps = 2 ∧ found = some .empty := by
    cases ends with
    | exhausted missing =>
      have missed := missing 2 (by decide)
      rw [Option.getD_none, looks, present] at missed
      cases missed
    | found inTime first =>
      have seen := first.found
      rw [Option.getD_none, looks] at seen
      rcases Nat.lt_trichotomy sleeps 2 with before | rfl | behind
      · rw [absent sleeps before] at seen
        cases seen
      · exact ⟨rfl, seen.symm.trans present⟩
      · have missed := first.missing 2 behind
        rw [Option.getD_none, looks, present] at missed
        cases missed
  obtain ⟨rfl, rfl⟩ := second
  refine ⟨counted, ?_, ?_⟩
  · exact congrArg Prod.fst given
  · rw [show result = _ from given]
    exact congrArg Registry.events (left passingSource rfl)

end SpecLexicon.Registry
