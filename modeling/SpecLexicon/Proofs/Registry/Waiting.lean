import SpecLexicon.Proofs.Registry.Operation
import SpecLexicon.Registry.Query

/-!
# Waiting for a source

A wait checks the store and sleeps by turns. Between two checks anything may happen to the registry.
A wait ends at the first check that finds the source, and with a timeout if none does. A negative
number of attempts leaves no check at all.
-/

set_option autoImplicit false

namespace SpecLexicon.Registry

/-- The registry after a number of sleeps. -/
def afterSleeps (interval : Delay) (during : Nat → Registry → Registry) (registry : Registry) :
    Nat → Registry
  | 0 => registry
  | slept + 1 => during slept ((afterSleeps interval during registry slept).emit (.slept interval))

/-- A source is there at one check and at no check before it. -/
structure FirstFound (uri : String) (states : Nat → Registry) (number : Nat)
    (partition : Partition) : Prop where
  found : (states number).store.get? uri = some partition
  missing : ∀ earlier < number, (states earlier).store.get? uri = none

/-- How many checks a wait makes at most. -/
def checks (attempts : Int) : Nat :=
  (attempts + 1).toNat

section Waiting

variable {uri : String} {interval : Delay} {during : Nat → Registry → Registry}
  {registry : Registry}

theorem poll_of_found {number : Nat} {partition : Partition}
    (first : FirstFound uri (afterSleeps interval during registry) number partition)
    {attempts slept : Nat} (early : slept ≤ number) (late : number ≤ slept + attempts) :
    poll uri interval during attempts slept (afterSleeps interval during registry slept) =
      (some partition, afterSleeps interval during registry number) := by
  induction attempts generalizing slept with
  | zero =>
    obtain rfl : slept = number := Nat.le_antisymm early late
    rw [poll, first.found]
  | succ attempts ih =>
    cases Nat.lt_or_eq_of_le early with
    | inl earlier =>
      rw [poll, first.missing slept earlier]
      exact ih earlier (by omega)
    | inr same =>
      subst same
      rw [poll, first.found]

theorem poll_of_missing {attempts slept : Nat}
    (missing : ∀ number ≤ slept + attempts,
      (afterSleeps interval during registry number).store.get? uri = none) :
    poll uri interval during attempts slept (afterSleeps interval during registry slept) =
      (none, afterSleeps interval during registry (slept + attempts)) := by
  induction attempts generalizing slept with
  | zero => rw [poll, missing slept (Nat.le_refl _), Nat.add_zero]
  | succ attempts ih =>
    have shifted : slept + (attempts + 1) = slept + 1 + attempts := by omega
    rw [shifted] at missing ⊢
    rw [poll, missing slept (by omega)]
    exact ih missing

theorem outcome_wait_of_uncounted {attempts? : Option Count} {interval? : Option Delay}
    (uncounted : (attempts?.getD registry.settings.attempts).toInt? = none) :
    outcome (waitForPartition during uri attempts? interval?) registry =
      (.error (.notNumber (attempts?.getD registry.settings.attempts).toJson.kindName),
        registry) := by
  rw [waitForPartition, outcome_get_bind]
  dsimp only
  rw [uncounted]
  rfl

/-- What a wait gives where its check finds a source or finds none. -/
def waited (uri : String) (count : Int) :
    Option Partition × Registry → Except Fault Partition × Registry
  | (some partition, changed) => (.ok partition, changed)
  | (none, changed) => (.error (.timeout uri (count + 1)), changed)

variable {attempts? : Option Count} {interval? : Option Delay} {count : Int}
  (counted : (attempts?.getD registry.settings.attempts).toInt? = some count)
  (paused : interval?.getD registry.settings.interval = interval)

include counted paused

theorem outcome_wait :
    outcome (waitForPartition during uri attempts? interval?) registry =
      if count < 0 then (.error (.timeout uri (count + 1)), registry)
      else waited uri count (poll uri interval during count.toNat 0 registry) := by
  rw [waitForPartition, outcome_get_bind]
  dsimp only
  rw [counted, paused]
  dsimp only
  by_cases negative : count < 0
  · rw [if_pos negative, if_pos negative, outcome_throw]
  · rw [if_neg negative, if_neg negative]
    cases poll uri interval during count.toNat 0 registry with
    | mk found changed =>
      cases found with
      | none => rfl
      | some partition => rfl

theorem outcome_wait_of_found {number : Nat} {partition : Partition}
    (first : FirstFound uri (afterSleeps interval during registry) number partition)
    (inTime : number < checks count) :
    outcome (waitForPartition during uri attempts? interval?) registry =
      (.ok partition, afterSleeps interval during registry number) := by
  unfold checks at inTime
  have polled := poll_of_found first (Nat.zero_le number)
    (show number ≤ 0 + count.toNat by omega)
  rw [afterSleeps] at polled
  rw [outcome_wait counted paused, if_neg (by omega), polled]
  rfl

theorem outcome_wait_of_missing
    (missing : ∀ number < checks count,
      (afterSleeps interval during registry number).store.get? uri = none) :
    outcome (waitForPartition during uri attempts? interval?) registry =
      (.error (.timeout uri (count + 1)), afterSleeps interval during registry count.toNat) := by
  unfold checks at missing
  rw [outcome_wait counted paused]
  by_cases negative : count < 0
  · rw [if_pos negative, Int.toNat_of_nonpos (Int.le_of_lt negative), afterSleeps]
  · have absent : ∀ number ≤ 0 + count.toNat,
        (afterSleeps interval during registry number).store.get? uri = none :=
      fun number within => missing number (by omega)
    have polled := poll_of_missing absent
    rw [Nat.zero_add, afterSleeps] at polled
    rw [if_neg negative, polled]
    rfl

end Waiting

end SpecLexicon.Registry
