import SpecLexicon.Proofs.Settings.Proper
import SpecLexicon.Settings.Change

/-!
# Which fields a change affects

No section of a field lies below the section of another one. So the change between two
configurations affects exactly the fields in which they differ.
-/

set_option autoImplicit false

namespace SpecLexicon.Change

open Settings

theorem reaches_iff {field other : Field} {shown otherShown : String}
    (known : field.configSection? = some shown)
    (otherKnown : other.configSection? = some otherShown) :
    (otherShown == shown || (shown ++ ".").toList.isPrefixOf otherShown.toList) =
      decide (other = field) := by
  cases field <;> cases other <;> simp only [Field.configSection?, Option.some.injEq,
    reduceCtorEq] at known otherKnown <;> subst known <;> subst otherKnown <;> decide

theorem affectsField_between (left right : Settings) {field : Field}
    (listed : field.configSection?.isSome = true) :
    (between left right).affectsField field = field.differs left right := by
  obtain ⟨shown, known⟩ := Option.isSome_iff_exists.mp listed
  rw [affectsField, known, Option.any_some, Bool.eq_iff_iff, affects, List.any_eq_true]
  constructor
  · rintro ⟨changed, member, reached⟩
    obtain ⟨other, _, found⟩ := List.mem_filterMap.mp member
    by_cases different : other.differs left right = true
    · rw [if_pos different] at found
      rw [reaches_iff known found, decide_eq_true_eq] at reached
      exact reached ▸ different
    · rw [if_neg different] at found
      cases found
  · intro different
    refine ⟨shown, List.mem_filterMap.mpr ⟨field, ?_, ?_⟩, by simp⟩
    · cases field <;> decide
    · rw [if_pos different, known]

def affectsLines (change : Change) : Bool :=
  change.affectsField .motors || change.affectsField .counters || change.affectsField .templates

theorem eq_of_unaffected {left right : Settings} (leftProper : left.IsProper)
    (rightProper : right.IsProper) :
    ((between left right).affectsField .motors = false → left.motors = right.motors) ∧
      ((between left right).affectsField .counters = false → left.counters = right.counters) ∧
      ((between left right).affectsField .templates = false →
        left.templates = right.templates) := by
  refine ⟨?_, ?_, ?_⟩
  · rw [affectsField_between left right rfl, Field.differs, Bool.not_eq_false']
    exact leftProper.motors.eq_of_agrees rightProper.motors
  · rw [affectsField_between left right rfl, Field.differs, Bool.not_eq_false']
    exact leftProper.counters.eq_of_agrees rightProper.counters
  · rw [affectsField_between left right rfl, Field.differs, Bool.not_eq_false']
    exact leftProper.templates.eq_of_agrees rightProper.templates

end SpecLexicon.Change
