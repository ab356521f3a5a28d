import SpecLexicon.Proofs.Registry.Routing

/-!
# How often the snippets are compiled

New settings have the snippets compiled and announced once, whatever differs, except that motors and
counters that both differ each have them compiled. The compilation behind the motors still has the
counters of before.
-/

set_option autoImplicit false

namespace SpecLexicon

namespace Registry

variable {settings adopted : Settings} {symbols : String → ItemMap} {registry : Registry}

theorem count_affectedSources {change : Change} {templates : Lines}
    (fit : change.affectsLines = true → templateFault? templates = none) :
    (affectedSources change templates).count Source.snippet =
      if change.affectsField .motors && change.affectsField .counters then 2
      else if change.affectsLines then 1 else 0 := by
  rw [affectedSources_of_fit fit, Change.affectsLines]
  generalize change.affectsField .motors = motors
  generalize change.affectsField .counters = counters
  generalize change.affectsField .templates = alone
  revert motors counters alone
  decide

theorem count_affectedSources_of_unfit {change : Change} {templates : Lines} {fault : Fault}
    (unfit : templateFault? templates = some fault) :
    (affectedSources change templates).count Source.snippet = 0 := by
  have different : Source.motor ≠ Source.snippet ∧ Source.counter ≠ Source.snippet := by decide
  cases motors : change.affectsField .motors <;> cases counters : change.affectsField .counters <;>
    simp [affectedSources, refreshed, unfit, motors, counters, different]

/-- How often the snippets are compiled when some settings are replaced by others. -/
structure Compilations (settings adopted : Settings) (count : Nat) : Prop where
  twice : settings.motors ≠ adopted.motors → settings.counters ≠ adopted.counters → count = 2
  once : settings.motors = adopted.motors ∨ settings.counters = adopted.counters →
    (settings.motors ≠ adopted.motors ∨ settings.counters ≠ adopted.counters ∨
      settings.templates ≠ adopted.templates) → count = 1
  never : settings.motors = adopted.motors → settings.counters = adopted.counters →
    settings.templates = adopted.templates → count = 0

theorem compilations_between (proper : settings.IsProper) (adoptedProper : adopted.IsProper) :
    Compilations settings adopted
      (if (Change.between settings adopted).affectsField .motors &&
          (Change.between settings adopted).affectsField .counters then 2
        else if (Change.between settings adopted).affectsLines then 1 else 0) := by
  have motors := Change.affectsField_motors_iff proper adoptedProper
  have counters := Change.affectsField_counters_iff proper adoptedProper
  have lines := Change.affectsLines_iff proper adoptedProper
  constructor
  · intro motorsDiffer countersDiffer
    simp [motors, counters, motorsDiffer, countersDiffer]
  · intro same differ
    have both : ¬(settings.motors ≠ adopted.motors ∧ settings.counters ≠ adopted.counters) := by
      rintro ⟨motorsDiffer, countersDiffer⟩
      exact same.elim motorsDiffer countersDiffer
    rw [if_neg (by rwa [Bool.and_eq_true, motors, counters]), if_pos (lines.mpr differ)]
  · intro sameMotors sameCounters sameTemplates
    have unaffected : ¬(Change.between settings adopted).affectsLines = true := by
      simp [lines, sameMotors, sameCounters, sameTemplates]
    rw [if_neg (by simp [motors, sameMotors]), if_neg unaffected]

theorem Settled.announces_apply (settled : Settled settings symbols registry) (inLoop : Bool)
    (proper : adopted.IsProper) :
    ∃ deeds count, Performed deeds registry ((Operation.apply inLoop adopted).after registry) ∧
      (sourcesOf deeds).count Source.snippet = count ∧ compilationsOf deeds = count ∧
      ((Operation.apply inLoop adopted).fault? registry = none →
        Compilations registry.settings adopted count) ∧
      ((Operation.apply inLoop adopted).fault? registry ≠ none → count = 0) := by
  obtain ⟨deeds, performed, sources, compiled⟩ :=
    settled.announces (show (Operation.apply inLoop adopted).IsProper from proper) rfl
  refine ⟨deeds, _, performed, rfl, sources ▸ compiled, ?_, ?_⟩
  · intro unfaulted
    have accepted := settled.accepted proper unfaulted
    rw [sources, sources_apply, if_neg (Bool.eq_false_iff.mp accepted.taken),
      count_affectedSources accepted.fit]
    exact compilations_between settled.settingsProper proper
  · intro refused
    rw [settled.fault?_apply inLoop proper, ← settled.same] at refused
    rw [sources, sources_apply]
    by_cases moves : refuses inLoop registry.settings adopted = true
    · rw [if_pos moves]
      rfl
    · rw [if_neg moves] at refused
      rw [if_neg moves]
      rw [adoptionFault?] at refused
      split at refused
      · obtain ⟨fault, unfit⟩ := Option.ne_none_iff_exists'.mp refused
        exact count_affectedSources_of_unfit unfit
      · exact absurd rfl refused

/-- What one reaction to new settings does about the snippets. It compiles and announces them twice
if motors and counters both differ, once if less than that differs, and never if no list does. It
does neither where the settings are refused or a template without a symbol stops the first
compilation. Listeners may ask for more; without such listeners these are all the events. -/
theorem Reachable.apply_compiles (reachable : Reachable registry) (inLoop : Bool)
    (proper : adopted.IsProper) :
    ∃ deeds count, Performed deeds registry ((Operation.apply inLoop adopted).after registry) ∧
      (sourcesOf deeds).count Source.snippet = count ∧ compilationsOf deeds = count ∧
      ((Operation.apply inLoop adopted).fault? registry = none →
        Compilations registry.settings adopted count) ∧
      ((Operation.apply inLoop adopted).fault? registry ≠ none → count = 0) ∧
      (registry.IsPassive → ∃ added,
        ((Operation.apply inLoop adopted).after registry).events = registry.events ++ added ∧
          added.countP (·.announces Source.snippet) = count ∧
          added.countP Event.isCompilation = count) := by
  obtain ⟨settings, symbols, settled⟩ := reachable.settled
  obtain ⟨deeds, count, performed, announced, compiled, accepted, refused⟩ :=
    settled.announces_apply inLoop proper
  refine ⟨deeds, count, performed, announced, compiled, accepted, refused, fun passive => ?_⟩
  obtain ⟨_, added, events, sources, compilations⟩ := performed.counts passive
  exact ⟨added, events, (sources Source.snippet).trans announced, compilations.trans compiled⟩

/-- Motors and templates that differ. -/
def renewedSettings : Settings :=
  { Settings.standard with motors := .texts [.text "th"], templates := .texts [.text "go x"] }

theorem apply_compiles_once : Reachable (create .standard none) ∧ renewedSettings.IsProper ∧
    ∃ added, ((Operation.apply false renewedSettings).after (create .standard none)).events =
        (create .standard none).events ++ added ∧
      added.countP (·.announces Source.snippet) = 1 ∧ added.countP Event.isCompilation = 1 := by
  have reachable : Reachable (create .standard none) := .create Settings.isProper_standard rfl
  have proper : renewedSettings.IsProper := ⟨⟨_, rfl⟩, ⟨_, rfl⟩, ⟨_, rfl⟩⟩
  have passive := (isHarmless_create .standard none).isPassive
  obtain ⟨_, count, _, _, _, accepted, _, counted⟩ := reachable.apply_compiles false proper
  obtain ⟨added, events, announced, compiled⟩ := counted passive
  have same := (settled_create Settings.isProper_standard none).same
  have once : count = 1 := by
    refine (accepted (by decide +kernel)).once (.inr ?_) (.inl ?_)
    · rw [same]
      rfl
    · rw [same]
      exact fun equal => by cases equal
  subst once
  exact ⟨reachable, proper, added, events, announced, compiled⟩

/-- Motors and counters that both differ have the snippets compiled and announced twice. -/
theorem paired_compiled_twice :
    ∃ added, ((Operation.apply false pairedSettings).after (create .standard none)).events =
        (create .standard none).events ++ added ∧
      added.countP (·.announces Source.snippet) = 2 ∧ added.countP Event.isCompilation = 2 := by
  have settled := settled_create Settings.isProper_standard none
  have proper : pairedSettings.IsProper := ⟨⟨_, rfl⟩, ⟨_, rfl⟩, ⟨_, rfl⟩⟩
  have passive := (isHarmless_create .standard none).isPassive
  obtain ⟨deeds, count, performed, announced, compiled, accepted, _⟩ :=
    settled.announces_apply false proper
  obtain ⟨_, added, events, sources, compilations⟩ := performed.counts passive
  have twice : count = 2 := by
    refine (accepted (by decide +kernel)).twice ?_ ?_
    · rw [settled.same]
      exact fun equal => by cases equal
    · rw [settled.same]
      exact fun equal => by cases equal
  subst twice
  exact ⟨added, events, (sources Source.snippet).trans announced, compilations.trans compiled⟩

end Registry

end SpecLexicon
