import SpecLexicon.Proofs.Registry.Derived
import SpecLexicon.Proofs.Registry.Loading
import SpecLexicon.Proofs.Settings.Change

/-!
# Rebuilding on request

What the rebuilds of a registry give and leave behind, one by one and as a change of the
configuration calls for them. A rebuild from proper lines is refused exactly where a template has no
symbol, and even then the snippets are those of the present templates, motors and counters.
-/

set_option autoImplicit false

namespace SpecLexicon.Registry

variable {symbols : String → ItemMap} {registry : Registry}

theorem snippetFault?_eq (holds : Holds symbols registry) :
    registry.snippetFault? = templateFault? registry.settings.templates := by
  obtain ⟨items, found⟩ := Option.isSome_iff_exists.mp holds.place
  rw [snippetFault?, found, Option.bind_some]

theorem mnemonicFault?_eq {uri : String} {lines : Lines} (holds : Holds symbols registry)
    (member : uri ∈ mnemonicSources) (proper : lines.IsProper) :
    mnemonicFault? uri lines registry = templateFault? registry.settings.templates := by
  obtain ⟨texts, rfl⟩ := proper
  rw [mnemonicFault?, holds.mnemonics uri member, Option.bind_some, Lines.flaw?_texts,
    Option.map_none, Option.none_or, snippetFault?_eq holds]

theorem updateMnemonics_spec {uri : String} {lines : Lines} (holds : Holds symbols registry)
    (settled : registry.settings.IsProper) (member : uri ∈ mnemonicSources)
    (proper : lines.IsProper) :
    (updateMnemonics uri lines registry).settings = registry.settings ∧
      Holds (fun other => if other = uri then Mnemonic.symbols lines else symbols other)
        (updateMnemonics uri lines registry) ∧
      SnippetsCurrent (updateMnemonics uri lines registry) := by
  obtain ⟨texts, rfl⟩ := proper
  have left : (updateMnemonics uri (.texts texts) registry).core =
      (registry.withMnemonics uri texts).withSnippets.core :=
    core_updateMnemonics (holds.isSome_map? member) texts
  have settings := settings_eq_of_core_eq left
  have store := store_eq_of_core_eq left
  have rebuilt := holds.withMnemonics uri texts
  refine ⟨settings, rebuilt.withSnippets.congr store, ?_⟩
  exact (rebuilt.snippetsCurrent settled.isRow).congr (by rw [settings]) store

theorem updateSnippets_spec (holds : Holds symbols registry)
    (settled : registry.settings.IsProper) :
    (updateSnippets registry).settings = registry.settings ∧
      Holds symbols (updateSnippets registry) ∧ SnippetsCurrent (updateSnippets registry) := by
  have left : (updateSnippets registry).core = registry.withSnippets.core :=
    core_updateSnippets registry
  have settings := settings_eq_of_core_eq left
  have store := store_eq_of_core_eq left
  refine ⟨settings, holds.withSnippets.congr store, ?_⟩
  exact (holds.snippetsCurrent settled.isRow).congr (by rw [settings]) store

/-!
## Rebuilding what a change affects
-/

/-- Rebuild motors or counters from the settings if they are affected. -/
def mnemonicsWhen (affected : Bool) (uri : String) : Action Unit := do
  if affected then
    requestMnemonics uri ((← getThe Registry).settings.linesOf uri)

theorem rebuildAffected_eq (change : Change) :
    rebuildAffected change = (do
      mnemonicsWhen (change.affectsField .motors) Source.motor
      mnemonicsWhen (change.affectsField .counters) Source.counter
      if change.affectsField .templates && !change.affectsField .motors &&
          !change.affectsField .counters then
        requestSnippets) := by
  unfold rebuildAffected
  generalize change.affectsField .motors = motorsChanged
  generalize change.affectsField .counters = countersChanged
  cases motorsChanged with
  | false =>
    cases countersChanged with
    | false => rfl
    | true => rfl
  | true =>
    cases countersChanged with
    | false => rfl
    | true => rfl

theorem outcome_mnemonicsWhen (affected : Bool) (uri : String) :
    outcome (mnemonicsWhen affected uri) registry =
      if affected then
        (resultOf (mnemonicFault? uri (registry.settings.linesOf uri) registry),
          updateMnemonics uri (registry.settings.linesOf uri) registry)
      else (.ok (), registry) := by
  cases affected with
  | false => rfl
  | true => exact outcome_attempt _ _ _

/-- What rebuilding leaves behind: either nothing was affected and nothing happened, or the snippets
are current. Motors and counters hold the expected symbols unless a template stopped the work. -/
structure Rebuilt (affected : Bool) (expected : String → ItemMap) (before : Registry)
    (after : Except Fault Unit × Registry) : Prop where
  settings : after.2.settings = before.settings
  holds : ∃ symbols, Holds symbols after.2
  complete : after.1 = .ok () → Holds expected after.2
  snippets : affected = true → SnippetsCurrent after.2
  result : after.1 =
    if affected then resultOf (templateFault? before.settings.templates) else .ok ()
  untouched : affected = false → after.2 = before

theorem rebuilt_mnemonicsWhen (holds : Holds symbols registry)
    (settled : registry.settings.IsProper) {uri : String} (member : uri ∈ mnemonicSources)
    (affected : Bool) :
    Rebuilt affected
      (fun other => if affected && other = uri then
        Mnemonic.symbols (registry.settings.linesOf uri) else symbols other)
      registry (outcome (mnemonicsWhen affected uri) registry) := by
  have proper := settled.linesOf uri
  rw [outcome_mnemonicsWhen]
  cases affected with
  | false =>
    exact ⟨rfl, ⟨symbols, holds⟩, fun _ => by simpa using holds, by simp, rfl, fun _ => rfl⟩
  | true =>
    obtain ⟨settings, updated, current⟩ := updateMnemonics_spec holds settled member proper
    refine ⟨settings, ⟨_, updated⟩, ?_, fun _ => current, ?_, by simp⟩
    · intro _
      simpa using updated
    · simp [mnemonicFault?_eq holds member proper]

theorem rebuilt_snippetsWhen (holds : Holds symbols registry)
    (settled : registry.settings.IsProper) (affected : Bool) :
    Rebuilt affected symbols registry
      (outcome (if affected then requestSnippets else pure ()) registry) := by
  cases affected with
  | false => exact ⟨rfl, ⟨symbols, holds⟩, fun _ => holds, by simp, rfl, fun _ => rfl⟩
  | true =>
    obtain ⟨settings, updated, current⟩ := updateSnippets_spec holds settled
    have requested : outcome (if true then requestSnippets else pure ()) registry =
        (resultOf registry.snippetFault?, updateSnippets registry) := outcome_attempt _ _ _
    rw [requested]
    refine ⟨settings, ⟨_, updated⟩, fun _ => updated, fun _ => current, ?_, by simp⟩
    simp [snippetFault?_eq holds]

theorem Rebuilt.bind {first second : Action Unit} {early late : Bool}
    {middle expected : String → ItemMap}
    (started : Rebuilt early middle registry (outcome first registry))
    (goes : ∀ changed, changed.settings = registry.settings → Holds middle changed →
      Rebuilt late expected changed (outcome second changed)) :
    Rebuilt (early || late) expected registry (outcome (first >>= fun _ => second) registry) := by
  rw [outcome_bind]
  obtain ⟨settings, holds, complete, snippets, result, untouched⟩ := started
  cases ran : outcome first registry with
  | mk given changed =>
    rw [ran] at settings holds complete snippets result untouched
    dsimp only at settings holds complete snippets result untouched
    cases given with
    | error fault =>
      -- What was not affected cannot have been stopped.
      have affected : early = true := by
        cases early with
        | true => rfl
        | false => cases result
      subst affected
      exact ⟨settings, holds, by simp, fun _ => snippets rfl, result, by simp⟩
    | ok value =>
      have continued := goes changed settings (complete rfl)
      refine ⟨continued.settings.trans settings, continued.holds, continued.complete, ?_, ?_, ?_⟩
      · intro affected
        cases late with
        | true => exact continued.snippets rfl
        | false =>
          rw [continued.untouched rfl]
          exact snippets (by simpa using affected)
      · rw [continued.result, settings]
        cases late with
        | true => simp
        | false =>
          cases early with
          | true => simpa using result
          | false => rfl
      · intro unaffected
        obtain ⟨earlyNot, lateNot⟩ := Bool.or_eq_false_iff.mp unaffected
        rw [continued.untouched lateNot]
        exact untouched earlyNot

/-- The symbols of motors and counters after a change, where nothing stopped their rebuild. -/
def expectedSymbols (change : Change) (settings : Settings) (symbols : String → ItemMap)
    (uri : String) : ItemMap :=
  if change.affectsField .counters && uri = Source.counter then
    Mnemonic.symbols (settings.linesOf Source.counter)
  else if change.affectsField .motors && uri = Source.motor then
    Mnemonic.symbols (settings.linesOf Source.motor)
  else symbols uri

theorem rebuilt_rebuildAffected (holds : Holds symbols registry)
    (settled : registry.settings.IsProper) (change : Change) :
    Rebuilt change.affectsLines (expectedSymbols change registry.settings symbols) registry
      (outcome (rebuildAffected change) registry) := by
  have lines : change.affectsLines = (change.affectsField .motors ||
      (change.affectsField .counters || (change.affectsField .templates &&
        !change.affectsField .motors && !change.affectsField .counters))) := by
    rw [Change.affectsLines]
    cases change.affectsField .motors with
    | false => cases change.affectsField .counters <;> simp
    | true => simp
  rw [rebuildAffected_eq, lines]
  refine (rebuilt_mnemonicsWhen holds settled (by decide) _).bind fun changed same held => ?_
  have proper : changed.settings.IsProper := same ▸ settled
  refine (rebuilt_mnemonicsWhen held proper (by decide) _).bind fun later sameLater heldLater => ?_
  have settings : later.settings = registry.settings := sameLater.trans same
  rw [same] at heldLater
  exact rebuilt_snippetsWhen heldLater (settings ▸ settled) _

/-!
## Reacting to a change
-/

/-- The registry with new settings, from which nothing was rebuilt yet. -/
def adopt (settings : Settings) (registry : Registry) : Registry :=
  { registry with settings }

/-- Work after which a new location of the database is loaded. -/
def andSchedule (change : Change) : Except Fault Unit × Registry → Except Fault Unit × Registry
  | (.ok value, changed) =>
    (.ok value, if change.affectsField .database then changed.scheduleLoad else changed)
  | (.error fault, changed) => (.error fault, changed)

theorem outcome_configurationChanged (inLoop : Bool) (change : Change)
    (settings : Option Settings) (registry : Registry) :
    outcome (configurationChanged inLoop change settings) registry =
      if change.affectsField .database && !inLoop then (.error .needsEventLoop, registry)
      else andSchedule change (outcome (rebuildAffected change)
        (registry.adopt (settings.getD registry.settings))) := by
  unfold configurationChanged
  by_cases refused : (change.affectsField .database && !inLoop) = true
  · simp only [if_pos refused]
    rfl
  · simp only [if_neg refused]
    rw [outcome_perform_bind, outcome_bind, adopt]
    generalize outcome (rebuildAffected change) _ = rebuilt
    cases rebuilt with
    | mk result changed =>
      cases result with
      | error fault => rfl
      | ok value =>
        by_cases moved : change.affectsField .database = true
        · simp only [andSchedule, if_pos moved, outcome_perform]
        · simp only [andSchedule, if_neg moved, outcome_pure]

theorem outcome_applySettings (inLoop : Bool) (settings : Settings) (registry : Registry) :
    outcome (Operation.apply inLoop settings).action registry =
      outcome (configurationChanged inLoop (.between registry.settings settings) (some settings))
        registry := by
  rw [Operation.action, outcome_bind, applySettings, outcome_get_bind, outcome_bind]
  cases outcome (configurationChanged inLoop (.between registry.settings settings)
    (some settings)) registry with
  | mk result changed =>
    cases result with
    | error fault => rfl
    | ok value => rfl

theorem withoutLoads_andSchedule (change : Change) (result : Except Fault Unit × Registry) :
    (andSchedule change result).2.withoutLoads = result.2.withoutLoads := by
  obtain ⟨given, changed⟩ := result
  cases given with
  | error fault => rfl
  | ok value =>
    rw [andSchedule]
    split
    · exact withoutLoads_scheduleLoad changed
    · rfl

theorem fst_andSchedule (change : Change) (result : Except Fault Unit × Registry) :
    (andSchedule change result).1 = result.1 := by
  obtain ⟨given, changed⟩ := result
  cases given with
  | error fault => rfl
  | ok value => rfl

end SpecLexicon.Registry
