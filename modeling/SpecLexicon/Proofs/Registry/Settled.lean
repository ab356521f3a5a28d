import SpecLexicon.Proofs.Registry.Rebuilding

/-!
# Settled registries

A registry is settled when its settings are proper and its snippets are those of the present
templates, motors and counters. It is settled from its creation on, and every operation keeps it so.
Only new settings and a rebuild of motors or counters replace what it holds; all other operations
keep its settings, motors and counters as well.
-/

set_option autoImplicit false

namespace SpecLexicon.Registry

/-- The registry has proper settings, holds given symbols, and its snippets are current. -/
structure Settled (settings : Settings) (symbols : String → ItemMap) (registry : Registry) :
    Prop where
  same : registry.settings = settings
  proper : settings.IsProper
  holds : Holds symbols registry
  current : SnippetsCurrent registry

namespace Settled

variable {settings : Settings} {symbols : String → ItemMap} {registry later : Registry}

theorem settingsProper (settled : Settled settings symbols registry) :
    registry.settings.IsProper := by
  rw [settled.same]
  exact settled.proper

theorem congr (settled : Settled settings symbols registry)
    (same : later.settings = registry.settings) (store : later.store = registry.store) :
    Settled settings symbols later := by
  refine ⟨same.trans settled.same, settled.proper, settled.holds.congr store, ?_⟩
  exact settled.current.congr (by rw [same]) store

theorem of_withoutLoads_eq (settled : Settled settings symbols registry)
    (same : later.withoutLoads = registry.withoutLoads) : Settled settings symbols later :=
  settled.congr (settings_eq_of_withoutLoads_eq same) (store_eq_of_withoutLoads_eq same)

theorem of_refreshes (settled : Settled settings symbols registry)
    (refreshed : Refreshes registry later) : Settled settings symbols later := by
  have same := settled.holds.core_eq_of_refreshes settled.current refreshed
  exact settled.congr (settings_eq_of_core_eq same) (store_eq_of_core_eq same)

theorem install {uri : String} (settled : Settled settings symbols registry)
    (elsewhere : uri ∉ Source.snippet :: mnemonicSources) (partition : Partition) :
    Settled settings symbols { registry with store := registry.store.install uri partition } :=
  ⟨settled.same, settled.proper, settled.holds.install elsewhere partition,
    settled.current.install elsewhere partition⟩

theorem withDatabase (settled : Settled settings symbols registry) (partition : Partition) :
    Settled settings symbols (registry.withDatabase partition) :=
  settled.install (by decide) partition

theorem installDatabase (settled : Settled settings symbols registry)
    (location : Location) (partition : Partition) :
    Settled settings symbols (Registry.installDatabase location partition registry) :=
  (settled.withDatabase partition).of_refreshes (installDatabase_refreshes location partition _)

theorem setActiveDocument (settled : Settled settings symbols registry) (partition : Partition) :
    Settled settings symbols (Registry.setActiveDocument partition registry) :=
  (settled.install (by decide) partition).of_refreshes (notify_refreshes Source.activeDocument _)

theorem updateSnippets (settled : Settled settings symbols registry) :
    Settled settings symbols (Registry.updateSnippets registry) :=
  settled.of_refreshes (updateSnippets_refreshes registry)

theorem finished (settled : Settled settings symbols registry) (location : Location)
    (outcome : Except Database.FetchError Partition) :
    Settled settings symbols (registry.finished location outcome) := by
  cases outcome with
  | ok partition => exact settled.installDatabase location partition
  | error reason =>
    cases reason with
    | malformed reason => exact settled.congr rfl rfl
    | unnameable fault => exact settled

theorem stepLoad (settled : Settled settings symbols registry) (number : Nat) :
    Settled settings symbols (registry.stepLoad number) := by
  have step := loadStep_stepLoad number registry
  generalize registry.stepLoad number = stepped at step
  cases step with
  | absent _ => exact settled
  | ended _ _ => exact settled
  | cancelled _ _ _ => exact settled.congr rfl rfl
  | started _ => exact settled.congr rfl rfl
  | waiting _ => exact settled
  | finished _ => exact (settled.finished _ _).congr rfl rfl

theorem endLoad (settled : Settled settings symbols registry) (location : Location)
    (fetched : Except Database.FetchError Partition) :
    Settled settings symbols ((Operation.endLoad location fetched).after registry) := by
  rw [after_endLoad]
  cases fetched with
  | ok partition => exact settled.installDatabase location partition
  | error reason => exact settled

theorem rebuildAffected (settled : Settled settings symbols registry) {adopted : Settings}
    (proper : adopted.IsProper) {change : Change}
    (kept : change.affectsLines = false → adopted.templates = settings.templates) :
    ∃ held, Settled adopted held
      (outcome (Registry.rebuildAffected change) (registry.adopt adopted)).2 := by
  have holds : Holds symbols (registry.adopt adopted) := settled.holds.congr rfl
  have rebuilt := rebuilt_rebuildAffected holds proper change
  obtain ⟨held, heldHolds⟩ := rebuilt.holds
  refine ⟨held, rebuilt.settings, proper, heldHolds, ?_⟩
  cases affected : change.affectsLines with
  | true => exact rebuilt.snippets affected
  | false =>
    rw [rebuilt.untouched affected]
    refine settled.current.congr ?_ rfl
    rw [settled.same]
    exact kept affected

theorem andSchedule {change : Change} {result : Except Fault Unit × Registry}
    (settled : Settled settings symbols result.2) :
    Settled settings symbols (Registry.andSchedule change result).2 :=
  settled.of_withoutLoads_eq (withoutLoads_andSchedule change result)

end Settled

/-- The operations that replace neither settings nor motors nor counters. -/
def Operation.IsPlain : Operation → Prop
  | apply _ _ => False
  | react _ _ => False
  | rebuildMnemonics _ _ => False
  | _ => True

theorem Settled.after_of_isPlain {settings : Settings} {symbols : String → ItemMap}
    {registry : Registry} {operation : Operation} (settled : Settled settings symbols registry)
    (plain : operation.IsPlain) : Settled settings symbols (operation.after registry) := by
  cases operation with
  | apply inLoop adopted => exact plain.elim
  | react inLoop change => exact plain.elim
  | rebuildMnemonics uri lines => exact plain.elim
  | rebuildSnippets =>
    rw [Operation.after, Operation.action, requestSnippets, outcome_attempt]
    exact settled.updateSnippets
  | load read path =>
    rw [after_load]
    exact settled.endLoad _ _
  | endLoad location fetched => exact settled.endLoad location fetched
  | activate partition => exact settled.setActiveDocument partition
  | listen name listener => exact settled.congr rfl rfl
  | unlisten name => exact settled.congr rfl rfl
  | startup => exact settled.of_withoutLoads_eq (withoutLoads_scheduleLoad registry)
  | step number => exact settled.stepLoad number
  | deliver number fetched => exact settled.congr rfl rfl
  | beginShutdown => exact settled.of_withoutLoads_eq (withoutLoads_beginShutdown registry)
  | endShutdown number =>
    exact settled.of_withoutLoads_eq (withoutLoads_endShutdown number registry)

/-!
## From the creation on
-/

theorem Holds.of_eq {symbols other : String → ItemMap} {registry : Registry}
    (holds : Holds symbols registry) (same : ∀ uri ∈ mnemonicSources, symbols uri = other uri) :
    Holds other registry := by
  refine ⟨holds.unshared, ?_, holds.place⟩
  intro uri member
  rw [holds.mnemonics uri member, same uri member]

theorem holds_bare (settings : Settings) (window : Option Window) :
    Holds (fun _ => .empty) (bare settings window) := by
  refine ⟨rfl, ?_, rfl⟩
  intro uri member
  rcases mem_mnemonicSources.mp member with rfl | rfl
  · rfl
  · rfl

theorem settled_create {settings : Settings} (proper : settings.IsProper)
    (window : Option Window) :
    Settled settings settings.symbols (create settings window) := by
  obtain ⟨motorSettings, motorHolds, _⟩ :=
    updateMnemonics_spec (holds_bare settings window) proper
      (show Source.motor ∈ mnemonicSources by decide) proper.motors
  obtain ⟨counterSettings, counterHolds, current⟩ :=
    updateMnemonics_spec motorHolds (by rw [motorSettings]; exact proper)
      (show Source.counter ∈ mnemonicSources by decide) proper.counters
  have same : (create settings window).settings = settings := counterSettings.trans motorSettings
  refine ⟨same, proper, counterHolds.of_eq ?_, current⟩
  intro uri member
  rcases mem_mnemonicSources.mp member with rfl | rfl
  · rfl
  · rfl

namespace Settled

variable {settings : Settings} {symbols : String → ItemMap} {registry : Registry}

/-- A change of the configuration leaves a settled registry behind, be it refused or stopped. -/
theorem configurationChanged (settled : Settled settings symbols registry) (inLoop : Bool)
    {change : Change} {adopted : Option Settings}
    (proper : (adopted.getD registry.settings).IsProper)
    (kept : change.affectsLines = false →
      (adopted.getD registry.settings).templates = settings.templates) :
    ∃ held symbols, Settled held symbols
      (outcome (Registry.configurationChanged inLoop change adopted) registry).2 := by
  rw [outcome_configurationChanged]
  split
  · exact ⟨settings, symbols, settled⟩
  · obtain ⟨held, rebuilt⟩ := settled.rebuildAffected proper kept
    exact ⟨_, held, rebuilt.andSchedule⟩

theorem after (settled : Settled settings symbols registry) {operation : Operation}
    (proper : operation.IsProper) :
    ∃ held symbols, Settled held symbols (operation.after registry) := by
  have plainly (plain : operation.IsPlain) :
      ∃ held symbols, Settled held symbols (operation.after registry) :=
    ⟨settings, symbols, settled.after_of_isPlain plain⟩
  cases operation with
  | apply inLoop adopted =>
    rw [Operation.after, outcome_applySettings]
    refine settled.configurationChanged inLoop proper ?_
    intro unaffected
    obtain ⟨_, unaffected⟩ := Bool.or_eq_false_iff.mp unaffected
    rw [settled.same] at unaffected
    exact ((Change.eq_of_unaffected settled.proper proper).2.2 unaffected).symm
  | react inLoop change =>
    refine settled.configurationChanged inLoop settled.settingsProper ?_
    intro _
    exact congrArg Settings.templates settled.same
  | rebuildMnemonics uri lines =>
    obtain ⟨known, lines_proper⟩ := proper
    obtain ⟨same, holds, current⟩ := updateMnemonics_spec settled.holds settled.settingsProper
      (mem_mnemonicSources.mpr known) lines_proper
    rw [Operation.after, Operation.action, requestMnemonics, outcome_attempt]
    exact ⟨settings, _, same.trans settled.same, settled.proper, holds, current⟩
  | _ => exact plainly trivial

end Settled

theorem eq_create_of_createChecked {settings : Settings} {window : Option Window}
    {registry : Registry} (created : createChecked settings window = .ok registry) :
    registry = create settings window := by
  rw [createChecked] at created
  split at created
  · exact (Except.ok.inj created).symm
  · cases created

theorem Reachable.settled {registry : Registry} (reachable : Reachable registry) :
    ∃ settings symbols, Settled settings symbols registry := by
  induction reachable with
  | @create settings window registry proper created =>
    obtain rfl := eq_create_of_createChecked created
    exact ⟨settings, settings.symbols, settled_create proper window⟩
  | step _ proper ih =>
    obtain ⟨settings, symbols, settled⟩ := ih
    exact settled.after proper

/-- The snippets are compiled anew from the built-in templates and those of the settings, and from
the names of the present motors and counters. The first template without a symbol stops this. -/
def SnippetsDerived (registry : Registry) : Prop :=
  ∃ texts motors counters, registry.settings.templates = .texts texts ∧
    registry.store.map? Source.motor .member = some motors ∧
    registry.store.map? Source.counter .member = some counters ∧
    registry.store.map? Source.snippet .snippet =
      some (Template.rebuild motors.keys counters.keys .empty
        (Template.builtIn.map .text ++ texts.takeWhile Template.isFit)).items

/-- The snippets are never out of date. -/
theorem Reachable.snippetsDerived {registry : Registry} (reachable : Reachable registry) :
    SnippetsDerived registry := by
  obtain ⟨settings, symbols, settled⟩ := reachable.settled
  obtain ⟨texts, templates⟩ := settled.settingsProper.templates
  have motors := settled.holds.mnemonics Source.motor (by decide)
  have counters := settled.holds.mnemonics Source.counter (by decide)
  refine ⟨texts, symbols Source.motor, symbols Source.counter, templates, motors, counters, ?_⟩
  have current := settled.current
  rw [SnippetsCurrent, compileSnippets, templateLines, templates, Store.names, motors, Store.names,
    counters] at current
  exact current

theorem snippetsDerived_rebuilt :
    (Operation.rebuildMnemonics Source.motor (.texts [.text "th # theta"])).IsProper ∧
      SnippetsDerived ((Operation.rebuildMnemonics Source.motor (.texts [.text "th # theta"])).after
        (create .standard none)) := by
  have proper : (Operation.rebuildMnemonics Source.motor (.texts [.text "th # theta"])).IsProper :=
    ⟨.inl rfl, _, rfl⟩
  have created : createChecked .standard none = .ok (create .standard none) := rfl
  exact ⟨proper, ((Reachable.create Settings.isProper_standard created).step proper).snippetsDerived⟩

end SpecLexicon.Registry
