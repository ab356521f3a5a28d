import SpecLexicon.Proofs.Registry.Incremental
import SpecLexicon.Proofs.Registry.LoadTracking
import SpecLexicon.Proofs.Registry.Reporting
import SpecLexicon.Proofs.Template.BuiltIn

/-!
# Routing of announcements

Settings that are accepted announce the motors, the counters and the snippets as far as they differ,
and nothing else. An operation that is refused changes nothing and announces nothing, unless it is a
template without a symbol that stops it: then the motors or counters before it have been announced,
and the snippets are changed without a word.
-/

set_option autoImplicit false

namespace SpecLexicon

namespace Change

variable {left right : Settings}

theorem affectsField_motors_iff (leftProper : left.IsProper) (rightProper : right.IsProper) :
    (between left right).affectsField .motors = true ↔ left.motors ≠ right.motors := by
  rw [affectsField_between left right rfl, Settings.Field.differs, leftProper.motors.eq_texts,
    rightProper.motors.eq_texts]
  simp

theorem affectsField_counters_iff (leftProper : left.IsProper) (rightProper : right.IsProper) :
    (between left right).affectsField .counters = true ↔ left.counters ≠ right.counters := by
  rw [affectsField_between left right rfl, Settings.Field.differs, leftProper.counters.eq_texts,
    rightProper.counters.eq_texts]
  simp

theorem affectsField_templates_iff (leftProper : left.IsProper) (rightProper : right.IsProper) :
    (between left right).affectsField .templates = true ↔ left.templates ≠ right.templates := by
  rw [affectsField_between left right rfl, Settings.Field.differs, leftProper.templates.eq_texts,
    rightProper.templates.eq_texts]
  simp

theorem affectsField_database_iff :
    (between left right).affectsField .database = true ↔ left.database ≠ right.database := by
  rw [affectsField_between left right rfl, Settings.Field.differs, bne_iff_ne]

theorem affectsLines_iff (leftProper : left.IsProper) (rightProper : right.IsProper) :
    (between left right).affectsLines = true ↔ left.motors ≠ right.motors ∨
      left.counters ≠ right.counters ∨ left.templates ≠ right.templates := by
  rw [affectsLines, Bool.or_eq_true, Bool.or_eq_true, or_assoc,
    affectsField_motors_iff leftProper rightProper,
    affectsField_counters_iff leftProper rightProper,
    affectsField_templates_iff leftProper rightProper]

end Change

namespace Registry

variable {settings adopted : Settings} {symbols : String → ItemMap} {registry : Registry}

/-!
## Affected sources
-/

section Affected

variable {change : Change} {templates : Lines}

theorem affectedSources_of_unaffected (unaffected : change.affectsLines = false) :
    affectedSources change templates = [] := by
  rw [Change.affectsLines, Bool.or_eq_false_iff, Bool.or_eq_false_iff] at unaffected
  simp [affectedSources, unaffected]

theorem affectedSources_of_fit
    (fit : change.affectsLines = true → templateFault? templates = none) :
    affectedSources change templates =
      (if change.affectsField .motors then [Source.motor, Source.snippet] else []) ++
        ((if change.affectsField .counters then [Source.counter, Source.snippet] else []) ++
          if change.affectsField .templates && !change.affectsField .motors &&
            !change.affectsField .counters then [Source.snippet] else []) := by
  cases affected : change.affectsLines with
  | false =>
    rw [affectedSources_of_unaffected affected]
    rw [Change.affectsLines, Bool.or_eq_false_iff, Bool.or_eq_false_iff] at affected
    simp [affected]
  | true => simp [affectedSources, refreshed, fit affected]

/-- What is announced where no template stops the work. -/
theorem mem_affectedSources (fit : change.affectsLines = true → templateFault? templates = none) :
    (Source.motor ∈ affectedSources change templates ↔ change.affectsField .motors = true) ∧
      (Source.counter ∈ affectedSources change templates ↔ change.affectsField .counters = true) ∧
      (Source.snippet ∈ affectedSources change templates ↔ change.affectsLines = true) ∧
      ∀ uri ∈ affectedSources change templates,
        uri ∈ [Source.motor, Source.counter, Source.snippet] := by
  rw [affectedSources_of_fit fit, Change.affectsLines]
  generalize change.affectsField .motors = motors
  generalize change.affectsField .counters = counters
  generalize change.affectsField .templates = alone
  revert motors counters alone
  decide

end Affected

/-!
## Refusals
-/

/-- The templates that an operation compiles, if it compiles any. -/
def Operation.compiled? (registry : Registry) : Operation → Option Lines
  | apply inLoop adopted =>
    if refuses inLoop registry.settings adopted then none
    else if (Change.between registry.settings adopted).affectsLines then some adopted.templates
    else none
  | react inLoop change =>
    if change.affectsField .database && !inLoop then none
    else if change.affectsLines then some registry.settings.templates else none
  | rebuildMnemonics _ _ => some registry.settings.templates
  | rebuildSnippets => some registry.settings.templates
  | _ => none

/-- An operation is stopped by the templates that it compiles, or else refused as a whole. -/
inductive Refusal (operation : Operation) (registry : Registry) : Prop where
  | compiled : operation.fault? registry = (operation.compiled? registry).bind templateFault? →
      Refusal operation registry
  | whole {fault : Fault} : operation.fault? registry = some fault → fault ≠ unfitTemplate →
      operation.compiled? registry = none → operation.after registry = registry →
      Refusal operation registry

theorem outcome_load (read : FileReader) (path : Option LooseText) (registry : Registry) :
    outcome (Operation.load read path).action registry =
      outcome (Operation.endLoad (registry.locationOf path)
        (Database.fetch read (registry.locationOf path))).action registry := by
  rw [Operation.action, Operation.action, outcome_bind, outcome_bind, loadDatabase,
    outcome_get_bind]

theorem refusal_endLoad (location : Location)
    (fetched : Except Database.FetchError Partition) (registry : Registry) :
    Refusal (.endLoad location fetched) registry := by
  cases fetched with
  | ok partition => exact .compiled rfl
  | error reason =>
    have other : Fault.ofFetchError reason ≠ unfitTemplate := by
      cases reason <;> simp [Fault.ofFetchError, unfitTemplate]
    exact .whole rfl other rfl rfl

theorem refusal_load (read : FileReader) (path : Option LooseText) (registry : Registry) :
    Refusal (.load read path) registry := by
  have same := outcome_load read path registry
  cases refusal_endLoad (registry.locationOf path) (Database.fetch read (registry.locationOf path))
    registry with
  | compiled unfaulted =>
    refine .compiled ?_
    rw [Operation.fault?, same]
    exact unfaulted
  | whole faulted other _ kept =>
    refine .whole (by rw [Operation.fault?, same]; exact faulted) other rfl ?_
    rw [Operation.after, same]
    exact kept

theorem refusal_of_needsEventLoop {operation : Operation}
    (stopped : outcome operation.action registry = (.error .needsEventLoop, registry))
    (uncompiled : operation.compiled? registry = none) : Refusal operation registry := by
  have faulted : operation.fault? registry = some .needsEventLoop := by
    rw [Operation.fault?, stopped]
    rfl
  have kept : operation.after registry = registry := by rw [Operation.after, stopped]
  exact .whole faulted (by decide) uncompiled kept

namespace Settled

theorem refusal_configurationChanged (settled : Settled settings symbols registry) {inLoop : Bool}
    {change : Change} (adopted : Option Settings)
    (proper : (adopted.getD registry.settings).IsProper)
    (taken : (change.affectsField .database && !inLoop) = false) :
    faultOf (outcome (Registry.configurationChanged inLoop change adopted) registry).1 =
      (if change.affectsLines then some (adopted.getD registry.settings).templates
      else none).bind templateFault? := by
  have holds : Holds symbols (registry.adopt (adopted.getD registry.settings)) :=
    settled.holds.congr rfl
  have rebuilt := rebuilt_rebuildAffected holds proper change
  rw [outcome_configurationChanged, if_neg (by simp [taken]), fst_andSchedule, rebuilt.result]
  cases change.affectsLines with
  | false => rfl
  | true => exact faultOf_resultOf _

theorem refusal (settled : Settled settings symbols registry) {operation : Operation}
    (proper : operation.IsProper) : Refusal operation registry := by
  cases operation with
  | apply inLoop adopted =>
    by_cases refused : refuses inLoop registry.settings adopted = true
    · refine refusal_of_needsEventLoop ?_ (if_pos refused)
      rw [outcome_applySettings, outcome_configurationChanged]
      exact if_pos refused
    · have ran := settled.refusal_configurationChanged (some adopted) proper
        (Bool.eq_false_iff.mpr refused)
      refine .compiled ?_
      rw [Operation.fault?, outcome_applySettings, ran, Operation.compiled?, if_neg refused]
      rfl
  | react inLoop change =>
    by_cases refused : (change.affectsField .database && !inLoop) = true
    · refine refusal_of_needsEventLoop ?_ (if_pos refused)
      rw [Operation.action, outcome_configurationChanged, if_pos refused]
    · have ran := settled.refusal_configurationChanged none settled.settingsProper
        (Bool.eq_false_iff.mpr refused)
      refine .compiled ?_
      rw [Operation.fault?, Operation.action, ran, Operation.compiled?, if_neg refused]
      rfl
  | rebuildMnemonics uri lines =>
    obtain ⟨known, lines_proper⟩ := proper
    have member : uri ∈ mnemonicSources := mem_mnemonicSources.mpr known
    refine .compiled ?_
    rw [Operation.fault?, Operation.action, requestMnemonics, outcome_attempt, faultOf_resultOf,
      mnemonicFault?_eq settled.holds member lines_proper]
    rfl
  | rebuildSnippets =>
    refine .compiled ?_
    rw [Operation.fault?, Operation.action, requestSnippets, outcome_attempt, faultOf_resultOf,
      snippetFault?_eq settled.holds]
    rfl
  | load read path => exact refusal_load read path registry
  | endLoad location fetched => exact refusal_endLoad location fetched registry
  | activate partition => exact .compiled rfl
  | listen name listener => exact .compiled rfl
  | unlisten name => exact .compiled rfl
  | startup => exact .compiled rfl
  | step number => exact .compiled rfl
  | deliver number fetched => exact .compiled rfl
  | beginShutdown => exact .compiled rfl
  | endShutdown number => exact .compiled rfl

end Settled

theorem templateFault?_eq_some_iff {templates : Lines} (proper : templates.IsProper)
    {fault : Fault} : templateFault? templates = some fault ↔
      fault = unfitTemplate ∧ ∃ line ∈ templates.readable, Template.isFit line = false := by
  obtain ⟨texts, rfl⟩ := proper
  exact Template.templateFault?_texts_eq_some_iff

theorem Settled.isProper_of_compiled? (settled : Settled settings symbols registry)
    {operation : Operation} (proper : operation.IsProper) {templates : Lines}
    (compiled : operation.compiled? registry = some templates) : templates.IsProper := by
  have own := settled.settingsProper.templates
  cases operation with
  | apply inLoop adopted =>
    rw [Operation.compiled?] at compiled
    split at compiled
    · cases compiled
    · split at compiled
      · cases compiled
        exact Settings.IsProper.templates proper
      · cases compiled
  | react inLoop change =>
    rw [Operation.compiled?] at compiled
    split at compiled
    · cases compiled
    · split at compiled
      · cases compiled
        exact own
      · cases compiled
  | rebuildMnemonics uri lines =>
    cases compiled
    exact own
  | rebuildSnippets =>
    cases compiled
    exact own
  | load read path => cases compiled
  | endLoad location fetched => cases compiled
  | activate partition => cases compiled
  | listen name listener => cases compiled
  | unlisten name => cases compiled
  | startup => cases compiled
  | step number => cases compiled
  | deliver number fetched => cases compiled
  | beginShutdown => cases compiled
  | endShutdown number => cases compiled

/-- The templates that an operation compiles stop it exactly if one of them is not fit. -/
theorem Settled.fault?_eq_unfitTemplate_iff (settled : Settled settings symbols registry)
    {operation : Operation} (proper : operation.IsProper) :
    operation.fault? registry = some unfitTemplate ↔
      ∃ templates, operation.compiled? registry = some templates ∧
        ∃ line ∈ templates.readable, Template.isFit line = false := by
  cases settled.refusal proper with
  | compiled stopped =>
    rw [stopped, Option.bind_eq_some_iff]
    refine exists_congr fun templates => and_congr_right fun compiled => ?_
    rw [templateFault?_eq_some_iff (settled.isProper_of_compiled? proper compiled)]
    simp
  | whole faulted other none_compiled _ => simp [faulted, other, none_compiled]

theorem Settled.after_of_refused (settled : Settled settings symbols registry)
    {operation : Operation} (proper : operation.IsProper) {fault : Fault}
    (refused : operation.fault? registry = some fault) (other : fault ≠ unfitTemplate) :
    operation.after registry = registry := by
  cases settled.refusal proper with
  | compiled stopped =>
    rw [refused, eq_comm, Option.bind_eq_some_iff] at stopped
    obtain ⟨templates, compiled, stopped⟩ := stopped
    have blamed :=
      (templateFault?_eq_some_iff (settled.isProper_of_compiled? proper compiled)).mp stopped
    exact absurd blamed.1 other
  | whole _ _ _ kept => exact kept

/-!
## Accepted settings
-/

/-- Settings were accepted: the lists that differ and the snippets that hold them were announced,
what was not announced is as before, and a database that lies elsewhere is going to be loaded. -/
structure Routed (adopted : Settings) (before after : Registry) (added : List Event) : Prop where
  settings : after.settings = adopted
  motors : IsAnnounced Source.motor added ↔ before.settings.motors ≠ adopted.motors
  counters : IsAnnounced Source.counter added ↔ before.settings.counters ≠ adopted.counters
  snippets : IsAnnounced Source.snippet added ↔ before.settings.motors ≠ adopted.motors ∨
    before.settings.counters ≠ adopted.counters ∨ before.settings.templates ≠ adopted.templates
  others : ∀ uri, IsAnnounced uri added → uri ∈ [Source.motor, Source.counter, Source.snippet]
  kept : ∀ uri, ¬IsAnnounced uri added → after.store.get? uri = before.store.get? uri
  order : after.store.partitions.keys = before.store.partitions.keys
  loads : after.track =
    if before.settings.database ≠ adopted.database then before.scheduleLoad.track
    else before.track

theorem keys_setMap (store : Store) (uri : String) (kind : Kind) (items : ItemMap) :
    (store.setMap uri kind items).partitions.keys = store.partitions.keys :=
  OrderedMap.keys_mapValues _ _

theorem isSteady_sources : IsSteady fun registry => registry.store.partitions.keys :=
  isSteady_of_setMap (fun store => store.partitions.keys) keys_setMap

theorem sources_apply (inLoop : Bool) (adopted : Settings) (registry : Registry) :
    (Operation.apply inLoop adopted).sources registry =
      if refuses inLoop registry.settings adopted then []
      else affectedSources (.between registry.settings adopted) adopted.templates := rfl

/-- New settings that nothing stops. -/
structure Accepted (inLoop : Bool) (adopted : Settings) (registry : Registry) : Prop where
  taken : refuses inLoop registry.settings adopted = false
  fit : (Change.between registry.settings adopted).affectsLines = true →
    templateFault? adopted.templates = none

namespace Settled

theorem accepted (settled : Settled settings symbols registry) {inLoop : Bool}
    (proper : adopted.IsProper)
    (unfaulted : (Operation.apply inLoop adopted).fault? registry = none) :
    Accepted inLoop adopted registry := by
  rw [settled.fault?_apply inLoop proper] at unfaulted
  rw [← settled.same, adoptionFault?] at unfaulted
  split at unfaulted
  · cases unfaulted
  · rename_i taken
    refine ⟨Bool.eq_false_iff.mpr taken, fun affected => ?_⟩
    rwa [if_pos affected] at unfaulted

/-- Accepted settings announce the affected sources and nothing else, whoever listens. -/
theorem isAnnounced_apply_iff (settled : Settled settings symbols registry) {inLoop : Bool}
    (proper : adopted.IsProper) (accepted : Accepted inLoop adopted registry) {added : List Event}
    (events : ((Operation.apply inLoop adopted).after registry).events = registry.events ++ added)
    (uri : String) : IsAnnounced uri added ↔
      uri ∈ affectedSources (.between registry.settings adopted) adopted.templates := by
  obtain ⟨deeds, performed, sources, _⟩ :=
    settled.announces (show (Operation.apply inLoop adopted).IsProper from proper) rfl
  obtain ⟨same, sameEvents, own, others⟩ := performed.announces
  obtain rfl : same = added := List.append_cancel_left (sameEvents.symm.trans events)
  have expected : sourcesOf deeds =
      affectedSources (.between registry.settings adopted) adopted.templates := by
    rw [sources, sources_apply, if_neg (Bool.eq_false_iff.mp accepted.taken)]
  rw [expected] at own others
  constructor
  · intro announced
    rcases others uri announced with member | ⟨rfl, some_affected⟩
    · exact member
    · -- Listeners ask for the snippets only while something else is announced.
      refine (mem_affectedSources accepted.fit).2.2.1.mpr ?_
      cases affected : (Change.between registry.settings adopted).affectsLines with
      | true => rfl
      | false => exact absurd (affectedSources_of_unaffected affected) some_affected
  · exact own uri

theorem outcome_apply_of_accepted (settled : Settled settings symbols registry) {inLoop : Bool}
    (proper : adopted.IsProper) (accepted : Accepted inLoop adopted registry) :
    ∃ rebuilt, outcome (Registry.rebuildAffected (.between registry.settings adopted))
        (registry.adopt adopted) = (.ok (), rebuilt) ∧
      (Operation.apply inLoop adopted).after registry =
        if (Change.between registry.settings adopted).affectsField .database
        then rebuilt.scheduleLoad else rebuilt := by
  have holds : Holds symbols (registry.adopt adopted) := settled.holds.congr rfl
  have result := (rebuilt_rebuildAffected holds proper (.between registry.settings adopted)).ok_iff
  rw [Operation.after, settled.outcome_apply, ← settled.same, accepted.taken, if_neg (by simp)]
  generalize outcome (Registry.rebuildAffected (.between registry.settings adopted))
    (registry.adopt adopted) = ran at result
  obtain ⟨given, rebuilt⟩ := ran
  have unstopped : given = .ok () := by
    refine result.mpr ?_
    cases affected : (Change.between registry.settings adopted).affectsLines with
    | false => rfl
    | true => exact congrArg Option.isSome (accepted.fit affected)
  subst unstopped
  exact ⟨rebuilt, rfl, rfl⟩

theorem routed (settled : Settled settings symbols registry) {inLoop : Bool}
    (proper : adopted.IsProper) (accepted : Accepted inLoop adopted registry) {added : List Event}
    (events : ((Operation.apply inLoop adopted).after registry).events = registry.events ++ added)
    (kept : ∀ uri, ¬IsAnnounced uri added →
      ((Operation.apply inLoop adopted).after registry).store.get? uri = registry.store.get? uri) :
    Routed adopted registry ((Operation.apply inLoop adopted).after registry) added := by
  have own : registry.settings.IsProper := settled.settingsProper
  have announced := settled.isAnnounced_apply_iff proper accepted events
  have affected := mem_affectedSources accepted.fit
  obtain ⟨rebuilt, ran, after⟩ := settled.outcome_apply_of_accepted proper accepted
  have holds : Holds symbols (registry.adopt adopted) := settled.holds.congr rfl
  have spec := rebuilt_rebuildAffected holds proper (.between registry.settings adopted)
  have sources := isSteady_sources.rebuildAffected (.between registry.settings adopted)
    (registry.adopt adopted)
  have track := isSteady_track.rebuildAffected (.between registry.settings adopted)
    (registry.adopt adopted)
  rw [ran] at spec sources track
  have same : ((Operation.apply inLoop adopted).after registry).withoutLoads =
      rebuilt.withoutLoads := by
    rw [after]
    split
    · exact withoutLoads_scheduleLoad rebuilt
    · rfl
  refine ⟨(settings_eq_of_withoutLoads_eq same).trans spec.settings, ?_, ?_, ?_, ?_, kept, ?_, ?_⟩
  · rw [announced, affected.1, Change.affectsField_motors_iff own proper]
  · rw [announced, affected.2.1, Change.affectsField_counters_iff own proper]
  · rw [announced, affected.2.2.1, Change.affectsLines_iff own proper]
  · exact fun uri told => affected.2.2.2 uri ((announced uri).mp told)
  · rw [store_eq_of_withoutLoads_eq same]
    exact sources
  · rw [after]
    have moved : (Change.between registry.settings adopted).affectsField .database = true ↔
        registry.settings.database ≠ adopted.database := Change.affectsField_database_iff
    by_cases moves : registry.settings.database = adopted.database
    · rw [if_neg (by simp [moved, moves]), if_neg (by simp [moves])]
      exact track
    · rw [if_pos (moved.mpr moves), if_pos moves]
      exact track_scheduleLoad_congr track

end Settled

/-!
## The law
-/

/-- What announcements are worth. Every operation announces each source that it changes, and for the
last time when the source has its final content; only a template without a symbol, among those that
the operation compiles, makes it change the snippets without a word. Any other refusal changes
nothing at all. Accepted settings are announced exactly where they differ. -/
theorem Reachable.announces_changes (reachable : Reachable registry) {operation : Operation}
    (proper : operation.IsProper) :
    ∃ added, (operation.after registry).events = registry.events ++ added ∧
      Faithful (fun uri => uri = Source.snippet → operation.fault? registry = none)
        registry.store (operation.after registry).store added ∧
      (operation.fault? registry = some unfitTemplate ↔
        ∃ templates, operation.compiled? registry = some templates ∧
          ∃ line ∈ templates.readable, Template.isFit line = false) ∧
      (∀ fault, operation.fault? registry = some fault → fault ≠ unfitTemplate →
        operation.after registry = registry) ∧
      ∀ inLoop adopted, operation = .apply inLoop adopted → operation.fault? registry = none →
        Routed adopted registry (operation.after registry) added := by
  obtain ⟨settings, symbols, settled⟩ := reachable.settled
  obtain ⟨added, events, faithful⟩ := settled.tells proper
  refine ⟨added, events, faithful, settled.fault?_eq_unfitTemplate_iff proper,
    fun fault => settled.after_of_refused proper, ?_⟩
  rintro inLoop adopted rfl unfaulted
  refine settled.routed proper (settled.accepted proper unfaulted) events fun uri silent => ?_
  exact faithful.kept (fun _ => unfaulted) silent

/-- Lists that differ, and templates that do. -/
theorem routed_paired : Reachable (create .standard none) ∧ pairedSettings.IsProper ∧
    ∃ added, ((Operation.apply false pairedSettings).after (create .standard none)).events =
        (create .standard none).events ++ added ∧
      Routed pairedSettings (create .standard none)
        ((Operation.apply false pairedSettings).after (create .standard none)) added := by
  have reachable : Reachable (create .standard none) := .create Settings.isProper_standard rfl
  have proper : pairedSettings.IsProper := ⟨⟨_, rfl⟩, ⟨_, rfl⟩, ⟨_, rfl⟩⟩
  obtain ⟨added, events, _, _, _, routed⟩ :=
    reachable.announces_changes (show (Operation.apply false pairedSettings).IsProper from proper)
  exact ⟨reachable, proper, added, events, routed false pairedSettings rfl (by decide +kernel)⟩

/-!
## A defect
-/

theorem Settled.apply (settled : Settled settings symbols registry) {inLoop : Bool}
    (proper : adopted.IsProper) (taken : refuses inLoop settings adopted = false) :
    ∃ held, Settled adopted held ((Operation.apply inLoop adopted).after registry) := by
  have unchanged : (Change.between settings adopted).affectsLines = false →
      adopted.templates = settings.templates := by
    intro unaffected
    obtain ⟨_, unaffected⟩ := Bool.or_eq_false_iff.mp unaffected
    exact ((Change.eq_of_unaffected settled.proper proper).2.2 unaffected).symm
  obtain ⟨held, rebuilt⟩ := settled.rebuildAffected proper unchanged
  rw [Operation.after, settled.outcome_apply, if_neg (by simp [taken])]
  exact ⟨held, rebuilt.andSchedule⟩

/-- The keys of the snippets are the built-in ones and those of the templates up to the first one
without a symbol. -/
theorem Settled.mem_names_iff (settled : Settled settings symbols registry) {key : String} :
    key ∈ registry.store.names Source.snippet .snippet ↔ key ∈ Template.builtInKeys ∨
      ∃ line ∈ settings.templates.readable.takeWhile Template.isFit,
        (Template.parse? line.plain).map Template.name = some key := by
  have current := settled.current
  rw [SnippetsCurrent, compileSnippets, settled.same] at current
  rw [Store.names, current]
  change key ∈ OrderedMap.keys _ ↔ _
  rw [(Template.compiled_rebuild _ _ _ _).names, List.mem_eraseDups, templateLines,
    Template.names_builtIn_append, List.mem_append, Template.ofLines, List.map_filterMap,
    List.mem_filterMap]

/-- A template, and one behind it that ends in half of a surrogate pair. -/
def interruptedSettings : Settings :=
  { pairedSettings with
    templates := .texts [.text "go x", .ofPoints [.char 'm', .char ' ', .half 0xd800]] }

/-- The second template stops the work after the motors have been announced. The snippets are others
then, and nobody is told. -/
theorem interrupted_announced_in_part :
    (Operation.apply false interruptedSettings).fault? (create .standard none) =
        some unfitTemplate ∧
      ∃ added, ((Operation.apply false interruptedSettings).after (create .standard none)).events =
          (create .standard none).events ++ added ∧
        IsAnnounced Source.motor added ∧ ¬IsAnnounced Source.snippet added ∧
        ((Operation.apply false interruptedSettings).after (create .standard none)).store.get?
          Source.snippet ≠ (create .standard none).store.get? Source.snippet := by
  have settled := settled_create Settings.isProper_standard none
  have proper : interruptedSettings.IsProper := ⟨⟨_, rfl⟩, ⟨_, rfl⟩, ⟨_, rfl⟩⟩
  have passive := (isHarmless_create .standard none).isPassive
  obtain ⟨deeds, performed, sources, _⟩ :=
    settled.announces (show (Operation.apply false interruptedSettings).IsProper from proper) rfl
  obtain ⟨_, added, events, counts, _⟩ := performed.counts passive
  have told : sourcesOf deeds = [Source.motor] := sources.trans (by decide +kernel)
  rw [told] at counts
  refine ⟨by decide +kernel, added, events, ?_, ?_, ?_⟩
  · rw [isAnnounced_iff_countP_pos, counts]
    decide
  · rw [isAnnounced_iff_countP_pos, counts]
    decide
  · intro same
    obtain ⟨held, later⟩ := settled.apply proper (show refuses false _ _ = false by decide +kernel)
    have before : "go" ∉ (create .standard none).store.names Source.snippet .snippet := by
      rw [settled.mem_names_iff]
      rintro (builtIn | ⟨line, member, _⟩)
      · exact absurd builtIn (by decide)
      · cases member
    have after : "go" ∈ ((Operation.apply false interruptedSettings).after
        (create .standard none)).store.names Source.snippet .snippet := by
      rw [later.mem_names_iff]
      exact .inr ⟨.text "go x", by decide +kernel, by decide +kernel⟩
    rw [Store.names, Store.map?, same] at after
    exact before after

end Registry

end SpecLexicon
