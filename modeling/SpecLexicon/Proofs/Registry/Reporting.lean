import SpecLexicon.Proofs.Registry.Notices

/-!
# Announcements and contents

An operation announces every source whose content it changes, and announces it for the last time
when the source has the content that it keeps. Only the snippets are left out where a template
without a symbol stops the work. The reason is one relation between registries that every piece of
work satisfies and that pieces of work one after the other hand on.
-/

set_option autoImplicit false

namespace SpecLexicon

theorem Store.get?_setMap_of_ne {store : Store} (unshared : store.shares = .empty)
    {uri other : String} (different : other ≠ uri) (kind : Kind) (items : ItemMap) :
    (store.setMap uri kind items).get? other = store.get? other := by
  rw [setMap, get?_update, sharing_eq_of_shares_empty unshared]
  cases store.get? other with
  | none => rfl
  | some partition => simp [Ne.symm different]

/-- Of the watched sources, each that differs in the end was announced, and each was announced for
the last time with the content that it has in the end. -/
structure Faithful (watched : String → Prop) (before after : Store) (added : List Event) :
    Prop where
  complete : ∀ uri, watched uri → after.get? uri ≠ before.get? uri → IsAnnounced uri added
  final : ∀ uri shown front behind, watched uri →
    added = front ++ .announced uri shown :: behind → ¬IsAnnounced uri behind →
      shown.get? uri = after.get? uri

namespace Faithful

variable {watched : String → Prop} {before middle after : Store} {front behind added : List Event}

theorem kept (faithful : Faithful watched before after added) {uri : String}
    (watches : watched uri) (silent : ¬IsAnnounced uri added) :
    after.get? uri = before.get? uri := by
  by_cases same : after.get? uri = before.get? uri
  · exact same
  · exact absurd (faithful.complete uri watches same) silent

theorem mono {other : String → Prop} (faithful : Faithful watched before after added)
    (fewer : ∀ uri, other uri → watched uri) : Faithful other before after added :=
  ⟨fun uri watches => faithful.complete uri (fewer uri watches),
    fun uri shown front behind watches => faithful.final uri shown front behind (fewer uri watches)⟩

/-- Nothing is announced, and no watched source changes. -/
theorem silent (plain : ∀ uri, ¬IsAnnounced uri added)
    (same : ∀ uri, watched uri → after.get? uri = before.get? uri) :
    Faithful watched before after added := by
  refine ⟨fun uri watches differs => absurd (same uri watches) differs, ?_⟩
  rintro uri shown front behind _ rfl _
  exact absurd ⟨shown, by simp⟩ (plain uri)

/-- The early part need not care for what the late part announces. -/
theorem append
    (early : Faithful (fun uri => watched uri ∧ ¬IsAnnounced uri behind) before middle front)
    (late : Faithful watched middle after behind) :
    Faithful watched before after (front ++ behind) := by
  constructor
  · intro uri watches differs
    rw [isAnnounced_append]
    by_cases announced : IsAnnounced uri behind
    · exact .inr announced
    · rw [late.kept watches announced] at differs
      exact .inl (early.complete uri ⟨watches, announced⟩ differs)
  · intro uri shown first others watches split last
    rcases List.append_eq_append_iff.mp split with ⟨rest, _, tail⟩ | ⟨rest, whole, tail⟩
    · exact late.final uri shown rest others watches tail last
    · cases rest with
      | nil => exact late.final uri shown [] others watches tail.symm last
      | cons event rest =>
        -- The last announcement is an early one, so the late part did not change the source.
        rw [List.cons_append, List.cons.injEq] at tail
        obtain ⟨rfl, rfl⟩ := tail
        rw [isAnnounced_append, not_or] at last
        rw [late.kept watches last.2]
        exact early.final uri shown first rest ⟨watches, last.2⟩ whole last.1

theorem announced (uri : String) (late : Faithful watched middle after behind) :
    Faithful watched middle after (.announced uri middle :: behind) := by
  constructor
  · intro other watches differs
    exact isAnnounced_cons.mpr (.inr (late.complete other watches differs))
  · intro other shown front tail watches split last
    cases front with
    | nil =>
      cases split
      exact (late.kept watches last).symm
    | cons event rest =>
      rw [List.cons_append, List.cons.injEq] at split
      exact late.final other shown rest tail watches split.2 last

end Faithful

namespace Registry

variable {watched : String → Prop} {symbols : String → ItemMap} {settings : Settings}
  {registry earlier middle later : Registry}

/-- What the later registry did since is faithful to what changed. -/
def Tells (watched : String → Prop) (earlier later : Registry) : Prop :=
  ∃ added, later.events = earlier.events ++ added ∧
    Faithful watched earlier.store later.store added

namespace Tells

theorem silent {added : List Event} (events : later.events = earlier.events ++ added)
    (plain : ∀ uri, ¬IsAnnounced uri added)
    (same : ∀ uri, watched uri → later.store.get? uri = earlier.store.get? uri) :
    Tells watched earlier later :=
  ⟨added, events, .silent plain same⟩

theorem of_eq (events : later.events = earlier.events) (store : later.store = earlier.store) :
    Tells watched earlier later :=
  ⟨[], by rw [events, List.append_nil], .silent (by simp [IsAnnounced]) (by simp [store])⟩

theorem refl (registry : Registry) : Tells watched registry registry :=
  .of_eq rfl rfl

theorem trans (early : Tells watched earlier middle) (late : Tells watched middle later) :
    Tells watched earlier later := by
  obtain ⟨front, earlyEvents, earlyFaithful⟩ := early
  obtain ⟨behind, lateEvents, lateFaithful⟩ := late
  exact ⟨front ++ behind, by rw [lateEvents, earlyEvents, List.append_assoc],
    (earlyFaithful.mono fun _ watches => watches.1).append lateFaithful⟩

theorem of_withoutLoads_eq {changed : Registry} (told : Tells watched earlier later)
    (same : changed.withoutLoads = later.withoutLoads) : Tells watched earlier changed :=
  told.trans (.of_eq (events_eq_of_outward_eq (outward_eq_of_withoutLoads_eq same))
    (store_eq_of_withoutLoads_eq same))

theorem bind {first second : Action Unit}
    (started : Tells watched registry (outcome first registry).2)
    (goes : (outcome first registry).1 = .ok () →
      Tells watched (outcome first registry).2 (outcome second (outcome first registry).2).2) :
    Tells watched registry (outcome (first >>= fun _ => second) registry).2 :=
  snd_outcome_bind started fun _ ran => started.trans (goes ran)

end Tells

/-- A rebuild of the snippets is announced, or changes nothing, as far as they are watched. -/
structure IsReady (watched : String → Prop) (registry : Registry) : Prop where
  unshared : registry.store.shares = .empty
  snippets : watched Source.snippet →
    templateFault? registry.settings.templates = none ∨ SnippetsCurrent registry

theorem Holds.isReady (holds : Holds symbols registry)
    (fit : watched Source.snippet → templateFault? registry.settings.templates = none) :
    IsReady watched registry :=
  ⟨holds.unshared, fun watches => .inl (fit watches)⟩

theorem Settled.isReady (settled : Settled settings symbols registry) : IsReady watched registry :=
  ⟨settled.holds.unshared, fun _ => .inr settled.current⟩

theorem shares_snippetStore (registry : Registry) :
    registry.snippetStore.shares = registry.store.shares := by
  rw [snippetStore]
  split
  · rfl
  · rfl

theorem snippetStore_eq_self (unshared : registry.store.shares = .empty)
    (current : SnippetsCurrent registry) : registry.snippetStore = registry.store := by
  rw [snippetStore]
  split
  · exact Store.setMap_eq_self unshared current
  · rfl

namespace IsReady

theorem congr (ready : IsReady watched earlier) (same : later.settings = earlier.settings)
    (store : later.store = earlier.store) : IsReady watched later := by
  refine ⟨by rw [store]; exact ready.unshared, fun watches => ?_⟩
  rw [same]
  exact (ready.snippets watches).imp_right fun current => current.congr (by rw [same]) store

theorem of_refreshes (ready : IsReady watched earlier) (refreshed : Refreshes earlier later) :
    IsReady watched later := by
  have settings := refreshed.settings_eq
  rcases refreshed with kept | rebuilt
  · exact ready.congr settings (store_eq_of_core_eq kept)
  · rw [← core_withSnippets] at rebuilt
    have store : later.store = earlier.snippetStore := store_eq_of_core_eq rebuilt
    refine ⟨by rw [store, shares_snippetStore, ready.unshared], fun watches => ?_⟩
    rw [settings]
    refine (ready.snippets watches).imp_right fun current => ?_
    rw [snippetStore_eq_self ready.unshared current] at store
    exact current.congr (by rw [settings]) store

end IsReady

/-!
## Listeners
-/

theorem tells_callListener {rebuild : Registry → Registry} {uri name : String}
    (rebuilds : ∀ start, IsReady watched start → Tells watched start (rebuild start))
    (ready : IsReady watched registry) :
    Tells watched registry (callListener rebuild uri registry name) := by
  have entered : Tells watched registry (registry.calling name uri) :=
    .silent rfl (by simp [IsAnnounced]) (fun _ _ => rfl)
  have failed (start : Registry) (reason : LooseText) :
      Tells watched start (start.recordFailure uri reason) :=
    .silent rfl (by simp [IsAnnounced]) (fun _ _ => rfl)
  have rebuilt := entered.trans (rebuilds _ (ready.congr rfl rfl))
  simp only [callListener]
  split
  case h_1 => exact entered
  case h_2 => exact entered.trans (failed _ _)
  case h_3 => exact entered.trans (.of_eq rfl rfl)
  case h_4 => exact entered.trans (.of_eq rfl rfl)
  case h_5 =>
    split
    · exact rebuilt
    · exact rebuilt.trans (failed _ _)

theorem tells_foldl_callListener {rebuild : Registry → Registry} {uri : String}
    (refreshes : ∀ start, Refreshes start (rebuild start))
    (rebuilds : ∀ start, IsReady watched start → Tells watched start (rebuild start))
    (names : List String) (ready : IsReady watched registry) :
    Tells watched registry (names.foldl (callListener rebuild uri) registry) := by
  induction names generalizing registry with
  | nil => exact .refl registry
  | cons name rest ih =>
    have stays := ready.of_refreshes (callListener_refreshes refreshes uri registry name)
    exact (tells_callListener rebuilds ready).trans (ih stays)

/-- Whatever led to the content of a source, its announcement tells it. -/
theorem Tells.notifyWith {rebuild : Registry → Registry} {uri : String}
    (refreshes : ∀ start, Refreshes start (rebuild start))
    (rebuilds : ∀ start, IsReady watched start → Tells watched start (rebuild start))
    (ready : IsReady watched registry)
    (prepared : Tells (fun other => watched other ∧ other ≠ uri) earlier registry) :
    Tells watched earlier (Registry.notifyWith rebuild uri registry) := by
  have entered : IsReady watched (registry.emit (.announced uri registry.store)) :=
    ready.congr rfl rfl
  obtain ⟨front, frontEvents, early⟩ := prepared
  obtain ⟨told, events, late⟩ :=
    tells_foldl_callListener refreshes rebuilds registry.listeners entered
  refine ⟨front ++ .announced uri registry.store :: told, ?_, ?_⟩
  · rw [Registry.notifyWith, events, emit, frontEvents]
    simp
  · refine Faithful.append (early.mono ?_) (late.announced uri)
    rintro other ⟨watches, silent⟩
    refine ⟨watches, ?_⟩
    rintro rfl
    exact silent (isAnnounced_cons.mpr (.inl ⟨registry.store, rfl⟩))

/-!
## Rebuilds
-/

/-- Records are made and one source is replaced, which is left to be announced. -/
theorem tells_stored (unshared : registry.store.shares = .empty) (records : List Record)
    (uri : String) (kind : Kind) (items : ItemMap) :
    Tells (fun other => watched other ∧ other ≠ uri) registry
      { registry.recordAll records with store := registry.store.setMap uri kind items } := by
  refine .silent rfl (by simp [IsAnnounced]) ?_
  rintro other ⟨_, different⟩
  exact Store.get?_setMap_of_ne unshared different kind items

/-- A partition is installed, which is left to be announced. -/
theorem tells_installed (uri : String) (partition : Partition) (registry : Registry) :
    Tells (fun other => watched other ∧ other ≠ uri) registry
      { registry with store := registry.store.install uri partition } := by
  refine ⟨[], (List.append_nil _).symm, .silent (by simp [IsAnnounced]) ?_⟩
  rintro other ⟨_, different⟩
  exact (Store.get?_install _ _ _ _).trans (if_neg (Ne.symm different))

theorem Tells.recordAll (told : Tells watched earlier later) (records : List Record) :
    Tells watched earlier (later.recordAll records) :=
  told.trans (.silent rfl (by simp [IsAnnounced]) fun _ _ => rfl)

theorem Tells.record {level : Level} {text : String} (told : Tells watched earlier later) :
    Tells watched earlier (later.record level text) :=
  told.recordAll [⟨level, .registry, text⟩]

theorem updateSnippetsWithin_tells (depth : Nat) (ready : IsReady watched registry) :
    Tells watched registry (updateSnippetsWithin depth registry) := by
  induction depth generalizing registry with
  | zero => exact .refl registry
  | succ depth ih =>
    rw [updateSnippetsWithin]
    cases found : registry.store.map? Source.snippet .snippet with
    | none => exact .refl registry
    | some target =>
      by_cases row : registry.settings.templates.isRow = true
      · simp only [row, if_true]
        cases fault : templateFault? registry.settings.templates with
        | none =>
          refine .notifyWith (updateSnippetsWithin_refreshes depth) (fun start => ih)
            ⟨ready.unshared, fun _ => .inl fault⟩ ?_
          exact (tells_stored ready.unshared _ _ _ _).record
        | some fault =>
          refine .silent rfl (by simp [IsAnnounced]) fun other watches => ?_
          by_cases same : other = Source.snippet
          · subst same
            have current : SnippetsCurrent registry := by simpa [fault] using ready.snippets watches
            exact congrArg (Store.get? · Source.snippet)
              (Store.setMap_eq_self ready.unshared current)
          · exact Store.get?_setMap_of_ne ready.unshared same _ _
      · simp only [row]
        exact .refl registry

theorem updateSnippets_tells (ready : IsReady watched registry) :
    Tells watched registry (updateSnippets registry) :=
  updateSnippetsWithin_tells (nestingLimit + 1) ready

theorem Tells.notify {uri : String} (ready : IsReady watched registry)
    (prepared : Tells (fun other => watched other ∧ other ≠ uri) earlier registry) :
    Tells watched earlier (registry.notify uri) :=
  .notifyWith updateSnippets_refreshes (fun _ => updateSnippets_tells) ready prepared

theorem tells_updateMnemonics {uri : String} {lines : Lines} (holds : Holds symbols registry)
    (member : uri ∈ mnemonicSources) (proper : lines.IsProper)
    (fit : watched Source.snippet → templateFault? registry.settings.templates = none) :
    Tells watched registry (updateMnemonics uri lines registry) := by
  obtain ⟨texts, rfl⟩ := proper
  obtain ⟨target, found⟩ := Option.isSome_iff_exists.mp (holds.isSome_map? member)
  simp only [updateMnemonics, found, Lines.flaw?_texts]
  have ready : IsReady watched (registry.withMnemonics uri texts) :=
    (holds.withMnemonics uri texts).isReady fit
  have rebuilt : Tells watched registry (registry.rebuildMnemonics uri (.texts texts) target) :=
    .notify (ready.congr rfl rfl) (tells_stored holds.unshared _ uri .member _).record
  have refreshes : Refreshes (registry.withMnemonics uri texts)
      (registry.rebuildMnemonics uri (.texts texts) target) := notify_refreshes uri _
  exact rebuilt.trans (updateSnippets_tells (ready.of_refreshes refreshes))

theorem tells_mnemonicsWhen (holds : Holds symbols registry)
    (settled : registry.settings.IsProper) {uri : String} (member : uri ∈ mnemonicSources)
    (fit : watched Source.snippet → templateFault? registry.settings.templates = none)
    (affected : Bool) :
    Tells watched registry (outcome (mnemonicsWhen affected uri) registry).2 := by
  rw [outcome_mnemonicsWhen]
  cases affected with
  | false => exact .refl registry
  | true => exact tells_updateMnemonics holds member (settled.linesOf uri) fit

theorem tells_snippetsWhen (ready : IsReady watched registry) (affected : Bool) :
    Tells watched registry
      (outcome (if affected then requestSnippets else pure ()) registry).2 := by
  cases affected with
  | false => exact .refl registry
  | true =>
    have requested : outcome (if true then requestSnippets else pure ()) registry =
        (resultOf registry.snippetFault?, updateSnippets registry) := outcome_attempt _ _ _
    rw [requested]
    exact updateSnippets_tells ready

theorem tells_rebuildAffected (holds : Holds symbols registry)
    (settled : registry.settings.IsProper) (change : Change)
    (fit : watched Source.snippet → templateFault? registry.settings.templates = none) :
    Tells watched registry (outcome (rebuildAffected change) registry).2 := by
  rw [rebuildAffected_eq]
  have motors := rebuilt_mnemonicsWhen holds settled (show Source.motor ∈ mnemonicSources by decide)
    (change.affectsField .motors)
  refine (tells_mnemonicsWhen holds settled (by decide) fit _).bind fun ran => ?_
  have held := motors.complete ran
  rw [← motors.settings] at settled fit
  have counters := rebuilt_mnemonicsWhen held settled
    (show Source.counter ∈ mnemonicSources by decide) (change.affectsField .counters)
  refine (tells_mnemonicsWhen held settled (by decide) fit _).bind fun continued => ?_
  rw [← counters.settings] at fit
  exact tells_snippetsWhen ((counters.complete continued).isReady fit) _

/-!
## Operations
-/

/-- The sources of which an operation tells: all of them, but not the snippets if it is stopped. -/
def watchedBy (fault? : Option Fault) (uri : String) : Prop :=
  uri = Source.snippet → fault? = none

namespace Settled

theorem tells_installDatabase (settled : Settled settings symbols registry)
    (location : Location) (partition : Partition) :
    Tells watched registry (Registry.installDatabase location partition registry) := by
  rw [installDatabase_eq]
  refine .notify ((settled.withDatabase partition).isReady.congr rfl rfl) ?_
  exact (tells_installed _ partition registry).recordAll _

theorem tells_endLoad (settled : Settled settings symbols registry)
    (location : Location) (fetched : Except Database.FetchError Partition) :
    Tells watched registry ((Operation.endLoad location fetched).after registry) := by
  rw [after_endLoad]
  cases fetched with
  | ok partition => exact settled.tells_installDatabase location partition
  | error reason => exact .refl registry

theorem tells_stepLoad (settled : Settled settings symbols registry) (number : Nat) :
    Tells watched registry (registry.stepLoad number) := by
  have step := loadStep_stepLoad number registry
  generalize registry.stepLoad number = stepped at step
  cases step with
  | absent _ => exact .refl registry
  | ended _ _ => exact .refl registry
  | cancelled _ _ _ => exact .of_eq rfl rfl
  | started _ => exact .of_eq rfl rfl
  | waiting _ => exact .refl registry
  | @finished location outcome _ =>
    have finished : Tells watched registry (registry.finished location outcome) := by
      cases outcome with
      | ok partition => exact settled.tells_installDatabase location partition
      | error reason =>
        cases reason with
        | unnameable fault => exact .refl registry
        | malformed reason =>
          refine .silent rfl ?_ fun _ _ => rfl
          cases registry.window <;> simp [IsAnnounced, reportEvents]
    exact finished.trans (.of_eq rfl rfl)

theorem tells_configurationChanged (settled : Settled settings symbols registry) (inLoop : Bool)
    {change : Change} {adopted : Option Settings}
    (proper : (adopted.getD registry.settings).IsProper) :
    Tells (watchedBy (faultOf
        (outcome (Registry.configurationChanged inLoop change adopted) registry).1)) registry
      (outcome (Registry.configurationChanged inLoop change adopted) registry).2 := by
  rw [outcome_configurationChanged]
  split
  · exact .refl registry
  · have holds : Holds symbols (registry.adopt (adopted.getD registry.settings)) :=
      settled.holds.congr rfl
    have rebuilt := rebuilt_rebuildAffected holds proper change
    rw [fst_andSchedule]
    refine Tells.of_withoutLoads_eq ?_ (withoutLoads_andSchedule change _)
    have adopts (watched : String → Prop) :
        Tells watched registry (registry.adopt (adopted.getD registry.settings)) := .of_eq rfl rfl
    refine (adopts _).trans ?_
    cases affected : change.affectsLines with
    | false =>
      rw [rebuilt.untouched affected]
      exact .refl _
    | true =>
      refine tells_rebuildAffected holds proper change fun watches => ?_
      have unstopped := watches rfl
      rwa [rebuilt.result, affected, if_pos rfl, faultOf_resultOf] at unstopped

/-- An operation tells of what it changes. If a template stops it, the snippets are left out. -/
theorem tells (settled : Settled settings symbols registry) {operation : Operation}
    (proper : operation.IsProper) :
    Tells (watchedBy (operation.fault? registry)) registry (operation.after registry) := by
  have aside (same : (operation.after registry).withoutLoads = registry.withoutLoads) :
      Tells (watchedBy (operation.fault? registry)) registry (operation.after registry) :=
    (Tells.refl registry).of_withoutLoads_eq same
  cases operation with
  | apply inLoop adopted =>
    rw [Operation.fault?, Operation.after, outcome_applySettings]
    exact settled.tells_configurationChanged inLoop proper
  | react inLoop change =>
    exact settled.tells_configurationChanged inLoop settled.settingsProper
  | rebuildMnemonics uri lines =>
    obtain ⟨known, lines_proper⟩ := proper
    have member : uri ∈ mnemonicSources := mem_mnemonicSources.mpr known
    rw [Operation.fault?, Operation.after, Operation.action, requestMnemonics, outcome_attempt]
    refine tells_updateMnemonics settled.holds member lines_proper fun watches => ?_
    have unstopped := watches rfl
    rwa [faultOf_resultOf, mnemonicFault?_eq settled.holds member lines_proper] at unstopped
  | rebuildSnippets =>
    rw [Operation.fault?, Operation.after, Operation.action, requestSnippets, outcome_attempt]
    exact updateSnippets_tells settled.isReady
  | load read path =>
    rw [after_load]
    exact settled.tells_endLoad _ _
  | endLoad location fetched => exact settled.tells_endLoad location fetched
  | activate partition =>
    have installed := settled.install (show Source.activeDocument ∉ _ by decide) partition
    exact .notify installed.isReady (tells_installed _ partition registry)
  | listen name listener => exact .of_eq rfl rfl
  | unlisten name => exact .of_eq rfl rfl
  | startup => exact aside (withoutLoads_scheduleLoad registry)
  | step number => exact settled.tells_stepLoad number
  | deliver number fetched => exact aside rfl
  | beginShutdown => exact aside (withoutLoads_beginShutdown registry)
  | endShutdown number => exact aside (withoutLoads_endShutdown number registry)

end Settled

end Registry

end SpecLexicon
