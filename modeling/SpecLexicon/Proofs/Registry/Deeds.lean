import SpecLexicon.Proofs.Mnemonic
import SpecLexicon.Proofs.Registry.Settled
import SpecLexicon.Proofs.Template.Rebuild

/-!
# The deeds of a registry

A registry writes records, uses the window, and announces which sources changed. What listeners do
when they are told, a rebuild of the snippets included, is theirs. The deeds of an operation are
what the registry does by itself, in order; they are the same whoever listens.
-/

set_option autoImplicit false

namespace SpecLexicon

/-- An event that concerns listeners. -/
def Event.isNotice : Event → Bool
  | announced _ _ => true
  | called _ _ => true
  | _ => false

/-- The record of a rebuild in which the snippets were compiled. -/
def Record.isCompilation (record : Record) : Bool :=
  record.level == .debug && record.channel == .registry &&
    (LooseText.text ("Rebuilt " ++ Source.snippet)).points.isPrefixOf record.text.points

/-- The event records that the snippets were compiled. -/
def Event.isCompilation : Event → Bool
  | recorded record => record.isCompilation
  | _ => false

namespace Registry

/-- Something that a registry does by itself. An announcement shows the store of that moment and is
made to the listeners of that moment. -/
inductive Deed where
  | acted (event : Event)
  | announced (uri : String) (shown : Store) (heard : List String)

namespace Deed

def announcement? : Deed → Option (String × Store)
  | acted _ => none
  | announced uri shown _ => some (uri, shown)

def isCompilation : Deed → Bool
  | acted event => event.isCompilation
  | announced _ _ _ => false

end Deed

/-- The announcements of deeds, each with the store that it shows. -/
def announcementsOf (deeds : List Deed) : List (String × Store) :=
  deeds.filterMap Deed.announcement?

def sourcesOf (deeds : List Deed) : List String :=
  (announcementsOf deeds).map Prod.fst

def compilationsOf (deeds : List Deed) : Nat :=
  deeds.countP Deed.isCompilation

/-- What a registry has besides what it holds: its listeners and what it did to the outside. -/
def outward (registry : Registry) :
    List String × OrderedMap String Listener × Nat × List Event :=
  (registry.listeners, registry.known, registry.calls, registry.events)

section Outward

variable {left right : Registry}

theorem listeners_eq_of_outward_eq (same : left.outward = right.outward) :
    left.listeners = right.listeners := by
  have projected := congrArg Prod.fst same
  exact projected

theorem known_eq_of_outward_eq (same : left.outward = right.outward) :
    left.known = right.known := by
  have projected := congrArg (fun view => view.2.1) same
  exact projected

theorem events_eq_of_outward_eq (same : left.outward = right.outward) :
    left.events = right.events := by
  have projected := congrArg (fun view => view.2.2.2) same
  exact projected

end Outward

/-- The later registry came from the earlier one by these deeds in this order. What it holds may
change in between, and listeners do what they want when something is announced to them. -/
inductive Performed : List Deed → Registry → Registry → Prop where
  | nil {earlier later : Registry} : later.outward = earlier.outward → Performed [] earlier later
  | acted {event : Event} {deeds : List Deed} {earlier middle later : Registry} :
      event.isNotice = false → middle.outward = (earlier.emit event).outward →
      Performed deeds middle later → Performed (.acted event :: deeds) earlier later
  | announced {uri : String} {depth : Nat} {deeds : List Deed} {earlier middle later : Registry} :
      middle.outward = earlier.outward →
      Performed deeds (notifyWith (updateSnippetsWithin depth) uri middle) later →
      Performed (.announced uri middle.store middle.listeners :: deeds) earlier later

namespace Performed

variable {deeds front behind : List Deed} {earlier middle later other : Registry}

theorem congr_left (performed : Performed deeds earlier later)
    (same : other.outward = earlier.outward) : Performed deeds other later := by
  cases performed with
  | nil kept => exact .nil (kept.trans same.symm)
  | @acted event rest _ next _ plain emitted performed =>
    refine .acted plain (emitted.trans ?_) performed
    simp only [outward, Prod.mk.injEq] at same
    simp [outward, emit, same]
  | announced kept performed => exact .announced (kept.trans same.symm) performed

theorem congr_right (performed : Performed deeds earlier later)
    (same : other.outward = later.outward) : Performed deeds earlier other := by
  induction performed with
  | nil kept => exact .nil (same.trans kept)
  | acted plain emitted _ ih => exact .acted plain emitted (ih same)
  | announced kept _ ih => exact .announced kept (ih same)

theorem append (early : Performed front earlier middle) (late : Performed behind middle later) :
    Performed (front ++ behind) earlier later := by
  induction early with
  | nil kept => exact late.congr_left kept.symm
  | acted plain emitted _ ih => exact .acted plain emitted (ih late)
  | announced kept _ ih => exact .announced kept (ih late)

theorem acts {events : List Event} (plain : ∀ event ∈ events, event.isNotice = false)
    (registry : Registry) : Performed (events.map .acted) registry
      { registry with events := registry.events ++ events } := by
  induction events generalizing registry with
  | nil => exact .nil (by simp [outward])
  | cons event rest ih =>
    obtain ⟨first, others⟩ := List.forall_mem_cons.mp plain
    refine .acted first rfl ((ih others (registry.emit event)).congr_right ?_)
    simp [outward, emit]

theorem notify (uri : String) (registry : Registry) :
    Performed [.announced uri registry.store registry.listeners] registry (registry.notify uri) :=
  .announced rfl (.nil rfl)

end Performed

/-- By its deeds the registry announced these sources in this order, and it compiled the snippets as
often as it announced them. -/
def Announces (sources : List String) (earlier later : Registry) : Prop :=
  ∃ deeds, Performed deeds earlier later ∧ sourcesOf deeds = sources ∧
    compilationsOf deeds = sources.count Source.snippet

namespace Announces

variable {front behind : List String} {earlier middle later other : Registry}

theorem nil (same : later.outward = earlier.outward) : Announces [] earlier later :=
  ⟨[], .nil same, rfl, rfl⟩

theorem append (early : Announces front earlier middle) (late : Announces behind middle later) :
    Announces (front ++ behind) earlier later := by
  obtain ⟨first, firstPerformed, rfl, firstCount⟩ := early
  obtain ⟨second, secondPerformed, rfl, secondCount⟩ := late
  refine ⟨first ++ second, firstPerformed.append secondPerformed, ?_, ?_⟩
  · rw [sourcesOf, announcementsOf, List.filterMap_append, List.map_append]
    rfl
  · rw [compilationsOf] at firstCount secondCount ⊢
    rw [List.countP_append, List.count_append, firstCount, secondCount]

theorem congr_left (announces : Announces front earlier later)
    (same : other.outward = earlier.outward) : Announces front other later := by
  obtain ⟨deeds, performed, counted⟩ := announces
  exact ⟨deeds, performed.congr_left same, counted⟩

theorem congr_right (announces : Announces front earlier later)
    (same : other.outward = later.outward) : Announces front earlier other := by
  obtain ⟨deeds, performed, counted⟩ := announces
  exact ⟨deeds, performed.congr_right same, counted⟩

theorem acts {events : List Event} (plain : ∀ event ∈ events, event.isNotice = false)
    (others : ∀ event ∈ events, event.isCompilation = false) (registry : Registry) :
    Announces [] registry { registry with events := registry.events ++ events } := by
  refine ⟨_, .acts plain registry, ?_, ?_⟩
  · rw [sourcesOf, announcementsOf, List.filterMap_map, List.map_eq_nil_iff,
      List.filterMap_eq_nil_iff]
    exact fun _ _ => rfl
  · rw [compilationsOf, List.countP_map, List.count_nil, List.countP_eq_zero]
    intro event member compilation
    rw [Function.comp_apply, Deed.isCompilation, others event member] at compilation
    cases compilation

theorem recordAll {records : List Record}
    (others : ∀ record ∈ records, record.isCompilation = false) (registry : Registry) :
    Announces [] registry (registry.recordAll records) := by
  refine .acts ?_ ?_ registry
  · intro event member
    obtain ⟨record, _, rfl⟩ := List.mem_map.mp member
    rfl
  · intro event member
    obtain ⟨record, recorded, rfl⟩ := List.mem_map.mp member
    exact others record recorded

theorem record {level : Level} {text : String}
    (other : Record.isCompilation ⟨level, .registry, text⟩ = false) (registry : Registry) :
    Announces [] registry (registry.record level text) := by
  have recorded : Announces [] registry (registry.recordAll [⟨level, .registry, text⟩]) :=
    .recordAll (by simpa using other) registry
  exact recorded.congr_right rfl

theorem notify {uri : String} (different : uri ≠ Source.snippet) (registry : Registry) :
    Announces [uri] registry (registry.notify uri) := by
  refine ⟨_, .notify uri registry, rfl, ?_⟩
  rw [List.count_singleton, if_neg (by simpa using different)]
  rfl

/-- One piece of work after another. The second one announces nothing if the first is refused. -/
theorem bind {first second : Action Unit} {registry : Registry}
    (started : Announces front registry (outcome first registry).2)
    (goes : (outcome first registry).1 = .ok () →
      Announces behind (outcome first registry).2 (outcome second (outcome first registry).2).2)
    (stops : (outcome first registry).1 ≠ .ok () → behind = []) :
    Announces (front ++ behind) registry (outcome (first >>= fun _ => second) registry).2 := by
  rw [outcome_bind]
  generalize outcome first registry = ran at started goes stops
  obtain ⟨given, changed⟩ := ran
  cases given with
  | ok value => exact started.append (goes rfl)
  | error fault =>
    rw [stops (by simp), List.append_nil]
    exact started

end Announces

/-!
## Rebuilds
-/

variable {symbols : String → ItemMap} {registry : Registry}

theorem isCompilation_of_mem_mnemonics {target : ItemMap} {lines : List LooseText}
    {record : Record} (member : record ∈ (Mnemonic.rebuild target lines).journal) :
    record.isCompilation = false := by
  rw [Mnemonic.rebuild_eq] at member
  obtain ⟨text, _, rfl⟩ := List.mem_map.mp member
  rfl

theorem isCompilation_of_mem_templates {motors counters : List String} {target : ItemMap}
    {lines : List LooseText} {record : Record}
    (member : record ∈ (Template.rebuild motors counters target lines).journal) :
    record.isCompilation = false := by
  rw [(Template.compiled_rebuild motors counters target lines).journal] at member
  obtain ⟨text, _, rfl⟩ := List.mem_map.mp member
  rfl

theorem isCompilation_of_prefix {text : String}
    (starts : ("Rebuilt " ++ Source.snippet).toList <+: text.toList) :
    Record.isCompilation ⟨.debug, .registry, text⟩ = true := by
  have points : (LooseText.text ("Rebuilt " ++ Source.snippet)).points <+:
      (LooseText.text text).points := starts.map CodePoint.char
  rw [Record.isCompilation, List.isPrefixOf_iff_prefix.mpr points]
  rfl

theorem announces_compiled {text : String}
    (starts : ("Rebuilt " ++ Source.snippet).toList <+: text.toList) (depth : Nat)
    (registry : Registry) :
    Announces [Source.snippet] registry (notifyWith (updateSnippetsWithin depth) Source.snippet
      (registry.record .debug text)) := by
  refine ⟨[.acted (.recorded ⟨.debug, .registry, text⟩), .announced _ _ _],
    .acted rfl rfl (.announced rfl (.nil rfl)), rfl, ?_⟩
  rw [compilationsOf, List.countP_cons, Deed.isCompilation, Event.isCompilation,
    isCompilation_of_prefix starts]
  rfl

/-- What a rebuild of the snippets announces: a template without a symbol stops it before. -/
def refreshed (templates : Lines) : List String :=
  match templateFault? templates with
  | none => [Source.snippet]
  | some _ => []

/-- What a rebuild of the snippets announces, if there is a place and there are templates for it. -/
def snippetSources (registry : Registry) : List String :=
  if (registry.store.map? Source.snippet .snippet).isSome && registry.settings.templates.isRow
  then refreshed registry.settings.templates
  else []

theorem snippetSources_eq (place : (registry.store.map? Source.snippet .snippet).isSome = true)
    (row : registry.settings.templates.isRow = true) :
    registry.snippetSources = refreshed registry.settings.templates := by
  simp [snippetSources, place, row]

theorem announces_updateSnippets (registry : Registry) :
    Announces registry.snippetSources registry (updateSnippets registry) := by
  rw [updateSnippets, updateSnippetsWithin, snippetSources]
  cases found : registry.store.map? Source.snippet .snippet with
  | none => exact .nil rfl
  | some target =>
    by_cases row : registry.settings.templates.isRow = true
    · have compiled : Announces [] registry
          { registry.recordAll (registry.compileSnippets target).journal with
            store := registry.store.setMap Source.snippet .snippet
              (registry.compileSnippets target).items } :=
        (Announces.recordAll (fun _ => isCompilation_of_mem_templates) registry).congr_right rfl
      simp only [row, Option.isSome_some, Bool.and_self, if_true, refreshed]
      cases templateFault? registry.settings.templates with
      | some fault => exact compiled
      | none =>
        refine compiled.append (announces_compiled ?_ nestingLimit _)
        simp only [String.toList_append, List.append_assoc]
        exact (List.prefix_append_right_inj _).mpr (List.prefix_append _ _)
    · simp only [row, Bool.and_false, Bool.false_eq_true, if_false]
      exact .nil rfl

theorem announces_rebuildMnemonics {uri : String} (different : uri ≠ Source.snippet)
    (texts : List LooseText) (target : ItemMap) (registry : Registry) :
    Announces [uri] registry (registry.rebuildMnemonics uri (.texts texts) target) := by
  have built : Announces [] registry
      { registry.recordAll (Mnemonic.rebuild target texts).journal with
        store := registry.store.setMap uri .member (Mnemonic.rebuild target texts).items } :=
    (Announces.recordAll (fun _ => isCompilation_of_mem_mnemonics) registry).congr_right rfl
  exact built.append ((Announces.record rfl _).append (.notify different _))

theorem announces_updateMnemonics {uri : String} {lines : Lines} (holds : Holds symbols registry)
    (settled : registry.settings.IsProper) (member : uri ∈ mnemonicSources)
    (proper : lines.IsProper) :
    Announces (uri :: refreshed registry.settings.templates) registry
      (updateMnemonics uri lines registry) := by
  obtain ⟨texts, rfl⟩ := proper
  have different : uri ≠ Source.snippet := by
    rintro rfl
    exact absurd member (by decide)
  obtain ⟨target, found⟩ := Option.isSome_iff_exists.mp (holds.isSome_map? member)
  simp only [updateMnemonics, found, Lines.flaw?_texts]
  have refreshes : Refreshes (registry.withMnemonics uri texts)
      (registry.rebuildMnemonics uri (.texts texts) target) := notify_refreshes uri _
  have rebuilt : Holds _ (registry.rebuildMnemonics uri (.texts texts) target) :=
    (holds.withMnemonics uri texts).of_refreshes refreshes
  have kept : (registry.rebuildMnemonics uri (.texts texts) target).settings = registry.settings :=
    refreshes.settings_eq
  have compiled := announces_updateSnippets (registry.rebuildMnemonics uri (.texts texts) target)
  rw [snippetSources_eq rebuilt.place (by rw [kept]; exact settled.isRow), kept] at compiled
  exact (announces_rebuildMnemonics different texts target registry).append compiled

/-!
## Changes of the configuration
-/

/-- The sources that a change affects, each mnemonic one with the snippets behind it. A template
without a symbol ends the work at the first source. -/
def affectedSources (change : Change) (templates : Lines) : List String :=
  let motors := if change.affectsField .motors then Source.motor :: refreshed templates else []
  let counters :=
    if change.affectsField .counters then Source.counter :: refreshed templates else []
  let alone := if change.affectsField .templates && !change.affectsField .motors &&
    !change.affectsField .counters then refreshed templates else []
  motors ++ if change.affectsField .motors && (templateFault? templates).isSome then []
    else counters ++ alone

theorem Rebuilt.ok_iff {affected : Bool} {expected : String → ItemMap} {before : Registry}
    {after : Except Fault Unit × Registry} (rebuilt : Rebuilt affected expected before after) :
    after.1 = .ok () ↔
      (affected && (templateFault? before.settings.templates).isSome) = false := by
  rw [rebuilt.result]
  cases affected with
  | false => simp
  | true => cases templateFault? before.settings.templates <;> simp [resultOf]

theorem announces_mnemonicsWhen (holds : Holds symbols registry)
    (settled : registry.settings.IsProper) {uri : String} (member : uri ∈ mnemonicSources)
    (affected : Bool) :
    Announces (if affected then uri :: refreshed registry.settings.templates else []) registry
      (outcome (mnemonicsWhen affected uri) registry).2 := by
  rw [outcome_mnemonicsWhen]
  cases affected with
  | false => exact .nil rfl
  | true => exact announces_updateMnemonics holds settled member (settled.linesOf uri)

theorem announces_snippetsWhen (holds : Holds symbols registry)
    (settled : registry.settings.IsProper) (affected : Bool) :
    Announces (if affected then refreshed registry.settings.templates else []) registry
      (outcome (if affected then requestSnippets else pure ()) registry).2 := by
  cases affected with
  | false => exact .nil rfl
  | true =>
    have requested : outcome (if true then requestSnippets else pure ()) registry =
        (resultOf registry.snippetFault?, updateSnippets registry) := outcome_attempt _ _ _
    rw [requested, if_pos rfl, ← snippetSources_eq holds.place settled.isRow]
    exact announces_updateSnippets registry

theorem announces_rebuildAffected (holds : Holds symbols registry)
    (settled : registry.settings.IsProper) (change : Change) :
    Announces (affectedSources change registry.settings.templates) registry
      (outcome (rebuildAffected change) registry).2 := by
  rw [rebuildAffected_eq, affectedSources]
  have motors := rebuilt_mnemonicsWhen holds settled (show Source.motor ∈ mnemonicSources by decide)
    (change.affectsField .motors)
  refine (announces_mnemonicsWhen holds settled (by decide) _).bind ?_ ?_
  · intro ran
    have held := motors.complete ran
    have proper : (outcome (mnemonicsWhen (change.affectsField .motors) Source.motor)
        registry).2.settings.IsProper := motors.settings ▸ settled
    rw [if_neg (by simp [motors.ok_iff.mp ran]), ← motors.settings]
    have counters := rebuilt_mnemonicsWhen held proper
      (show Source.counter ∈ mnemonicSources by decide) (change.affectsField .counters)
    refine (announces_mnemonicsWhen held proper (by decide) _).bind ?_ ?_
    · intro continued
      rw [← counters.settings]
      exact announces_snippetsWhen (counters.complete continued) (counters.settings ▸ proper) _
    · intro stopped
      rw [ne_eq, counters.ok_iff, Bool.not_eq_false, Bool.and_eq_true] at stopped
      simp [stopped.1]
  · intro stopped
    rw [ne_eq, motors.ok_iff, Bool.not_eq_false] at stopped
    rw [if_pos stopped]

end Registry

end SpecLexicon
