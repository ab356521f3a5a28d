import SpecLexicon.Proofs.Registry.Settled

/-!
# Rebuilding what differs

New settings are compared with the present ones, and only what differs is rebuilt. After any run in
which nothing was stopped halfway, motors, counters and snippets are those of a registry that is
created from the settings that were accepted last. A template without a symbol stops the work
halfway: the new settings stay, and what they left unbuilt is not made up for later.
-/

set_option autoImplicit false

namespace SpecLexicon.Registry

variable {settings adopted : Settings} {registry : Registry}

/-- The registry holds what its settings stand for, and each of their templates has a symbol. -/
structure Mirrors (settings : Settings) (registry : Registry) : Prop where
  settled : Settled settings settings.symbols registry
  fit : templateFault? settings.templates = none

theorem mirrors_of_createChecked {window : Option Window} (proper : settings.IsProper)
    (created : createChecked settings window = .ok registry) : Mirrors settings registry := by
  rw [createChecked] at created
  split at created
  case h_1 unfaulted =>
    cases created
    refine ⟨settled_create proper window, ?_⟩
    rw [creationFault?, Option.or_eq_none_iff, Option.or_eq_none_iff] at unfaulted
    exact unfaulted.2.1
  case h_2 => cases created

theorem Mirrors.createChecked (mirrors : Mirrors settings registry) (window : Option Window) :
    createChecked settings window = .ok (create settings window) := by
  have proper := mirrors.settled.proper
  have unfaulted : creationFault? settings = none := by
    rw [creationFault?, mirrors.fit, proper.motors.eq_texts, proper.counters.eq_texts]
    rfl
  rw [Registry.createChecked, unfaulted]

/-!
## Unchanged settings
-/

theorem expectedSymbols_self (change : Change) (settings : Settings) (uri : String) :
    expectedSymbols change settings settings.symbols uri = settings.symbols uri := by
  rw [expectedSymbols]
  split
  case isTrue counter =>
    obtain ⟨_, rfl⟩ : _ ∧ uri = Source.counter := by simpa using counter
    rfl
  case isFalse =>
    split
    case isTrue motor =>
      obtain ⟨_, rfl⟩ : _ ∧ uri = Source.motor := by simpa using motor
      rfl
    case isFalse => rfl

theorem expectedSymbols_between (proper : settings.IsProper) (adoptedProper : adopted.IsProper)
    {uri : String} (member : uri ∈ mnemonicSources) :
    expectedSymbols (.between settings adopted) adopted settings.symbols uri =
      adopted.symbols uri := by
  obtain ⟨motors, counters, _⟩ := Change.eq_of_unaffected proper adoptedProper
  rcases mem_mnemonicSources.mp member with rfl | rfl
  · have other : Source.motor ≠ Source.counter := by decide
    rw [expectedSymbols, if_neg (by simp [other])]
    cases affected : (Change.between settings adopted).affectsField .motors with
    | true => rfl
    | false =>
      rw [if_neg (by simp), Settings.symbols, Settings.symbols, Settings.linesOf, if_pos rfl,
        Settings.linesOf, if_pos rfl, motors affected]
  · have other : Source.counter ≠ Source.motor := by decide
    rw [expectedSymbols]
    cases affected : (Change.between settings adopted).affectsField .counters with
    | true => rfl
    | false =>
      rw [if_neg (by simp), if_neg (by simp [other]), Settings.symbols, Settings.symbols,
        Settings.linesOf, if_neg other, Settings.linesOf, if_neg other, counters affected]

/-!
## Applying settings
-/

/-- New settings move the database while there is no event loop. -/
def refuses (inLoop : Bool) (settings adopted : Settings) : Bool :=
  (Change.between settings adopted).affectsField .database && !inLoop

/-- What stops the work on new settings that are not refused: a template without a symbol. -/
def adoptionFault? (settings adopted : Settings) : Option Fault :=
  if (Change.between settings adopted).affectsLines then templateFault? adopted.templates else none

namespace Settled

variable {symbols : String → ItemMap}

theorem rebuilt_adopted (settled : Settled settings symbols registry) (proper : adopted.IsProper) :
    Rebuilt (Change.between settings adopted).affectsLines
      (expectedSymbols (.between settings adopted) adopted symbols) (registry.adopt adopted)
      (outcome (Registry.rebuildAffected (.between settings adopted))
        (registry.adopt adopted)) := by
  have holds : Holds symbols (registry.adopt adopted) := settled.holds.congr rfl
  exact rebuilt_rebuildAffected holds proper _

theorem outcome_apply (settled : Settled settings symbols registry) (inLoop : Bool)
    (adopted : Settings) :
    outcome (Operation.apply inLoop adopted).action registry =
      if refuses inLoop settings adopted then (.error .needsEventLoop, registry)
      else Registry.andSchedule (.between settings adopted)
        (outcome (Registry.rebuildAffected (.between settings adopted))
          (registry.adopt adopted)) := by
  rw [outcome_applySettings, outcome_configurationChanged, settled.same]
  rfl

theorem fault?_apply (settled : Settled settings symbols registry) (inLoop : Bool)
    (proper : adopted.IsProper) :
    (Operation.apply inLoop adopted).fault? registry =
      if refuses inLoop settings adopted then some .needsEventLoop
      else adoptionFault? settings adopted := by
  rw [Operation.fault?, settled.outcome_apply]
  by_cases refused : refuses inLoop settings adopted = true
  · rw [if_pos refused, if_pos refused]
    rfl
  · rw [if_neg refused, if_neg refused, fst_andSchedule, (settled.rebuilt_adopted proper).result]
    rw [adoptionFault?]
    split
    · exact faultOf_resultOf _
    · rfl

theorem adoptionFault?_ne_needsEventLoop (proper : adopted.IsProper) :
    adoptionFault? settings adopted ≠ some .needsEventLoop := by
  obtain ⟨texts, templates⟩ := proper.templates
  rw [adoptionFault?, templateFault?, templates]
  split
  · split
    · simp
    · simp [unfitTemplate]
  · simp

theorem after_apply_of_needsEventLoop (settled : Settled settings symbols registry) {inLoop : Bool}
    (proper : adopted.IsProper)
    (refused : (Operation.apply inLoop adopted).fault? registry = some .needsEventLoop) :
    (Operation.apply inLoop adopted).after registry = registry := by
  rw [settled.fault?_apply inLoop proper] at refused
  by_cases moves : refuses inLoop settings adopted = true
  · rw [Operation.after, settled.outcome_apply, if_pos moves]
  · rw [if_neg moves] at refused
    exact absurd refused (adoptionFault?_ne_needsEventLoop proper)

end Settled

theorem Mirrors.apply (mirrors : Mirrors settings registry) {inLoop : Bool}
    (proper : adopted.IsProper) (taken : refuses inLoop settings adopted = false)
    (unstopped : adoptionFault? settings adopted = none) :
    Mirrors adopted ((Operation.apply inLoop adopted).after registry) := by
  have settled := mirrors.settled
  have rebuilt := settled.rebuilt_adopted proper
  have agree := Change.eq_of_unaffected settled.proper proper
  have complete : (outcome (Registry.rebuildAffected (.between settings adopted))
      (registry.adopt adopted)).1 = .ok () := by
    rw [rebuilt.result]
    rw [adoptionFault?] at unstopped
    split
    case isTrue affected =>
      rw [if_pos affected] at unstopped
      change resultOf (templateFault? adopted.templates) = _
      rw [unstopped]
      rfl
    case isFalse => rfl
  have unchanged : (Change.between settings adopted).affectsLines = false →
      adopted.templates = settings.templates := by
    intro unaffected
    obtain ⟨_, unaffected⟩ := Bool.or_eq_false_iff.mp unaffected
    exact (agree.2.2 unaffected).symm
  -- Lines that do not differ were built before; those that differ were rebuilt without a stop.
  constructor
  · rw [Operation.after, settled.outcome_apply, if_neg (by simp [taken])]
    apply Settled.andSchedule
    obtain ⟨held, stays⟩ := settled.rebuildAffected proper unchanged
    refine ⟨stays.same, proper, (rebuilt.complete complete).of_eq ?_, stays.current⟩
    intro uri member
    exact expectedSymbols_between settled.proper proper member
  · rw [adoptionFault?] at unstopped
    cases affected : (Change.between settings adopted).affectsLines with
    | true =>
      rw [if_pos affected] at unstopped
      exact unstopped
    | false =>
      rw [unchanged affected]
      exact mirrors.fit

theorem Mirrors.react (mirrors : Mirrors settings registry) (inLoop : Bool) (change : Change) :
    Mirrors settings ((Operation.react inLoop change).after registry) := by
  have settled := mirrors.settled
  rw [Operation.after, Operation.action, outcome_configurationChanged]
  by_cases refused : (change.affectsField .database && !inLoop) = true
  · rw [if_pos refused]
    exact mirrors
  · rw [if_neg refused, Option.getD_none, settled.same]
    have holds : Holds settings.symbols (registry.adopt settings) := settled.holds.congr rfl
    have rebuilt := rebuilt_rebuildAffected holds settled.proper change
    have complete : (outcome (rebuildAffected change) (registry.adopt settings)).1 = .ok () := by
      rw [rebuilt.result]
      change (if change.affectsLines then resultOf (templateFault? settings.templates) else _) = _
      rw [mirrors.fit]
      split
      · rfl
      · rfl
    obtain ⟨held, stays⟩ := settled.rebuildAffected settled.proper (fun _ => rfl)
    refine ⟨Settled.andSchedule ⟨stays.same, settled.proper,
      (rebuilt.complete complete).of_eq ?_, stays.current⟩, mirrors.fit⟩
    intro uri _
    exact expectedSymbols_self change settings uri

/-!
## Runs
-/

namespace Operation

/-- Motors and counters are rebuilt from the settings only. -/
def KeepsLines : Operation → Prop
  | rebuildMnemonics _ _ => False
  | _ => True

/-- New settings are refused as a whole, or nothing stops their work. -/
def IsUnbroken (registry : Registry) : Operation → Prop
  | apply inLoop adopted => refuses inLoop registry.settings adopted = true ∨
      adoptionFault? registry.settings adopted = none
  | _ => True

/-- The settings that were accepted last, be it by this operation or before. -/
def accepted (registry : Registry) (last : Settings) (operation : Operation) : Settings :=
  match operation with
  | apply inLoop adopted =>
    match (apply inLoop adopted).fault? registry with
    | none => adopted
    | some _ => last
  | _ => last

end Operation

/-- No new settings were stopped halfway in a run. -/
def Unbroken : List Operation → Registry → Prop
  | [], _ => True
  | operation :: rest, registry =>
    operation.IsUnbroken registry ∧ Unbroken rest (operation.after registry)

/-- The settings that were accepted last in a run. -/
def lastAccepted : List Operation → Registry → Settings → Settings
  | [], _, last => last
  | operation :: rest, registry, last =>
    lastAccepted rest (operation.after registry) (operation.accepted registry last)

theorem Mirrors.after {operation : Operation} (mirrors : Mirrors settings registry)
    (proper : operation.IsProper) (keeps : operation.KeepsLines)
    (unbroken : operation.IsUnbroken registry) :
    Mirrors (operation.accepted registry settings) (operation.after registry) := by
  have plainly (plain : operation.IsPlain) : Mirrors settings (operation.after registry) :=
    ⟨mirrors.settled.after_of_isPlain plain, mirrors.fit⟩
  cases operation with
  | apply inLoop adopted =>
    have given := mirrors.settled.fault?_apply inLoop proper
    rw [Operation.IsUnbroken, mirrors.settled.same] at unbroken
    by_cases refused : refuses inLoop settings adopted = true
    · rw [if_pos refused] at given
      rw [mirrors.settled.after_apply_of_needsEventLoop proper given, Operation.accepted, given]
      exact mirrors
    · have unstopped := unbroken.resolve_left refused
      rw [if_neg refused, unstopped] at given
      rw [Operation.accepted, given]
      exact mirrors.apply proper (Bool.eq_false_iff.mpr refused) unstopped
  | react inLoop change => exact mirrors.react inLoop change
  | rebuildMnemonics uri lines => exact keeps.elim
  | _ => exact plainly trivial

theorem Mirrors.run {operations : List Operation} (mirrors : Mirrors settings registry)
    (proper : ∀ operation ∈ operations, operation.IsProper ∧ operation.KeepsLines)
    (unbroken : Unbroken operations registry) :
    Mirrors (lastAccepted operations registry settings) (run operations registry) := by
  induction operations generalizing settings registry with
  | nil => exact mirrors
  | cons operation rest ih =>
    obtain ⟨first, later⟩ := unbroken
    obtain ⟨operationProper, keeps⟩ := proper operation List.mem_cons_self
    exact ih (mirrors.after operationProper keeps first)
      (fun other member => proper other (List.mem_cons_of_mem operation member)) later

/-- The maps of motors, counters and snippets have the same symbols in the same order. -/
def SameMaps (left right : Registry) : Prop :=
  ∀ place ∈ [(Source.motor, Kind.member), (Source.counter, .member), (Source.snippet, .snippet)],
    ∃ items, left.store.map? place.1 place.2 = some items ∧
      right.store.map? place.1 place.2 = some items

theorem Mirrors.sameMaps {other : Registry} (left : Mirrors settings registry)
    (right : Mirrors settings other) : SameMaps registry other := by
  have motors := left.settled.holds.mnemonics Source.motor (by decide)
  have counters := left.settled.holds.mnemonics Source.counter (by decide)
  have otherMotors := right.settled.holds.mnemonics Source.motor (by decide)
  have otherCounters := right.settled.holds.mnemonics Source.counter (by decide)
  have compiled : registry.compileSnippets .empty = other.compileSnippets .empty := by
    apply compileSnippets_congr
    · rw [left.settled.same, right.settled.same]
    · rw [motors, otherMotors]
    · rw [counters, otherCounters]
  intro place member
  rcases List.mem_cons.mp member with rfl | member
  · exact ⟨_, motors, otherMotors⟩
  · rcases List.mem_cons.mp member with rfl | member
    · exact ⟨_, counters, otherCounters⟩
    · obtain rfl := List.mem_singleton.mp member
      exact ⟨_, left.settled.current, compiled ▸ right.settled.current⟩

/-- After a run the maps are those of a registry that is created from the settings accepted last,
provided that no template without a symbol stopped new settings halfway. Whatever came before, new
settings are stopped by such a template exactly if they differ in the lines of the registry, and
those that want an event loop change nothing. -/
theorem incremental_eq_created {initial : Settings} {window : Option Window} {start : Registry}
    (initialProper : initial.IsProper) (created : createChecked initial window = .ok start)
    (operations : List Operation)
    (proper : ∀ operation ∈ operations, operation.IsProper ∧ operation.KeepsLines) :
    (Unbroken operations start →
      (run operations start).settings = lastAccepted operations start initial ∧
        ∃ fresh, createChecked (lastAccepted operations start initial) window = .ok fresh ∧
          SameMaps (run operations start) fresh) ∧
      ∀ inLoop adopted, adopted.IsProper →
        (Operation.apply inLoop adopted).fault? (run operations start) =
            (if refuses inLoop (run operations start).settings adopted then some .needsEventLoop
            else adoptionFault? (run operations start).settings adopted) ∧
          ((Operation.apply inLoop adopted).fault? (run operations start) = some .needsEventLoop →
            (Operation.apply inLoop adopted).after (run operations start) =
              run operations start) := by
  constructor
  · intro unbroken
    have mirrors := (mirrors_of_createChecked initialProper created).run proper unbroken
    have fresh := mirrors.createChecked window
    exact ⟨mirrors.settled.same, _, fresh,
      mirrors.sameMaps (mirrors_of_createChecked mirrors.settled.proper fresh)⟩
  · intro inLoop adopted adoptedProper
    have reachable : Reachable (run operations start) :=
      (Reachable.create initialProper created).run fun operation member =>
        (proper operation member).1
    obtain ⟨settings, symbols, settled⟩ := reachable.settled
    rw [settled.same]
    exact ⟨settled.fault?_apply inLoop adoptedProper,
      settled.after_apply_of_needsEventLoop adoptedProper⟩

def pairedSettings : Settings :=
  { Settings.standard with motors := .texts [.text "th"], counters := .texts [.text "mon"] }

theorem incremental_paired :
    Unbroken [.apply false pairedSettings] (create .standard none) ∧
      ∃ fresh, createChecked pairedSettings none = .ok fresh ∧
        SameMaps (run [.apply false pairedSettings] (create .standard none)) fresh := by
  have created : createChecked .standard none = .ok (create .standard none) := rfl
  have adoptedProper : pairedSettings.IsProper := ⟨⟨_, rfl⟩, ⟨_, rfl⟩, ⟨_, rfl⟩⟩
  have proper : ∀ operation ∈ [Operation.apply false pairedSettings],
      operation.IsProper ∧ operation.KeepsLines := by
    intro operation member
    obtain rfl := List.mem_singleton.mp member
    exact ⟨adoptedProper, trivial⟩
  have unbroken : Unbroken [.apply false pairedSettings] (create .standard none) :=
    ⟨.inr (by decide +kernel), trivial⟩
  have unfaulted :
      (Operation.apply false pairedSettings).fault? (create .standard none) = none := by
    decide +kernel
  have last : lastAccepted [.apply false pairedSettings] (create .standard none) .standard =
      pairedSettings := by
    rw [lastAccepted, Operation.accepted, unfaulted]
    rfl
  obtain ⟨_, fresh⟩ :=
    (incremental_eq_created Settings.isProper_standard created _ proper).1 unbroken
  rw [last] at fresh
  exact ⟨unbroken, fresh⟩

/-- The same with a template that ends in half of a surrogate pair. -/
def halvedSettings : Settings :=
  { pairedSettings with
    templates := .texts [.ofPoints [.char 'g', .char 'o', .char ' ', .half 0xd800]] }

/-- Settings that were stopped halfway leave the counters out, and the next settings, which are
accepted, do not make up for it. -/
theorem not_sameMaps_after_halved :
    (Operation.apply false halvedSettings).fault? (create .standard none) = some unfitTemplate ∧
      (Operation.apply false pairedSettings).fault?
        ((Operation.apply false halvedSettings).after (create .standard none)) = none ∧
      ¬SameMaps (run [.apply false halvedSettings, .apply false pairedSettings]
        (create .standard none)) (create pairedSettings none) := by
  refine ⟨by decide +kernel, by decide +kernel, ?_⟩
  intro same
  obtain ⟨items, kept, built⟩ := same (Source.counter, .member) (by simp)
  have left : (run [.apply false halvedSettings, .apply false pairedSettings]
      (create .standard none)).store.map? Source.counter .member = some .empty := by
    decide +kernel
  have fresh : (create pairedSettings none).store.map? Source.counter .member ≠ some .empty := by
    decide +kernel
  obtain rfl : OrderedMap.empty = items := Option.some.inj (left.symm.trans kept)
  exact fresh built

end SpecLexicon.Registry
