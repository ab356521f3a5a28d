import SpecLexicon.Proofs.Registry.Settled

/-!
# Invariants of the store

Operations write to the store in four ways. They replace motors or counters by symbols that were
built from lines, they replace the snippets, and they install a database or the active document. A
property of stores that outlives each of these outlives every operation, refused or not.
-/

set_option autoImplicit false

namespace SpecLexicon.Registry

/-- The action keeps a property of registries, even when it is refused. -/
def Preserves {α : Type} (property : Registry → Prop) (action : Action α) : Prop :=
  ∀ registry, property registry → property (outcome action registry).2

theorem Preserves.bind {α β : Type} {property : Registry → Prop} {first : Action α}
    {next : α → Action β} (early : Preserves property first)
    (late : ∀ value, Preserves property (next value)) : Preserves property (first >>= next) := by
  intro registry held
  have kept := early registry held
  exact snd_outcome_bind kept fun value _ => late value _ kept

/-- A property that outlives whatever is written to a store, as long as databases are admitted. -/
structure StoreInvariant (admitted : Partition → Prop) (property : Store → Prop) : Prop where
  mnemonics : ∀ {store : Store}, property store →
    ∀ (uri : String) (target : ItemMap) (lines : List LooseText),
      property (store.setMap uri .member (Mnemonic.rebuild target lines).items)
  snippets : ∀ {store : Store}, property store → ∀ items : ItemMap,
    property (store.setMap Source.snippet .snippet items)
  database : ∀ {store : Store}, property store → ∀ {partition : Partition}, admitted partition →
    property (store.install Source.builtIn partition)
  document : ∀ {store : Store}, property store → ∀ partition : Partition,
    property (store.install Source.activeDocument partition)

/-- The databases that an operation installs on a registry. -/
inductive Operation.Brings (registry : Registry) : Operation → Partition → Prop where
  | load {read : FileReader} {path : Option LooseText} {partition : Partition} :
      Database.fetch read (registry.locationOf path) = .ok partition →
      Brings registry (.load read path) partition
  | endLoad {location : Location} {partition : Partition} :
      Brings registry (.endLoad location (.ok partition)) partition
  | step {number : Nat} {location : Location} {partition : Partition} :
      registry.loads[number]? = some ⟨.read location (.ok partition), false⟩ →
      Brings registry (.step number) partition

namespace StoreInvariant

variable {admitted : Partition → Prop} {property : Store → Prop}
  {registry earlier later : Registry}

theorem of_refreshes (kept : StoreInvariant admitted property) (held : property earlier.store)
    (refreshed : Refreshes earlier later) : property later.store := by
  rcases refreshed with same | rebuilt
  · rw [store_eq_of_core_eq same]
    exact held
  · rw [← core_withSnippets] at rebuilt
    rw [store_eq_of_core_eq rebuilt]
    change property earlier.snippetStore
    rw [snippetStore]
    split
    · exact kept.snippets held _
    · exact held

theorem of_withoutLoads_eq (held : property earlier.store)
    (same : later.withoutLoads = earlier.withoutLoads) : property later.store := by
  rw [store_eq_of_withoutLoads_eq same]
  exact held

/-!
## Rebuilds
-/

theorem updateMnemonics (kept : StoreInvariant admitted property) (held : property registry.store)
    (uri : String) (lines : Lines) :
    property (Registry.updateMnemonics uri lines registry).store := by
  rw [Registry.updateMnemonics]
  split
  · exact held
  · rename_i target _
    have stored := kept.mnemonics held uri target lines.readable
    have rebuilt : property (registry.rebuildMnemonics uri lines target).store := by
      simp only [rebuildMnemonics]
      split
      · exact stored
      · exact kept.of_refreshes stored (notify_refreshes uri _)
    dsimp only
    split
    · exact rebuilt
    · exact kept.of_refreshes rebuilt (updateSnippets_refreshes _)

theorem requestSnippets (kept : StoreInvariant admitted property) :
    Preserves (fun registry => property registry.store) Registry.requestSnippets := by
  intro registry held
  rw [Registry.requestSnippets, outcome_attempt]
  exact kept.of_refreshes held (updateSnippets_refreshes registry)

theorem requestMnemonics (kept : StoreInvariant admitted property) (uri : String) (lines : Lines) :
    Preserves (fun registry => property registry.store) (Registry.requestMnemonics uri lines) := by
  intro registry held
  rw [Registry.requestMnemonics, outcome_attempt]
  exact kept.updateMnemonics held uri lines

theorem mnemonicsWhen (kept : StoreInvariant admitted property) (affected : Bool) (uri : String) :
    Preserves (fun registry => property registry.store)
      (Registry.mnemonicsWhen affected uri) := by
  intro registry held
  rw [outcome_mnemonicsWhen]
  split
  · exact kept.updateMnemonics held uri _
  · exact held

theorem rebuildAffected (kept : StoreInvariant admitted property) (change : Change) :
    Preserves (fun registry => property registry.store) (Registry.rebuildAffected change) := by
  rw [rebuildAffected_eq]
  refine (kept.mnemonicsWhen _ _).bind fun _ => (kept.mnemonicsWhen _ _).bind fun _ => ?_
  split
  · exact kept.requestSnippets
  · exact fun _ held => held

theorem configurationChanged (kept : StoreInvariant admitted property) (inLoop : Bool)
    (change : Change) (settings : Option Settings) :
    Preserves (fun registry => property registry.store)
      (Registry.configurationChanged inLoop change settings) := by
  intro registry held
  rw [outcome_configurationChanged]
  split
  · exact held
  · have adopted : property (registry.adopt (settings.getD registry.settings)).store := held
    exact of_withoutLoads_eq (kept.rebuildAffected change _ adopted)
      (withoutLoads_andSchedule change _)

/-!
## Loads
-/

theorem installDatabase (kept : StoreInvariant admitted property) (held : property registry.store)
    (location : Location) {partition : Partition} (fit : admitted partition) :
    property (Registry.installDatabase location partition registry).store := by
  have installed : property (registry.withDatabase partition).store := kept.database held fit
  exact kept.of_refreshes installed (installDatabase_refreshes location partition registry)

theorem finished (kept : StoreInvariant admitted property) (held : property registry.store)
    (location : Location) {outcome : Except Database.FetchError Partition}
    (fit : ∀ partition, outcome = .ok partition → admitted partition) :
    property (registry.finished location outcome).store := by
  cases outcome with
  | ok partition => exact kept.installDatabase held location (fit partition rfl)
  | error reason =>
    cases reason with
    | malformed reason => exact held
    | unnameable fault => exact held

theorem stepLoad (kept : StoreInvariant admitted property) (held : property registry.store)
    {number : Nat} (fit : ∀ partition, (Operation.step number).Brings registry partition →
      admitted partition) : property (registry.stepLoad number).store := by
  have step := loadStep_stepLoad number registry
  generalize registry.stepLoad number = stepped at step
  cases step with
  | absent _ => exact held
  | ended _ _ => exact held
  | cancelled _ _ _ => exact held
  | started _ => exact held
  | waiting _ => exact held
  | @finished location outcome found =>
    refine kept.finished held location fun partition ready => fit partition ?_
    subst ready
    exact .step found

theorem endLoad (kept : StoreInvariant admitted property) (held : property registry.store)
    (location : Location) {outcome : Except Database.FetchError Partition}
    (fit : ∀ partition, outcome = .ok partition → admitted partition) :
    property ((Operation.endLoad location outcome).after registry).store := by
  rw [after_endLoad]
  cases outcome with
  | ok partition => exact kept.installDatabase held location (fit partition rfl)
  | error reason => exact held

/-!
## Operations
-/

theorem after (kept : StoreInvariant admitted property) (held : property registry.store)
    {operation : Operation}
    (fit : ∀ partition, operation.Brings registry partition → admitted partition) :
    property (operation.after registry).store := by
  cases operation with
  | apply inLoop settings =>
    rw [Operation.after, outcome_applySettings]
    exact kept.configurationChanged inLoop _ _ registry held
  | react inLoop change => exact kept.configurationChanged inLoop change none registry held
  | rebuildMnemonics uri lines => exact kept.requestMnemonics uri lines registry held
  | rebuildSnippets => exact kept.requestSnippets registry held
  | load read path =>
    rw [after_load]
    exact kept.endLoad held _ fun partition fetched => fit partition (.load fetched)
  | endLoad location outcome =>
    refine kept.endLoad held location fun partition ready => fit partition ?_
    subst ready
    exact .endLoad
  | activate partition =>
    exact kept.of_refreshes (kept.document held partition)
      (notify_refreshes Source.activeDocument _)
  | listen name listener => exact held
  | unlisten name => exact held
  | startup => exact of_withoutLoads_eq held (withoutLoads_scheduleLoad registry)
  | step number => exact kept.stepLoad held fit
  | deliver number outcome => exact held
  | beginShutdown => exact of_withoutLoads_eq held (withoutLoads_beginShutdown registry)
  | endShutdown number => exact of_withoutLoads_eq held (withoutLoads_endShutdown number registry)

theorem create (kept : StoreInvariant admitted property) (initial : property initialStore)
    (settings : Settings) (window : Option Window) :
    property (create settings window).store := by
  have motors : property (Registry.updateMnemonics Source.motor settings.motors
      (bare settings window)).store := kept.updateMnemonics initial Source.motor _
  exact kept.updateMnemonics motors Source.counter _

/-- What holds at first, and whatever database is installed, holds of every reachable store. -/
theorem of_reachable (kept : StoreInvariant (fun _ => True) property)
    (initial : property initialStore) (reachable : Reachable registry) :
    property registry.store := by
  induction reachable with
  | @create settings window registry proper created =>
    obtain rfl := eq_create_of_createChecked created
    exact kept.create initial settings window
  | step _ _ held => exact kept.after held fun _ _ => trivial

end StoreInvariant

end SpecLexicon.Registry
