import SpecLexicon.Proofs.Database.RoundTrip
import SpecLexicon.Proofs.Registry.LoadTracking
import SpecLexicon.Proofs.Registry.Serving
import SpecLexicon.Proofs.Registry.StoreInvariant

/-!
# The layout of the store

Motors and counters are stored as members, the snippets as snippets, a database under its five
documented kinds, and nothing else is stored but the active document. Rebuilds replace symbols, not
kinds, and what is installed as the database was fetched. So the sources of the system hold kinds
with labels only, and each of them can be shown.
-/

set_option autoImplicit false

namespace SpecLexicon

open SpecLexicon.Partition (IsDatabase)

theorem Database.isDatabase_of_fetch {read : FileReader} {location : Location}
    {partition : Partition} (fetched : Database.fetch read location = .ok partition) :
    IsDatabase partition := by
  rw [Database.fetch] at fetched
  cases content : read location with
  | error failure =>
    rw [content] at fetched
    cases failure <;> cases fetched
  | ok bytes =>
    rw [content] at fetched
    cases loaded : Database.loadBytes bytes location.text with
    | error malformed =>
      simp only [loaded] at fetched
      cases fetched
    | ok found =>
      simp only [loaded] at fetched
      cases fetched
      obtain ⟨json, _, accepted⟩ := Schema.Checked.andThen_eq_valid_iff.mp
        (Database.orMalformed_eq_ok_iff.mp loaded)
      exact Partition.isDatabase_of_ofJson accepted

def Store.kinds? (store : Store) (uri : String) : Option (List Kind) :=
  (store.get? uri).map OrderedMap.keys

@[simp] theorem Store.kinds?_setMap (store : Store) (uri : String) (kind : Kind)
    (items : ItemMap) : (store.setMap uri kind items).kinds? = store.kinds? := by
  funext other
  rw [kinds?, kinds?, setMap, get?_update, Option.map_map]
  congr 1
  funext partition
  by_cases reached : store.sharing uri other = true
  · simp [reached, OrderedMap.modify]
  · simp [reached]

theorem Store.kinds?_install (store : Store) (uri other : String) (partition : Partition) :
    (store.install uri partition).kinds? other =
      if uri = other then some (OrderedMap.keys partition) else store.kinds? other := by
  rw [kinds?, get?_install]
  split
  · rfl
  · rfl

theorem Partition.IsDatabase.isListed {partition : Partition} (isDatabase : IsDatabase partition) :
    partition.IsListed := by
  rw [Partition.IsListed, show OrderedMap.keys partition = _ from isDatabase]
  decide

namespace Registry

/-- Only a database is stored as the built-in source. Under every other source but the active
document stands what a new registry has there. -/
structure Layout (store : Store) : Prop where
  builtIn : ∀ partition, store.get? Source.builtIn = some partition → IsDatabase partition
  others : ∀ uri, uri ≠ Source.builtIn → uri ≠ Source.activeDocument →
    store.kinds? uri = initialStore.kinds? uri

def kindsOf (registry : Registry) : String → Option (List Kind) :=
  registry.store.kinds?

theorem isSteady_kindsOf : IsSteady kindsOf :=
  isSteady_of_setMap Store.kinds? Store.kinds?_setMap

namespace Layout

variable {store : Store}

theorem setMap (layout : Layout store) (uri : String) (kind : Kind) (items : ItemMap) :
    Layout (store.setMap uri kind items) := by
  have same := Store.kinds?_setMap store uri kind items
  refine ⟨?_, ?_⟩
  · intro partition found
    have kinds := congrFun same Source.builtIn
    simp only [Store.kinds?, found, Option.map_some] at kinds
    obtain ⟨present, held, keys⟩ := Option.map_eq_some_iff.mp kinds.symm
    rw [IsDatabase, ← keys]
    exact layout.builtIn present held
  · intro other database document
    exact (congrFun same other).trans (layout.others other database document)

theorem install (layout : Layout store) {partition : Partition}
    (isDatabase : IsDatabase partition) : Layout (store.install Source.builtIn partition) := by
  refine ⟨?_, ?_⟩
  · intro present found
    rw [Store.get?_install, if_pos rfl] at found
    cases found
    exact isDatabase
  · intro uri database document
    rw [Store.kinds?_install, if_neg database.symm]
    exact layout.others uri database document

theorem installDocument (layout : Layout store) (partition : Partition) :
    Layout (store.install Source.activeDocument partition) := by
  refine ⟨?_, ?_⟩
  · intro present found
    rw [Store.get?_install, if_neg (by decide)] at found
    exact layout.builtIn present found
  · intro uri database document
    rw [Store.kinds?_install, if_neg document.symm]
    exact layout.others uri database document

end Layout

theorem storeInvariant_layout : StoreInvariant IsDatabase Layout where
  mnemonics := fun layout _ _ _ => layout.setMap _ _ _
  snippets := fun layout _ => layout.setMap _ _ _
  database := fun layout _ isDatabase => layout.install isDatabase
  document := fun layout partition => layout.installDocument partition

theorem layout_initialStore : Layout initialStore := by
  refine ⟨?_, fun _ _ _ => rfl⟩
  intro partition found
  cases found

theorem layout_create (settings : Settings) (window : Option Window) :
    Layout (create settings window).store :=
  storeInvariant_layout.create layout_initialStore settings window

/-!
## Fetched databases
-/

namespace Operation

/-- The databases that an operation brings along were fetched. -/
def IsFetched : Operation → Prop
  | endLoad location outcome => ∃ read, outcome = Database.fetch read location
  | deliver _ outcome => ∃ read location, outcome = Database.fetch read location
  | _ => True

end Operation

/-- The registries that a program can have: as the reachable ones, but with fetched databases. -/
inductive Attainable : Registry → Prop where
  | create {settings : Settings} {window : Option Window} {registry : Registry} :
      settings.IsProper → createChecked settings window = .ok registry → Attainable registry
  | step {registry : Registry} {operation : Operation} : Attainable registry →
      operation.IsProper → operation.IsFetched → Attainable (operation.after registry)

theorem Attainable.reachable {registry : Registry} (attainable : Attainable registry) :
    Reachable registry := by
  induction attainable with
  | create proper created => exact .create proper created
  | step _ proper _ reachable => exact reachable.step proper

def HoldsDatabase (task? : Option LoadTask) : Prop :=
  ∀ location partition stopRequested,
    task? = some ⟨.read location (.ok partition), stopRequested⟩ → IsDatabase partition

theorem LoadChange.holdsDatabase {registry : Registry} {number : Nat} {operation : Operation}
    {before after : Option LoadTask} (change : LoadChange registry number operation before after)
    (fetched : operation.IsFetched) (held : HoldsDatabase before) : HoldsDatabase after := by
  intro location partition stopRequested found
  cases change with
  | same => exact held location partition stopRequested found
  | scheduled _ => cases found
  | asked _ =>
    cases found
    exact held location partition _ rfl
  | cancelled _ => cases found
  | started => cases found
  | delivered =>
    -- Only here does a load get a partition.
    cases found
    obtain ⟨read, place, result⟩ := fetched
    exact Database.isDatabase_of_fetch result.symm
  | @finished _ outcome =>
    have ended := isEnded_lastStage registry.window outcome
    simp only [Option.some.injEq, LoadTask.mk.injEq] at found
    rw [found.1] at ended
    cases ended

structure IsLaidOut (registry : Registry) : Prop where
  layout : Layout registry.store
  loads : ∀ number : Nat, HoldsDatabase registry.loads[number]?

/-- What an operation installs as the database was fetched. -/
theorem IsLaidOut.isDatabase_of_brings {registry : Registry} {operation : Operation}
    (laidOut : registry.IsLaidOut) (fetched : operation.IsFetched) {partition : Partition}
    (brings : operation.Brings registry partition) : IsDatabase partition := by
  cases brings with
  | load found => exact Database.isDatabase_of_fetch found
  | endLoad =>
    obtain ⟨read, found⟩ := fetched
    exact Database.isDatabase_of_fetch found.symm
  | @step number location _ found => exact laidOut.loads number location partition false found

theorem IsLaidOut.after {registry : Registry} {operation : Operation}
    (laidOut : registry.IsLaidOut) (fetched : operation.IsFetched) :
    (operation.after registry).IsLaidOut where
  layout := storeInvariant_layout.after laidOut.layout fun _ => laidOut.isDatabase_of_brings fetched
  loads := fun number =>
    (loadChange_after number operation registry).holdsDatabase fetched (laidOut.loads number)

theorem Attainable.isLaidOut {registry : Registry} (attainable : Attainable registry) :
    registry.IsLaidOut := by
  induction attainable with
  | @create settings window registry proper created =>
    obtain rfl := eq_create_of_createChecked created
    refine ⟨layout_create settings window, ?_⟩
    intro number location partition stopRequested found
    have none_yet := congrArg Prod.fst (track_create settings window)
    change (Registry.create settings window).loads = [] at none_yet
    rw [none_yet] at found
    cases found
  | step _ _ fetched laidOut => exact laidOut.after fetched

theorem isListed_of_kinds?_initialStore {uri : String} {kinds : List Kind}
    (found : initialStore.kinds? uri = some kinds) : ∀ kind ∈ kinds, kind.label? ≠ none := by
  obtain ⟨partition, stored, rfl⟩ := Option.map_eq_some_iff.mp found
  have member : (uri, partition) ∈ initialStore.partitions.toList :=
    OrderedMap.get?_eq_some_iff.mp stored
  have every : ∀ entry ∈ initialStore.partitions.toList,
      ∀ kind ∈ OrderedMap.keys entry.2, kind.label? ≠ none := by decide
  exact every _ member

theorem Layout.isListed {store : Store} (layout : Layout store) {uri : String}
    {partition : Partition} (stored : store.get? uri = some partition)
    (different : uri ≠ Source.activeDocument) : partition.IsListed := by
  by_cases database : uri = Source.builtIn
  · subst database
    exact (layout.builtIn partition stored).isListed
  · have kinds := layout.others uri database different
    rw [Store.kinds?, stored] at kinds
    exact isListed_of_kinds?_initialStore kinds.symm

end Registry

end SpecLexicon
