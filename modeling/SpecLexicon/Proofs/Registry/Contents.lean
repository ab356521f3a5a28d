import SpecLexicon.Proofs.Registry.Layout
import SpecLexicon.Proofs.Template.Symbols

/-!
# What a registry holds

Free texts reach the store as motors, as counters and as snippets, and files as databases. Whatever
they are, motors and counters are members under names of the right form, the snippets are headed by
the built-in ones and each starts with its key, and a database has its five kinds. All operations
preserve this: they replace the symbols of one source by symbols that were just built, or install
something elsewhere.
-/

set_option autoImplicit false

namespace SpecLexicon

theorem OrderedMap.toList_of_keys_eq {α β : Type} [DecidableEq α] {map : OrderedMap α β} {key : α}
    (keys : map.keys = [key]) :
    ∃ value, map.toList = [(key, value)] ∧ map.get? key = some value := by
  obtain ⟨⟨other, value⟩, whole, same⟩ := List.map_eq_singleton_iff.mp keys
  have first : other = key := same
  subst first
  exact ⟨value, whole, get?_eq_some_iff.mpr (by rw [whole]; exact List.mem_cons_self)⟩

/-- A replaced map is the new one or was there before. -/
theorem Store.map?_setMap_eq_some {store : Store} {uri other : String} {kind otherKind : Kind}
    {items found : ItemMap}
    (read : (store.setMap uri kind items).map? other otherKind = some found) :
    found = items ∨ store.map? other otherKind = some found := by
  rw [map?, setMap, get?_update] at read
  rw [map?]
  cases stored : store.get? other with
  | none => simp [stored] at read
  | some partition =>
    rw [stored, Option.map_some, Option.bind_some] at read
    split at read
    · rw [OrderedMap.get?_modify] at read
      split at read
      · obtain ⟨_, _, rfl⟩ := Option.map_eq_some_iff.mp read
        exact .inl rfl
      · exact .inr read
    · exact .inr read

/-- The source holds one kind, with these symbols. -/
def Store.HoldsOnly (store : Store) (uri : String) (kind : Kind) (items : ItemMap) : Prop :=
  ∃ partition, store.get? uri = some partition ∧ partition.toList = [(kind, items)]

def IsMnemonics (items : ItemMap) : Prop :=
  ∀ entry ∈ items.toList, Mnemonic.IsEntry entry

/-- The built-in keys come first, and every symbol starts with its key. -/
structure IsSnippets (items : ItemMap) : Prop where
  builtIn : Template.builtInKeys <+: items.keys
  entries : ∀ entry ∈ items.toList, Template.IsEntry entry

theorem isMnemonics_rebuild (target : ItemMap) (lines : List LooseText) :
    IsMnemonics (Mnemonic.rebuild target lines).items :=
  fun _ => Mnemonic.isEntry_of_mem_rebuild

theorem isSnippets_rebuild (motors counters : List String) (target : ItemMap)
    (lines : List LooseText) :
    IsSnippets (Template.rebuild motors counters target
      (Template.builtIn.map .text ++ lines)).items := by
  refine ⟨?_, fun _ => Template.isEntry_of_mem_rebuild⟩
  rw [(Template.compiled_rebuild motors counters target _).names]
  exact Template.builtInKeys_prefix_names lines

namespace Registry

variable {registry : Registry}

/-- Whatever is stored as motors or counters was built from lines. -/
def IsStocked (store : Store) : Prop :=
  ∀ uri ∈ mnemonicSources, ∀ items, store.map? uri .member = some items → IsMnemonics items

namespace IsStocked

variable {store : Store}

theorem setMnemonics (stocked : IsStocked store) (uri : String) (target : ItemMap)
    (lines : List LooseText) :
    IsStocked (store.setMap uri .member (Mnemonic.rebuild target lines).items) := by
  intro other member items found
  rcases Store.map?_setMap_eq_some found with rfl | before
  · exact isMnemonics_rebuild target lines
  · exact stocked other member items before

theorem setSnippets (stocked : IsStocked store) (snippets : ItemMap) :
    IsStocked (store.setMap Source.snippet .snippet snippets) := by
  intro uri member items found
  rw [Store.map?_setMap_of_kind_ne (by decide)] at found
  exact stocked uri member items found

theorem install (stocked : IsStocked store) {uri : String} (elsewhere : uri ∉ mnemonicSources)
    (partition : Partition) : IsStocked (store.install uri partition) := by
  intro other member items found
  have different : uri ≠ other := by
    rintro rfl
    exact elsewhere member
  rw [Store.map?_install_of_ne different] at found
  exact stocked other member items found

end IsStocked

theorem storeInvariant_isStocked : StoreInvariant (fun _ => True) IsStocked where
  mnemonics := fun stocked uri target lines => stocked.setMnemonics uri target lines
  snippets := fun stocked snippets => stocked.setSnippets snippets
  database := fun stocked partition _ => stocked.install (by decide) partition
  document := fun stocked partition => stocked.install (by decide) partition

theorem isStocked_initialStore : IsStocked initialStore := by
  intro uri member items found
  have empty := (holds_bare .standard none).mnemonics uri member
  obtain rfl := Option.some.inj (empty.symm.trans found)
  exact fun entry listed => absurd listed List.not_mem_nil

theorem Reachable.isStocked (reachable : Reachable registry) : IsStocked registry.store :=
  storeInvariant_isStocked.of_reachable isStocked_initialStore reachable

/-!
## Well-formed stores
-/

/-- Motors and counters are members in form, the snippets are headed by the built-in ones, and what
is stored as the built-in source is a database of symbols that can be seen. -/
structure WellFormed (store : Store) : Prop where
  motors : ∃ items, store.HoldsOnly Source.motor .member items ∧ IsMnemonics items
  counters : ∃ items, store.HoldsOnly Source.counter .member items ∧ IsMnemonics items
  snippets : ∃ items, store.HoldsOnly Source.snippet .snippet items ∧ IsSnippets items
  builtIn : ∀ partition, store.get? Source.builtIn = some partition →
    OrderedMap.keys partition = [.constant, .variableDef, .macroDef, .function, .keyword] ∧
      ∀ entry ∈ Partition.entries partition, IsVisible entry.2.2.signature

theorem Layout.exists_holdsOnly {store : Store} (layout : Layout store) {uri : String} {kind : Kind}
    (initial : initialStore.kinds? uri = some [kind]) (database : uri ≠ Source.builtIn)
    (document : uri ≠ Source.activeDocument) :
    ∃ items, store.HoldsOnly uri kind items ∧ store.map? uri kind = some items := by
  have kinds := layout.others uri database document
  rw [initial] at kinds
  obtain ⟨partition, stored, keys⟩ := Option.map_eq_some_iff.mp kinds
  obtain ⟨items, whole, found⟩ := OrderedMap.toList_of_keys_eq keys
  exact ⟨items, ⟨partition, stored, whole⟩, by rw [Store.map?, stored]; exact found⟩

/-- Every store that a program can reach is well formed. -/
theorem Attainable.wellFormed (attainable : Attainable registry) : WellFormed registry.store := by
  -- Members are in form as an invariant of their own, snippets because they are always current.
  have layout := attainable.isLaidOut.layout
  have stocked := attainable.reachable.isStocked
  obtain ⟨settings, symbols, settled⟩ := attainable.reachable.settled
  obtain ⟨motors, onlyMotors, foundMotors⟩ :=
    layout.exists_holdsOnly (show initialStore.kinds? Source.motor = some [.member] by decide)
      (by decide) (by decide)
  obtain ⟨counters, onlyCounters, foundCounters⟩ :=
    layout.exists_holdsOnly (show initialStore.kinds? Source.counter = some [.member] by decide)
      (by decide) (by decide)
  obtain ⟨snippets, onlySnippets, foundSnippets⟩ :=
    layout.exists_holdsOnly (show initialStore.kinds? Source.snippet = some [.snippet] by decide)
      (by decide) (by decide)
  refine ⟨⟨motors, onlyMotors, stocked _ (by decide) _ foundMotors⟩,
    ⟨counters, onlyCounters, stocked _ (by decide) _ foundCounters⟩,
    ⟨snippets, onlySnippets, ?_⟩, ?_⟩
  · obtain rfl := Option.some.inj (settled.current.symm.trans foundSnippets)
    exact isSnippets_rebuild _ _ _ _
  · intro partition stored
    exact ⟨layout.builtIn partition stored, fun entry _ => entry.2.2.signature_visible⟩

theorem wellFormed_rebuilt :
    Attainable (create .standard none) ∧
      (Operation.rebuildMnemonics Source.motor (.texts [.text "th # theta"])).IsProper ∧
      WellFormed ((Operation.rebuildMnemonics Source.motor (.texts [.text "th # theta"])).after
        (create .standard none)).store := by
  have created : Attainable (create .standard none) := .create Settings.isProper_standard rfl
  have proper : (Operation.rebuildMnemonics Source.motor (.texts [.text "th # theta"])).IsProper :=
    ⟨.inl rfl, _, rfl⟩
  exact ⟨created, proper, (created.step proper trivial).wellFormed⟩

end Registry

end SpecLexicon
