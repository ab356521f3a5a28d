import SpecLexicon.Proofs.Partition
import SpecLexicon.Proofs.Store

/-!
# What the queries of a store show

The entries of a store are its symbols, each with its source, kind and name. Every query agrees with
them: it shows the entries that it asks for, in their order. A source or a map without symbols has no
entries, though it is in the store.
-/

set_option autoImplicit false

namespace SpecLexicon.Store

/-- The maps of a store, source by source and kind by kind. -/
def maps (store : Store) : List (String × Kind × ItemMap) :=
  OrderedMap.elements OrderedMap.toList store.partitions

def entriesUnder (store : Store) (uri : String) : List (Kind × String × Item) :=
  store.entries.filterMap fun (other, symbol) => if other = uri then some symbol else none

/-- The entries of one kind of a source. -/
def entriesAt (store : Store) (uri : String) (kind : Kind) : List (String × Item) :=
  (store.entriesUnder uri).filterMap fun (other, symbol) =>
    if other = kind then some symbol else none

/-- Where the symbol of an entry stands. -/
def place (entry : String × Kind × String × Item) : String × Kind × String :=
  (entry.1, Partition.place entry.2)

variable {store : Store} {uri : String} {kind : Kind} {name : String} {item : Item}

theorem entries_eq_elements (store : Store) :
    store.entries = OrderedMap.elements Partition.entries store.partitions := rfl

theorem mem_maps_iff {items : ItemMap} :
    (uri, kind, items) ∈ store.maps ↔ store.map? uri kind = some items := by
  rw [maps, OrderedMap.mem_elements_iff, map?, Option.bind_eq_some_iff]
  simp only [OrderedMap.get?_eq_some_iff, get?]

theorem mem_entries_iff :
    (uri, kind, name, item) ∈ store.entries ↔ store.item? uri kind name = some item := by
  rw [entries_eq_elements, OrderedMap.mem_elements_iff, item?, map?, Option.bind_assoc,
    Option.bind_eq_some_iff]
  simp only [Partition.mem_entries_iff, Option.bind_eq_some_iff, get?]

theorem entriesUnder_eq (store : Store) (uri : String) :
    store.entriesUnder uri = ((store.get? uri).map Partition.entries).getD [] :=
  OrderedMap.filterMap_elements Partition.entries store.partitions uri

theorem entriesAt_eq (store : Store) (uri : String) (kind : Kind) :
    store.entriesAt uri kind = ((store.map? uri kind).map OrderedMap.toList).getD [] := by
  rw [entriesAt, entriesUnder_eq, map?]
  cases store.get? uri with
  | none => rfl
  | some partition => exact OrderedMap.filterMap_elements OrderedMap.toList partition kind

theorem names_eq (store : Store) (uri : String) (kind : Kind) :
    store.names uri kind = (store.entriesAt uri kind).map Prod.fst := by
  rw [names, entriesAt_eq]
  cases store.map? uri kind with
  | none => rfl
  | some items => rfl

theorem contains_of_mem_entries {entry : String × Kind × String × Item}
    (member : entry ∈ store.entries) : store.contains entry.1 = true := by
  obtain ⟨partition, found, _⟩ := OrderedMap.mem_elements_iff.mp member
  exact Option.isSome_iff_exists.mpr ⟨partition, found⟩

theorem nodup_map_place_entries (store : Store) : (store.entries.map place).Nodup := by
  have placed : store.entries.map place =
      OrderedMap.elements Partition.places store.partitions := by
    rw [← funext Partition.map_place_entries, ← OrderedMap.map_elements]
    rfl
  rw [placed]
  exact OrderedMap.nodup_elements fun entry _ => Partition.nodup_places entry.2

/-- Every query shows the entries that it asks for, in their order, and nothing else. -/
structure ShowsEntries (store : Store) : Prop where
  partition : ∀ uri, ((store.get? uri).map Partition.entries).getD [] = store.entriesUnder uri
  map : ∀ uri kind,
    ((store.map? uri kind).map OrderedMap.toList).getD [] = store.entriesAt uri kind
  names : ∀ uri kind, store.names uri kind = (store.entriesAt uri kind).map Prod.fst
  item : ∀ uri kind name item,
    store.item? uri kind name = some item ↔ (uri, kind, name, item) ∈ store.entries
  membership : ∀ entry ∈ store.entries, store.contains entry.1 = true
  apart : (store.entries.map place).Nodup

theorem showsEntries (store : Store) : ShowsEntries store where
  partition uri := (entriesUnder_eq store uri).symm
  map uri kind := (entriesAt_eq store uri kind).symm
  names := names_eq store
  item _ _ _ _ := mem_entries_iff.symm
  membership _ := contains_of_mem_entries
  apart := nodup_map_place_entries store

/-!
## Searching by name
-/

/-- The symbols of one name, each once with its source and kind, in the order of the entries. -/
structure IsSearch (name : String) (store : Store) (found : List (String × Kind × Item)) :
    Prop where
  present : ∀ uri kind item,
    (uri, kind, item) ∈ found ↔ store.item? uri kind name = some item
  once : (found.map fun (uri, kind, _) => (uri, kind)).Nodup
  inOrder : (found.map fun (uri, kind, item) => (uri, kind, name, item)).Sublist store.entries

theorem map_find (name : String) (store : Store) :
    ((store.find name).map fun (uri, kind, item) => (uri, kind, name, item)) =
      store.entries.filter fun entry => entry.2.2.1 = name := by
  rw [find, List.map_filterMap, ← List.filterMap_eq_filter]
  congr 1
  funext entry
  obtain ⟨uri, kind, other, item⟩ := entry
  by_cases same : other = name
  · subst same
    simp [Option.guard]
  · simp [Option.guard, same]

theorem mem_find_iff :
    (uri, kind, item) ∈ store.find name ↔ store.item? uri kind name = some item := by
  rw [← mem_entries_iff]
  constructor
  · intro member
    have listed := List.mem_map_of_mem (f := fun (uri, kind, item) => (uri, kind, name, item)) member
    rw [map_find] at listed
    exact (List.mem_filter.mp listed).1
  · intro listed
    exact List.mem_filterMap.mpr ⟨_, listed, if_pos rfl⟩

theorem isSearch_find (name : String) (store : Store) : IsSearch name store (store.find name) := by
  have inOrder : ((store.find name).map fun (uri, kind, item) => (uri, kind, name, item)).Sublist
      store.entries := by
    rw [map_find]
    exact List.filter_sublist
  refine ⟨fun uri kind item => mem_find_iff, ?once, inOrder⟩
  case once =>
    have places := (inOrder.map place).nodup (nodup_map_place_entries store)
    rw [List.map_map] at places
    have named : (store.find name).map (place ∘ fun (uri, kind, item) => (uri, kind, name, item)) =
        ((store.find name).map fun (uri, kind, _) => (uri, kind)).map
          fun (uri, kind) => (uri, kind, name) := by
      rw [List.map_map]
      rfl
    rw [named] at places
    exact places.of_map

end SpecLexicon.Store
