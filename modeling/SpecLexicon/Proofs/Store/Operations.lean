import SpecLexicon.Proofs.Store.Entries

/-!
# Writing to a store

An operation is addressed to a source or to one kind of a source. Whatever it is not addressed to
stays as it is and where it is. Registering adds empty maps behind those that are there, and a source
that is written again keeps its place. All of this holds after any sequence of operations, since
none of them makes two sources share a partition.
-/

set_option autoImplicit false

namespace SpecLexicon

theorem filter_map_eq_filter {α : Type} {f : α → α} {chosen : α → Bool} {items : List α}
    (same : ∀ item, chosen (f item) = chosen item)
    (kept : ∀ item, chosen item = true → f item = item) :
    (items.map f).filter chosen = items.filter chosen := by
  rw [List.filter_map, show chosen ∘ f = chosen from funext same]
  refine (List.map_congr_left fun item member => ?_).trans (List.map_id _)
  exact kept item (List.mem_filter.mp member).2

namespace Store

inductive Operation where
  | register (uri : String) (kinds : List Kind)
  | install (uri : String) (partition : Partition)
  | remove (uri : String)
  | clear (uri : String) (kind : Kind)

namespace Operation

def source : Operation → String
  | register uri _ => uri
  | install uri _ => uri
  | remove uri => uri
  | clear uri _ => uri

/-- An operation is addressed to all kinds of a source, or to one. -/
def addresses : Operation → String → Kind → Bool
  | clear uri kind, other, otherKind => other = uri && otherKind = kind
  | operation, other, _ => other = operation.source

def apply : Operation → Store → Store
  | register uri kinds, store => store.register uri kinds
  | install uri partition, store => store.install uri partition
  | remove uri, store => store.remove uri
  | clear uri kind, store => store.clear uri kind

end Operation

/-- The store that a sequence of operations makes of an empty one. -/
def run (operations : List Operation) : Store :=
  operations.foldl (fun store operation => operation.apply store) empty

def sources (store : Store) : List String :=
  store.partitions.keys

/-- The sources after one of them was written: a new one stands behind all others. -/
def sourcesWith (uri : String) (store : Store) : List String :=
  if uri ∈ store.sources then store.sources else store.sources ++ [uri]

/-- The content and the order of all that an operation is not addressed to are the same. -/
structure Operation.KeepsOthers (operation : Operation) (before later : Store) : Prop where
  partitions : (later.partitions.toList.filter fun entry => entry.1 ≠ operation.source) =
    before.partitions.toList.filter fun entry => entry.1 ≠ operation.source
  maps : (later.maps.filter fun map => !operation.addresses map.1 map.2.1) =
    before.maps.filter fun map => !operation.addresses map.1 map.2.1
  read : ∀ uri kind, operation.addresses uri kind = false →
    later.map? uri kind = before.map? uri kind

/-- What an operation does where it is addressed to. -/
def Operation.Effect : Operation → Store → Store → Prop
  | register uri kinds, before, later =>
    later.sources = before.sourcesWith uri ∧ before.maps.Sublist later.maps ∧
      ∃ partition, later.get? uri = some partition ∧
        partition.toList = ((before.get? uri).getD .empty).toList ++
          (kinds.filter fun kind => (before.map? uri kind).isNone).eraseDups.map
            fun kind => (kind, .empty)
  | install uri partition, before, later =>
    later.sources = before.sourcesWith uri ∧ later.get? uri = some partition
  | remove uri, before, later => later.sources = before.sources.filter fun other => other ≠ uri
  | clear uri kind, before, later =>
    later.sources = before.sources ∧
      later.maps = before.maps.map fun (other, otherKind, items) =>
        (other, otherKind, if other = uri ∧ otherKind = kind then .empty else items)

section Others

variable {operation : Operation} {before later : Store}

theorem map?_eq_of_filter_maps_eq (chosen : String → Kind → Bool)
    (same : (later.maps.filter fun map => chosen map.1 map.2.1) =
      before.maps.filter fun map => chosen map.1 map.2.1)
    {uri : String} {kind : Kind} (selected : chosen uri kind = true) :
    later.map? uri kind = before.map? uri kind := by
  refine Option.ext fun items => ?_
  have listed := congrArg ((uri, kind, items) ∈ ·) same
  simpa [List.mem_filter, selected, mem_maps_iff] using listed

theorem keepsOthers_of_maps
    (partitions : (later.partitions.toList.filter fun entry => entry.1 ≠ operation.source) =
      before.partitions.toList.filter fun entry => entry.1 ≠ operation.source)
    (maps : (later.maps.filter fun map => !operation.addresses map.1 map.2.1) =
      before.maps.filter fun map => !operation.addresses map.1 map.2.1) :
    operation.KeepsOthers before later where
  partitions := partitions
  maps := maps
  read uri kind elsewhere :=
    map?_eq_of_filter_maps_eq (fun uri kind => !operation.addresses uri kind) maps
      (by rw [elsewhere, Bool.not_false])

/-- If all kinds of a source are addressed, nothing but the partitions of the others counts. -/
theorem keepsOthers_of_partitions
    (whole : ∀ uri kind, operation.addresses uri kind = decide (uri = operation.source))
    (partitions : (later.partitions.toList.filter fun entry => entry.1 ≠ operation.source) =
      before.partitions.toList.filter fun entry => entry.1 ≠ operation.source) :
    operation.KeepsOthers before later := by
  refine keepsOthers_of_maps partitions ?_
  simp only [whole, ← decide_not]
  rw [maps, OrderedMap.filter_elements (fun uri => decide (uri ≠ operation.source)), partitions,
    ← OrderedMap.filter_elements (fun uri => decide (uri ≠ operation.source)), maps]

end Others

theorem map?_eq_get?_getD (store : Store) (uri : String) (kind : Kind) :
    store.map? uri kind = OrderedMap.get? ((store.get? uri).getD .empty) kind := by
  rw [map?]
  cases store.get? uri with
  | none => rfl
  | some partition => rfl

section Unshared

variable {store : Store} (unshared : store.shares = .empty)

include unshared

theorem shares_apply (operation : Operation) : (operation.apply store).shares = .empty := by
  cases operation with
  | register uri kinds =>
    change (if store.contains uri then store else store.install uri .empty).shares = .empty
    split
    · exact unshared
    · exact shares_install unshared uri .empty
  | install uri partition => exact shares_install unshared uri partition
  | remove uri =>
    change store.shares.erase uri = .empty
    rw [unshared]
    rfl
  | clear uri kind => exact unshared

theorem update_eq (uri : String) (change : Partition → Partition) :
    (store.update uri change).partitions = store.partitions.modify uri change := by
  rw [update, OrderedMap.modify]
  dsimp only
  congr 1
  funext other partition
  rw [sharing_eq_of_shares_empty unshared]
  by_cases same : uri = other
  · simp [same]
  · simp [same, Ne.symm same]

theorem partitions_register (uri : String) (kinds : List Kind) :
    (store.register uri kinds).partitions = store.partitions.insert uri
      (kinds.foldl (fun grown kind => grown.insertIfNew kind .empty)
        ((store.get? uri).getD .empty)) := by
  rw [register]
  cases found : store.get? uri with
  | some partition =>
    rw [contains, found, Option.isSome_some, if_pos rfl, update_eq unshared,
      OrderedMap.modify_eq_insert found]
    rfl
  | none =>
    have installed : (store.install uri .empty).get? uri = some .empty := by
      rw [get?_install, if_pos rfl]
    rw [contains, found, if_neg (by simp), update_eq (shares_install unshared uri .empty),
      OrderedMap.modify_eq_insert installed, install, OrderedMap.insert_insert]
    rfl

theorem maps_clear (uri : String) (kind : Kind) :
    (store.clear uri kind).maps = store.maps.map fun (other, otherKind, items) =>
      (other, otherKind, if other = uri ∧ otherKind = kind then .empty else items) := by
  rw [maps, clear, update_eq unshared, maps, OrderedMap.elements, OrderedMap.elements,
    OrderedMap.modify, OrderedMap.toList_mapValues, List.flatMap_map, List.map_flatMap]
  congr 1
  funext entry
  by_cases same : entry.1 = uri
  · simp [same, OrderedMap.modify, OrderedMap.clear, Function.comp_def]
  · simp [same, Function.comp_def]

theorem keepsOthers_apply (operation : Operation) :
    operation.KeepsOthers store (operation.apply store) := by
  cases operation with
  | register uri kinds =>
    refine keepsOthers_of_partitions (fun _ _ => rfl) ?_
    change ((store.register uri kinds).partitions.toList.filter fun entry => entry.1 ≠ uri) = _
    rw [partitions_register unshared]
    exact OrderedMap.filter_insert_ne _ _ _
  | install uri partition =>
    exact keepsOthers_of_partitions (fun _ _ => rfl) (OrderedMap.filter_insert_ne _ _ _)
  | remove uri =>
    refine keepsOthers_of_partitions (fun _ _ => rfl) ?_
    change ((store.partitions.toList.filter fun entry => entry.1 ≠ uri).filter _) = _
    exact List.filter_eq_self.mpr fun _ member => (List.mem_filter.mp member).2
  | clear uri kind =>
    refine keepsOthers_of_maps ?partitions ?maps
    case partitions =>
      change ((store.clear uri kind).partitions.toList.filter fun entry => entry.1 ≠ uri) = _
      rw [clear, update_eq unshared, OrderedMap.modify, OrderedMap.toList_mapValues]
      refine filter_map_eq_filter (fun _ => rfl) fun entry elsewhere => ?_
      rw [if_neg (of_decide_eq_true elsewhere)]
    case maps =>
      change ((store.clear uri kind).maps.filter _) = _
      rw [maps_clear unshared]
      refine filter_map_eq_filter (fun _ => rfl) fun map elsewhere => ?_
      have different : ¬ (map.1 = uri ∧ map.2.1 = kind) := fun reached => by
        simp [Operation.addresses, reached] at elsewhere
      simp only [if_neg different]

theorem effect_register (uri : String) (kinds : List Kind) :
    (Operation.register uri kinds).Effect store (store.register uri kinds) := by
  have registered := partitions_register unshared uri kinds
  have grown := OrderedMap.toList_foldl_insertIfNew ((store.get? uri).getD .empty) kinds .empty
  simp only [← map?_eq_get?_getD] at grown
  refine ⟨?sources, ?maps, _, ?found, grown⟩
  case sources =>
    exact (congrArg OrderedMap.keys registered).trans (OrderedMap.keys_insert _ _ _)
  case maps =>
    rw [maps, maps, registered]
    refine OrderedMap.elements_sublist_insert ?_
    rw [grown]
    change (((store.get? uri).map OrderedMap.toList).getD []).Sublist _
    cases store.get? uri with
    | none => exact List.nil_sublist _
    | some partition => exact List.sublist_append_left _ _
  case found =>
    rw [get?, registered, OrderedMap.get?_insert, if_pos rfl]

theorem effect_apply (operation : Operation) :
    operation.Effect store (operation.apply store) := by
  cases operation with
  | register uri kinds => exact effect_register unshared uri kinds
  | install uri partition =>
    refine ⟨OrderedMap.keys_insert _ _ _, ?_⟩
    exact (get?_install store uri uri partition).trans (if_pos rfl)
  | remove uri =>
    change (store.partitions.toList.filter _).map Prod.fst = store.sources.filter _
    rw [sources, OrderedMap.keys, List.filter_map]
    rfl
  | clear uri kind => exact ⟨OrderedMap.keys_mapValues _ _, maps_clear unshared uri kind⟩

end Unshared

theorem shares_run (operations : List Operation) : (run operations).shares = .empty := by
  suffices kept : ∀ store : Store, store.shares = .empty →
      (operations.foldl (fun store operation => operation.apply store) store).shares = .empty from
    kept empty rfl
  induction operations with
  | nil => exact fun _ unshared => unshared
  | cons operation rest ih => exact fun _ unshared => ih _ (shares_apply unshared operation)

/-- After any sequence of operations the next one changes only what it is addressed to, and all
queries show the entries of the store. -/
theorem keepsOthers_and_showsEntries (operations : List Operation) :
    (∀ operation : Operation,
      operation.KeepsOthers (run operations) (operation.apply (run operations)) ∧
        operation.Effect (run operations) (operation.apply (run operations))) ∧
      ShowsEntries (run operations) ∧
      ∀ name, IsSearch name (run operations) ((run operations).find name) := by
  have unshared := shares_run operations
  refine ⟨fun operation => ⟨?_, ?_⟩, showsEntries _, fun name => isSearch_find name _⟩
  · exact keepsOthers_apply unshared operation
  · exact effect_apply unshared operation

end Store

end SpecLexicon
