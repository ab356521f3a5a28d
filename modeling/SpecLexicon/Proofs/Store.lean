import SpecLexicon.Store

/-!
# Laws of the store

Replacing a map of symbols is seen under its own kind only, the last replacement counts, and a
replacement by what is there already changes nothing. Installing a partition leaves all other
sources as they are. These laws make rebuilds of one source independent of the others.
-/

set_option autoImplicit false

namespace SpecLexicon.OrderedMap

variable {α β γ δ : Type}

theorem mapValues_mapValues (f : α → β → γ) (g : α → γ → δ) (map : OrderedMap α β) :
    (map.mapValues f).mapValues g = map.mapValues fun key value => g key (f key value) := by
  apply ext
  simp [Function.comp_def]

theorem mapValues_eq_self {f : α → β → β} {map : OrderedMap α β}
    (kept : ∀ entry ∈ map.toList, f entry.1 entry.2 = entry.2) : map.mapValues f = map := by
  apply ext
  have same : (map.toList.map fun entry => (entry.1, f entry.1 entry.2)) =
      map.toList.map id := by
    apply List.map_congr_left
    intro entry member
    rw [kept entry member]
    rfl
  simpa using same

variable [DecidableEq α]

theorem modify_modify (map : OrderedMap α β) (key : α) (f g : β → β) :
    (map.modify key f).modify key g = map.modify key fun value => g (f value) := by
  rw [modify, modify, mapValues_mapValues, modify]
  congr 1
  funext other value
  by_cases same : other = key
  · simp [same]
  · simp [same]

theorem modify_const_eq_self {map : OrderedMap α β} {key : α} {value : β}
    (present : map.get? key = some value) : map.modify key (fun _ => value) = map := by
  apply mapValues_eq_self
  intro entry member
  by_cases same : entry.1 = key
  · have read : map.get? entry.1 = some entry.2 := get?_eq_some_iff.mpr member
    rw [same, present] at read
    rw [if_pos same]
    exact Option.some.inj read
  · rw [if_neg same]

theorem map_of_absent {key : α} {entries : List (α × β)} (absent : key ∉ entries.map Prod.fst)
    (f : β → β) :
    (entries.map fun entry => (entry.1, if entry.1 = key then f entry.2 else entry.2)) =
      entries := by
  refine (List.map_congr_left fun entry member => ?_).trans (List.map_id entries)
  have different : entry.1 ≠ key := fun same => absent (List.mem_map.mpr ⟨entry, member, same⟩)
  rw [if_neg different]
  rfl

theorem modify_eq_insert {map : OrderedMap α β} {key : α} {value : β}
    (present : map.get? key = some value) (f : β → β) :
    map.modify key f = map.insert key (f value) := by
  apply ext
  have distinct := map.keys_nodup
  unfold get? at present
  unfold modify insert
  rw [toList_mapValues]
  dsimp only
  generalize map.toList = entries at present distinct ⊢
  induction entries with
  | nil => cases present
  | cons entry rest ih =>
    obtain ⟨other, previous⟩ := entry
    obtain ⟨absent, others⟩ := List.nodup_cons.mp distinct
    by_cases same : other = key
    · subst same
      simp only [lookup, if_true, Option.some.injEq] at present
      simp [write, map_of_absent absent, present]
    · simp only [lookup, if_neg same] at present
      rw [List.map_cons, ih present others, write, if_neg same, if_neg same]

end SpecLexicon.OrderedMap

namespace SpecLexicon.Store

@[simp] theorem sharing_self (store : Store) (uri : String) : store.sharing uri uri = true := by
  simp [sharing]

theorem sharing_update (store : Store) (uri : String) (change : Partition → Partition)
    (left right : String) : (store.update uri change).sharing left right =
      store.sharing left right := rfl

theorem update_update (store : Store) (uri : String) (first second : Partition → Partition) :
    (store.update uri first).update uri second =
      store.update uri fun partition => second (first partition) := by
  rw [update]
  simp only [sharing_update]
  simp only [update, OrderedMap.mapValues_mapValues]
  congr 2
  funext other partition
  by_cases reached : store.sharing uri other = true
  · simp [reached]
  · simp [reached]

theorem setMap_setMap (store : Store) (uri : String) (kind : Kind) (first second : ItemMap) :
    (store.setMap uri kind first).setMap uri kind second = store.setMap uri kind second := by
  simp only [setMap, update_update, OrderedMap.modify_modify]

theorem map?_setMap_self (store : Store) (uri : String) (kind : Kind) (items : ItemMap) :
    (store.setMap uri kind items).map? uri kind = (store.map? uri kind).map fun _ => items := by
  rw [map?, setMap, get?_update, sharing_self, map?]
  cases store.get? uri with
  | none => rfl
  | some partition => simp [OrderedMap.get?_modify]

theorem map?_setMap_of_kind_ne {kind other : Kind} (different : other ≠ kind) (store : Store)
    (uri reader : String) (items : ItemMap) :
    (store.setMap uri kind items).map? reader other = store.map? reader other := by
  rw [map?, setMap, get?_update, map?]
  cases store.get? reader with
  | none => rfl
  | some partition =>
    by_cases reached : store.sharing uri reader = true
    · simp [reached, OrderedMap.get?_modify, different]
    · simp [reached]

/-- Replacing symbols by the ones that are there changes nothing while no partition is shared. -/
theorem setMap_eq_self {store : Store} {uri : String} {kind : Kind} {items : ItemMap}
    (unshared : store.shares = .empty) (present : store.map? uri kind = some items) :
    store.setMap uri kind items = store := by
  obtain ⟨partition, found, read⟩ := Option.bind_eq_some_iff.mp present
  have kept : store.partitions.mapValues (fun other known =>
      if store.sharing uri other then known.modify kind fun _ => items else known) =
        store.partitions := by
    apply OrderedMap.mapValues_eq_self
    intro entry member
    rw [sharing_eq_of_shares_empty unshared]
    by_cases same : uri = entry.1
    · have held : store.get? entry.1 = some entry.2 := OrderedMap.get?_eq_some_iff.mpr member
      rw [← same, found] at held
      obtain rfl : partition = entry.2 := Option.some.inj held
      simp [same, OrderedMap.modify_const_eq_self read]
    · simp [same]
  rw [setMap, update, kept]

theorem map?_install_of_ne {uri other : String} (different : uri ≠ other) (store : Store)
    (partition : Partition) (kind : Kind) :
    (store.install uri partition).map? other kind = store.map? other kind := by
  rw [map?, get?_install, if_neg different, map?]

theorem shares_install {store : Store} (unshared : store.shares = .empty) (uri : String)
    (partition : Partition) : (store.install uri partition).shares = .empty := by
  rw [install, unshared]
  rfl

theorem names_congr {store other : Store} {uri : String} {kind : Kind}
    (same : store.map? uri kind = other.map? uri kind) :
    store.names uri kind = other.names uri kind := by
  rw [names, names, same]

end SpecLexicon.Store
