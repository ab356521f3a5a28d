/-!
# Ordered maps

A map that remembers the order in which its keys first appeared. Writing to a key that is present
replaces the value and keeps the place; writing to a new key appends it. Two maps are equal when
they hold the same entries in the same order.
-/

set_option autoImplicit false

namespace SpecLexicon

/-- A finite map whose entries stand in the order of first insertion. No key stands twice. -/
structure OrderedMap (α β : Type) where
  /-- The entries, in order. -/
  toList : List (α × β)
  keys_nodup : (toList.map Prod.fst).Nodup

namespace OrderedMap

variable {α β γ : Type}

@[ext] theorem ext {left right : OrderedMap α β} (same : left.toList = right.toList) :
    left = right := by
  cases left
  cases right
  cases same
  rfl

instance [DecidableEq α] [DecidableEq β] : DecidableEq (OrderedMap α β) := fun left right =>
  decidable_of_iff (left.toList = right.toList) ⟨ext, fun same => same ▸ rfl⟩

def empty : OrderedMap α β := ⟨[], List.nodup_nil⟩

instance : Inhabited (OrderedMap α β) := ⟨empty⟩

def keys (map : OrderedMap α β) : List α := map.toList.map Prod.fst

def size (map : OrderedMap α β) : Nat := map.toList.length

def isEmpty (map : OrderedMap α β) : Bool := map.toList.isEmpty

def clear (_ : OrderedMap α β) : OrderedMap α β := empty

def mapValues (f : α → β → γ) (map : OrderedMap α β) : OrderedMap α γ where
  toList := map.toList.map fun entry => (entry.1, f entry.1 entry.2)
  keys_nodup := by
    have same : (map.toList.map fun entry => (entry.1, f entry.1 entry.2)).map Prod.fst =
        map.toList.map Prod.fst := by simp [Function.comp_def]
    rw [same]
    exact map.keys_nodup

/-- The same entries under other names, which keep different keys apart. -/
def rename {δ : Type} (name : α → γ) (apart : ∀ left right, name left = name right → left = right)
    (f : β → δ) (map : OrderedMap α β) : OrderedMap γ δ where
  toList := map.toList.map (Prod.map name f)
  keys_nodup := by
    have same : (map.toList.map (Prod.map name f)).map Prod.fst =
        (map.toList.map Prod.fst).map name := by simp [Function.comp_def]
    rw [same]
    exact List.Pairwise.map name (fun _ _ different equal => different (apart _ _ equal))
      map.keys_nodup

section Lookup

variable [DecidableEq α]

def lookup (key : α) : List (α × β) → Option β
  | [] => none
  | (other, value) :: rest => if other = key then some value else lookup key rest

/-- Write a value into a list of entries: in place if the key is there, else at the end. -/
def write (key : α) (value : β) : List (α × β) → List (α × β)
  | [] => [(key, value)]
  | (other, previous) :: rest =>
    if other = key then (key, value) :: rest else (other, previous) :: write key value rest

theorem map_fst_write (key : α) (value : β) (entries : List (α × β)) :
    (write key value entries).map Prod.fst =
      if key ∈ entries.map Prod.fst then entries.map Prod.fst
      else entries.map Prod.fst ++ [key] := by
  induction entries with
  | nil => simp [write]
  | cons entry rest ih =>
    obtain ⟨other, previous⟩ := entry
    by_cases same : other = key
    · simp [write, same]
    · by_cases later : key ∈ rest.map Prod.fst
      · simp only [write, if_neg same, List.map_cons, ih, if_pos later]
        simp [List.mem_cons, later]
      · have absent : ¬ (key = other ∨ key ∈ rest.map Prod.fst) := by
          rintro (equal | member)
          · exact same equal.symm
          · exact later member
        simp only [write, if_neg same, List.map_cons, ih, if_neg later, List.mem_cons,
          if_neg absent, List.cons_append]

theorem nodup_write {key : α} {value : β} {entries : List (α × β)}
    (distinct : (entries.map Prod.fst).Nodup) :
    ((write key value entries).map Prod.fst).Nodup := by
  rw [map_fst_write]
  split
  · exact distinct
  · rename_i absent
    rw [List.nodup_append]
    refine ⟨distinct, by simp, ?_⟩
    intro a member b single
    simp only [List.mem_singleton] at single
    subst single
    intro equal
    subst equal
    exact absent member

def get? (map : OrderedMap α β) (key : α) : Option β := lookup key map.toList

def contains (map : OrderedMap α β) (key : α) : Bool := (map.get? key).isSome

/-- Write a value under a key: in place if the key is there, else as the last entry. -/
def insert (map : OrderedMap α β) (key : α) (value : β) : OrderedMap α β where
  toList := write key value map.toList
  keys_nodup := nodup_write map.keys_nodup

def erase (map : OrderedMap α β) (key : α) : OrderedMap α β where
  toList := map.toList.filter fun entry => entry.1 ≠ key
  keys_nodup := map.keys_nodup.sublist (List.filter_sublist.map Prod.fst)

/-- Insert entries one after the other: a repeated key keeps its first place and its last value. -/
def insertMany (map : OrderedMap α β) (entries : List (α × β)) : OrderedMap α β :=
  entries.foldl (fun filled entry => filled.insert entry.1 entry.2) map

/-- The map of a list of entries. A repeated key keeps its first place and its last value. -/
def ofList (entries : List (α × β)) : OrderedMap α β := empty.insertMany entries

def insertIfNew (map : OrderedMap α β) (key : α) (value : β) : OrderedMap α β :=
  if map.contains key then map else map.insert key value

def modify (map : OrderedMap α β) (key : α) (f : β → β) : OrderedMap α β :=
  map.mapValues fun other value => if other = key then f value else value

theorem lookup_write (key other : α) (value : β) (entries : List (α × β)) :
    lookup other (write key value entries) =
      if key = other then some value else lookup other entries := by
  induction entries with
  | nil => simp [write, lookup]
  | cons entry rest ih =>
    obtain ⟨first, previous⟩ := entry
    by_cases same : first = key
    · subst same
      by_cases equal : first = other <;> simp [write, lookup, equal]
    · by_cases equal : first = other
      · subst equal
        simp [write, lookup, same, Ne.symm same]
      · simp [write, lookup, same, equal, ih]

@[simp] theorem get?_empty (key : α) : (empty : OrderedMap α β).get? key = none := rfl

theorem get?_insert (map : OrderedMap α β) (key other : α) (value : β) :
    (map.insert key value).get? other = if key = other then some value else map.get? other :=
  lookup_write key other value map.toList

theorem keys_insert (map : OrderedMap α β) (key : α) (value : β) :
    (map.insert key value).keys = if key ∈ map.keys then map.keys else map.keys ++ [key] :=
  map_fst_write key value map.toList

theorem lookup_eq_none_iff {key : α} {entries : List (α × β)} :
    lookup key entries = none ↔ key ∉ entries.map Prod.fst := by
  induction entries with
  | nil => simp [lookup]
  | cons entry rest ih =>
    obtain ⟨other, value⟩ := entry
    by_cases same : other = key
    · simp [lookup, same]
    · have different : ¬ key = other := fun equal => same equal.symm
      simp only [lookup, if_neg same, ih, List.map_cons, List.mem_cons, different, false_or]

theorem get?_eq_none_iff {map : OrderedMap α β} {key : α} :
    map.get? key = none ↔ key ∉ map.keys :=
  lookup_eq_none_iff

theorem lookup_eq_some_iff {key : α} {value : β} {entries : List (α × β)}
    (distinct : (entries.map Prod.fst).Nodup) :
    lookup key entries = some value ↔ (key, value) ∈ entries := by
  induction entries with
  | nil => simp [lookup]
  | cons entry rest ih =>
    obtain ⟨other, previous⟩ := entry
    simp only [List.map_cons, List.nodup_cons] at distinct
    by_cases same : other = key
    · subst same
      have absent : ∀ v, (other, v) ∉ rest := fun v member =>
        distinct.1 (List.mem_map.mpr ⟨_, member, rfl⟩)
      simp [lookup, absent, eq_comm]
    · have different : ¬ key = other := fun equal => same equal.symm
      simp [lookup, same, different, ih distinct.2]

theorem get?_eq_some_iff {map : OrderedMap α β} {key : α} {value : β} :
    map.get? key = some value ↔ (key, value) ∈ map.toList :=
  lookup_eq_some_iff map.keys_nodup

theorem lookup_map (key : α) (f : α → β → γ) (entries : List (α × β)) :
    lookup key (entries.map fun entry => (entry.1, f entry.1 entry.2)) =
      (lookup key entries).map (f key) := by
  induction entries with
  | nil => rfl
  | cons entry rest ih =>
    obtain ⟨other, value⟩ := entry
    by_cases same : other = key
    · subst same
      simp [lookup]
    · simpa [lookup, same] using ih

@[simp] theorem get?_mapValues (f : α → β → γ) (map : OrderedMap α β) (key : α) :
    (map.mapValues f).get? key = (map.get? key).map (f key) :=
  lookup_map key f map.toList

theorem get?_modify (map : OrderedMap α β) (key other : α) (f : β → β) :
    (map.modify key f).get? other =
      if other = key then (map.get? other).map f else map.get? other := by
  rw [modify, get?_mapValues]
  by_cases same : other = key
  · simp [same]
  · simp [same]

theorem lookup_filter_ne (key other : α) (entries : List (α × β)) :
    lookup other (entries.filter fun entry => entry.1 ≠ key) =
      if other = key then none else lookup other entries := by
  induction entries with
  | nil => simp [lookup]
  | cons entry rest ih =>
    obtain ⟨first, value⟩ := entry
    by_cases dropped : first = key
    · subst dropped
      rw [List.filter_cons_of_neg (by simp), ih]
      by_cases same : other = first
      · simp [same]
      · simp [lookup, same, Ne.symm same]
    · rw [List.filter_cons_of_pos (by simpa using dropped)]
      by_cases same : first = other
      · subst same
        simp [lookup, dropped]
      · simp only [lookup, if_neg same]
        exact ih

theorem get?_erase (map : OrderedMap α β) (key other : α) :
    (map.erase key).get? other = if other = key then none else map.get? other :=
  lookup_filter_ne key other map.toList

theorem get?_insertIfNew (map : OrderedMap α β) (key other : α) (value : β) :
    (map.insertIfNew key value).get? other =
      if key = other then some ((map.get? key).getD value) else map.get? other := by
  by_cases present : map.contains key = true
  · obtain ⟨found, read⟩ := Option.isSome_iff_exists.mp present
    rw [insertIfNew, if_pos present]
    by_cases same : key = other
    · subst same
      simp [read]
    · simp [same]
  · have absent : map.get? key = none := by
      simpa [contains] using present
    rw [insertIfNew, if_neg present, get?_insert]
    simp [absent]

end Lookup

@[simp] theorem toList_clear (map : OrderedMap α β) : map.clear.toList = [] := rfl

@[simp] theorem toList_mapValues (f : α → β → γ) (map : OrderedMap α β) :
    (map.mapValues f).toList = map.toList.map fun entry => (entry.1, f entry.1 entry.2) := rfl

@[simp] theorem keys_mapValues (f : α → β → γ) (map : OrderedMap α β) :
    (map.mapValues f).keys = map.keys := by
  simp [keys, Function.comp_def]

end OrderedMap

end SpecLexicon
