import SpecLexicon.Item

/-!
# The store

All symbols, source by source. A source holds a partition, and writing to one source leaves the
others as they are, except that two sources may be made to share one partition: then a write to one
is seen under both, until one of them is installed anew or removed.
-/

set_option autoImplicit false

namespace SpecLexicon

/-- The partitions of the sources, in the order in which the sources came. Sources that stand under
the same number in `shares` share one partition. -/
structure Store where
  partitions : OrderedMap String Partition
  shares : OrderedMap String Nat

namespace Store

def empty : Store := ⟨.empty, .empty⟩

instance : Inhabited Store := ⟨empty⟩

def get? (store : Store) (uri : String) : Option Partition :=
  store.partitions.get? uri

/-- A source is in the store, be its partition empty or not. -/
def contains (store : Store) (uri : String) : Bool :=
  (store.get? uri).isSome

def map? (store : Store) (uri : String) (kind : Kind) : Option ItemMap :=
  (store.get? uri).bind fun partition => partition.get? kind

def item? (store : Store) (uri : String) (kind : Kind) (name : String) : Option Item :=
  (store.map? uri kind).bind fun items => items.get? name

/-- The names of one kind of a source, in order; none if there is no such kind. -/
def names (store : Store) (uri : String) (kind : Kind) : List String :=
  match store.map? uri kind with
  | none => []
  | some items => items.keys

def entries (store : Store) : List (String × Kind × String × Item) :=
  store.partitions.toList.flatMap fun (uri, partition) =>
    (Partition.entries partition).map fun entry => (uri, entry)

def find (store : Store) (name : String) : List (String × Kind × Item) :=
  store.entries.filterMap fun (uri, kind, other, item) =>
    if other = name then some (uri, kind, item) else none

/-- Two sources share one partition. A source shares its partition with itself. -/
def sharing (store : Store) (uri other : String) : Bool :=
  uri == other ||
    match store.shares.get? uri, store.shares.get? other with
    | some left, some right => left == right
    | _, _ => false

/-- Change the partition of a source, under every source that shares it. -/
def update (store : Store) (uri : String) (change : Partition → Partition) : Store :=
  { store with
    partitions := store.partitions.mapValues fun other partition =>
      if store.sharing uri other then change partition else partition }

/-- Put a partition under a source. Its previous one stays with the sources that shared it. -/
def install (store : Store) (uri : String) (partition : Partition) : Store where
  partitions := store.partitions.insert uri partition
  shares := store.shares.erase uri

/-- Add an empty map for every kind that a source does not have yet. -/
def register (store : Store) (uri : String) (kinds : List Kind) : Store :=
  let known := if store.contains uri then store else store.install uri .empty
  known.update uri fun partition =>
    kinds.foldl (fun grown kind => grown.insertIfNew kind .empty) partition

def remove (store : Store) (uri : String) : Store where
  partitions := store.partitions.erase uri
  shares := store.shares.erase uri

def setMap (store : Store) (uri : String) (kind : Kind) (items : ItemMap) : Store :=
  store.update uri fun partition => partition.modify kind fun _ => items

def clear (store : Store) (uri : String) (kind : Kind) : Store :=
  store.update uri fun partition => partition.modify kind OrderedMap.clear

/-- Write one symbol. Nothing happens if the source does not have the kind. -/
def put (store : Store) (uri : String) (kind : Kind) (name : String) (item : Item) : Store :=
  store.update uri fun partition => partition.modify kind fun items => items.insert name item

def freshShare (store : Store) : Nat :=
  store.shares.toList.foldl (fun bound entry => max bound (entry.2 + 1)) 0

/-- Let a second source share the partition of a first one. Nothing happens if there is none. -/
def share (store : Store) (uri other : String) : Store :=
  match store.get? uri with
  | none => store
  | some partition =>
    if uri = other then store
    else
      let number := (store.shares.get? uri).getD store.freshShare
      { partitions := store.partitions.insert other partition
        shares := (store.shares.insert uri number).insert other number }

/-- Installing a partition is seen under its own source and nowhere else. -/
theorem get?_install (store : Store) (uri other : String) (partition : Partition) :
    (store.install uri partition).get? other =
      if uri = other then some partition else store.get? other :=
  OrderedMap.get?_insert store.partitions uri other partition

theorem get?_remove (store : Store) (uri other : String) :
    (store.remove uri).get? other = if other = uri then none else store.get? other :=
  OrderedMap.get?_erase store.partitions uri other

/-- A change is seen under every source that shares the partition and nowhere else. -/
theorem get?_update (store : Store) (uri other : String) (change : Partition → Partition) :
    (store.update uri change).get? other =
      (store.get? other).map fun partition =>
        if store.sharing uri other then change partition else partition := by
  simp [get?, update]

/-- Without sharing a source shares with itself only. -/
theorem sharing_eq_of_shares_empty {store : Store} (unshared : store.shares = .empty)
    (uri other : String) : store.sharing uri other = (uri == other) := by
  simp [sharing, unshared]

/-- The symbols of one kind after they were replaced, while nothing is shared. -/
theorem map?_setMap {store : Store} (unshared : store.shares = .empty) (uri other : String)
    (kind otherKind : Kind) (items : ItemMap) :
    (store.setMap uri kind items).map? other otherKind =
      if uri = other ∧ kind = otherKind then (store.map? other otherKind).map fun _ => items
      else store.map? other otherKind := by
  rw [map?, setMap, get?_update, sharing_eq_of_shares_empty unshared, map?]
  cases found : store.get? other with
  | none => simp
  | some partition =>
    by_cases same : uri = other
    · subst same
      by_cases equal : kind = otherKind
      · subst equal
        simp [OrderedMap.get?_modify]
      · simp [OrderedMap.get?_modify, equal, Ne.symm equal]
    · simp [same]

@[simp] theorem shares_setMap (store : Store) (uri : String) (kind : Kind) (items : ItemMap) :
    (store.setMap uri kind items).shares = store.shares := rfl

end Store

end SpecLexicon
