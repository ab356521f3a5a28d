import SpecLexicon.Item
import SpecLexicon.Proofs.OrderedMap.Nested

/-!
# The entries of a partition

Every symbol of a partition is one of its entries, at a place of its own. A place is a kind with a
name, so one name may stand under several kinds.
-/

set_option autoImplicit false

namespace SpecLexicon.Partition

variable {partition : Partition}

/-- Where a symbol stands in a partition. -/
def place (symbol : Kind × String × Item) : Kind × String :=
  (symbol.1, symbol.2.1)

/-- The places of a partition, kind by kind and name by name. -/
def places (partition : Partition) : List (Kind × String) :=
  partition.toList.flatMap fun (kind, items) => items.keys.map fun name => (kind, name)

theorem entries_eq_elements (partition : Partition) :
    entries partition = OrderedMap.elements OrderedMap.toList partition := rfl

theorem map_place_entries (partition : Partition) :
    (entries partition).map place = places partition :=
  OrderedMap.map_elements Prod.fst OrderedMap.toList partition

theorem mem_entries_iff {kind : Kind} {name : String} {item : Item} :
    (kind, name, item) ∈ entries partition ↔
      ∃ items, partition.get? kind = some items ∧ items.get? name = some item := by
  rw [entries_eq_elements, OrderedMap.mem_elements_iff]
  simp only [OrderedMap.get?_eq_some_iff]

theorem nodup_places (partition : Partition) : (places partition).Nodup :=
  OrderedMap.nodup_elements fun entry _ => entry.2.keys_nodup

end SpecLexicon.Partition
