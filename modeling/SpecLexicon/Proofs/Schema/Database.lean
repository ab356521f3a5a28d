import SpecLexicon.Proofs.OrderedMap
import SpecLexicon.Proofs.Schema.Item
import SpecLexicon.Schema.Database

/-!
# Databases written and read

A partition of the five documented kinds is accepted in the form in which it is written, whatever
the order of its groups, and gives what was written, down to the order of the names in each group.
Whatever else is accepted has the same five kinds, each read from its group.
-/

set_option autoImplicit false

namespace SpecLexicon

open Schema

theorem Json.field?_eq_none_of_not_mem {name : String} {fields : List (LooseText × Json)}
    (absent : .text name ∉ fields.map Prod.fst) : field? name fields = none := by
  induction fields with
  | nil => rfl
  | cons field rest ih =>
    rw [List.map_cons, List.mem_cons, not_or] at absent
    rw [field?, ih absent.2]
    exact if_neg (Ne.symm absent.1)

/-- Where no key is repeated, the order of the fields does not matter. -/
theorem Json.field?_of_mem {name : String} {value : Json} {fields : List (LooseText × Json)}
    (distinct : (fields.map Prod.fst).Nodup) (member : (.text name, value) ∈ fields) :
    field? name fields = some value := by
  induction fields with
  | nil => cases member
  | cons field rest ih =>
    obtain ⟨absent, others⟩ := List.nodup_cons.mp distinct
    rcases List.mem_cons.mp member with rfl | later
    · rw [field?, field?_eq_none_of_not_mem absent]
      exact if_pos rfl
    · rw [field?, ih others later]

theorem Json.mem_of_field? {name : String} {value : Json} {fields : List (LooseText × Json)}
    (found : field? name fields = some value) : (.text name, value) ∈ fields := by
  induction fields with
  | nil => cases found
  | cons field rest ih =>
    obtain ⟨key, first⟩ := field
    rw [field?] at found
    split at found
    · rename_i later behind
      exact List.mem_cons_of_mem _ (ih (behind.trans found))
    · split at found
      · rename_i same
        cases found
        exact same ▸ List.mem_cons_self
      · cases found

variable {τ : Type}

theorem ItemMap.ofJson_toJson [TextForm τ] [DecidableEq τ] (items : ItemMap τ) :
    ItemMap.ofJson (ItemMap.toJson items) = .valid items := by
  rw [ItemMap.toJson, ItemMap.ofJson, Checked.all_map_eq_valid id items.toList, List.map_id,
    Checked.map_valid]
  · exact congrArg Checked.valid
      (OrderedMap.ext (OrderedMap.toList_ofList_of_nodup items.keys_nodup))
  · intro entry _
    simp [entryOfJson, Item.ofJson_toJson, TextForm.read_write]

namespace Partition

/-- The partition holds the five documented kinds, in the order of the manual. -/
def IsDatabase (partition : Partition τ) : Prop :=
  OrderedMap.keys partition = [.constant, .variableDef, .macroDef, .function, .keyword]

instance (partition : Partition τ) : Decidable (IsDatabase partition) :=
  inferInstanceAs (Decidable (OrderedMap.keys partition = _))

/-- The partition of five groups, in the order of the manual. -/
def ofGroups (constants variableDefs macros functions keywords : ItemMap τ) : Partition τ :=
  .ofList [(.constant, constants), (.variableDef, variableDefs), (.macroDef, macros),
    (.function, functions), (.keyword, keywords)]

theorem toList_ofGroups (constants variableDefs macros functions keywords : ItemMap τ) :
    (ofGroups constants variableDefs macros functions keywords).toList =
      [(.constant, constants), (.variableDef, variableDefs), (.macroDef, macros),
        (.function, functions), (.keyword, keywords)] :=
  OrderedMap.toList_ofList_of_nodup (by simp)

theorem isDatabase_ofGroups (constants variableDefs macros functions keywords : ItemMap τ) :
    IsDatabase (ofGroups constants variableDefs macros functions keywords) := by
  rw [IsDatabase, OrderedMap.keys, toList_ofGroups]
  rfl

theorem IsDatabase.exists_eq_ofGroups {partition : Partition τ}
    (isDatabase : IsDatabase partition) :
    ∃ constants variableDefs macros functions keywords,
      partition = ofGroups constants variableDefs macros functions keywords := by
  obtain ⟨⟨_, constants⟩, _, whole, rfl, behind⟩ := List.map_eq_cons_iff.mp isDatabase
  obtain ⟨⟨_, variableDefs⟩, _, rfl, rfl, second⟩ := List.map_eq_cons_iff.mp behind
  obtain ⟨⟨_, macros⟩, _, rfl, rfl, third⟩ := List.map_eq_cons_iff.mp second
  obtain ⟨⟨_, functions⟩, _, rfl, rfl, fourth⟩ := List.map_eq_cons_iff.mp third
  obtain ⟨⟨_, keywords⟩, _, rfl, rfl, nothing⟩ := List.map_eq_cons_iff.mp fourth
  obtain rfl := List.map_eq_nil_iff.mp nothing
  exact ⟨constants, variableDefs, macros, functions, keywords,
    OrderedMap.ext (whole.trans (toList_ofGroups ..).symm)⟩

/-- A database holds every kind that has a group in documents. -/
theorem IsDatabase.exists_get? {partition : Partition τ} (isDatabase : IsDatabase partition)
    {kind : Kind} {name : String} (grouped : kind.group? = some name) :
    ∃ items, OrderedMap.get? partition kind = some items := by
  have listed : kind ∈ OrderedMap.keys partition := by
    rw [show OrderedMap.keys partition = _ from isDatabase]
    cases kind with
    | constant | variableDef | macroDef | function | keyword => decide
    | undefined | snippet | member | unlisted => cases grouped
  obtain ⟨⟨_, items⟩, stored, rfl⟩ := List.mem_map.mp listed
  exact ⟨items, OrderedMap.get?_eq_some_iff.mpr stored⟩

section Documents

variable [TextForm τ]

/-- The groups of a document, under their names. -/
def groups (partition : Partition τ) : List (LooseText × Json) :=
  partition.toList.filterMap fun (kind, items) =>
    kind.group?.map fun name => (.text name, ItemMap.toJson items)

theorem groups_ofGroups (constants variableDefs macros functions keywords : ItemMap τ) :
    groups (ofGroups constants variableDefs macros functions keywords) =
      [(.text "constants", ItemMap.toJson constants),
        (.text "variables", ItemMap.toJson variableDefs),
        (.text "macros", ItemMap.toJson macros), (.text "functions", ItemMap.toJson functions),
        (.text "keywords", ItemMap.toJson keywords)] := by
  rw [groups, toList_ofGroups]
  rfl

/-- The order in which a document lists its groups does not matter. -/
theorem ofJson_object_of_perm [DecidableEq τ] {partition : Partition τ}
    (isDatabase : IsDatabase partition) {fields : List (LooseText × Json)} (listed : fields.Perm (groups partition)) :
    Partition.ofJson (.object fields) = .valid partition := by
  obtain ⟨constants, variableDefs, macros, functions, keywords, rfl⟩ :=
    isDatabase.exists_eq_ofGroups
  rw [groups_ofGroups] at listed
  have distinct : (fields.map Prod.fst).Nodup := (listed.map Prod.fst).nodup_iff.mpr (by simp)
  have group {name : String} {items : ItemMap τ}
      (member : (.text name, ItemMap.toJson items) ∈ fields) :
      required name ItemMap.ofJson fields = .valid items :=
    required_of_field? (Json.field?_of_mem distinct member) (ItemMap.ofJson_toJson items)
  have constantsRead : required "constants" ItemMap.ofJson fields = .valid constants :=
    group (listed.mem_iff.mpr (by simp))
  have variablesRead : required "variables" ItemMap.ofJson fields = .valid variableDefs :=
    group (listed.mem_iff.mpr (by simp))
  have functionsRead : required "functions" ItemMap.ofJson fields = .valid functions :=
    group (listed.mem_iff.mpr (by simp))
  have macrosRead : required "macros" ItemMap.ofJson fields = .valid macros :=
    group (listed.mem_iff.mpr (by simp))
  have keywordsRead : required "keywords" ItemMap.ofJson fields = .valid keywords :=
    group (listed.mem_iff.mpr (by simp))
  rw [Partition.ofJson, model, constantsRead, variablesRead, functionsRead, macrosRead,
    keywordsRead]
  rfl

/-- A partition of the five documented kinds, each of them read from its group in a document. -/
structure IsReadFrom [DecidableEq τ] (partition : Partition τ)
    (fields : List (LooseText × Json)) : Prop where
  isDatabase : IsDatabase partition
  groups : ∀ kind items, (kind, items) ∈ partition.toList → ∃ name,
    kind.group? = some name ∧ required name ItemMap.ofJson fields = .valid items

theorem exists_isReadFrom [DecidableEq τ] {json : Json} {partition : Partition τ}
    (accepted : Partition.ofJson json = .valid partition) :
    ∃ fields, json = .object fields ∧ IsReadFrom partition fields := by
  obtain ⟨fields, rfl, checked⟩ := model_eq_valid_iff.mp accepted
  obtain ⟨⟨constants, variableDefs, functions, macros, keywords⟩, parts, rfl⟩ :=
    Checked.map_eq_valid_iff.mp checked
  obtain ⟨constantsRead, parts⟩ := Checked.both_eq_valid_iff.mp parts
  obtain ⟨variablesRead, parts⟩ := Checked.both_eq_valid_iff.mp parts
  obtain ⟨functionsRead, parts⟩ := Checked.both_eq_valid_iff.mp parts
  obtain ⟨macrosRead, keywordsRead⟩ := Checked.both_eq_valid_iff.mp parts
  refine ⟨fields, rfl, isDatabase_ofGroups constants variableDefs macros functions keywords, ?_⟩
  intro kind items stored
  have listed := OrderedMap.mem_of_mem_ofList stored
  simp only [List.mem_cons, List.not_mem_nil, or_false, Prod.mk.injEq] at listed
  obtain ⟨rfl, rfl⟩ | ⟨rfl, rfl⟩ | ⟨rfl, rfl⟩ | ⟨rfl, rfl⟩ | ⟨rfl, rfl⟩ := listed
  · exact ⟨_, rfl, constantsRead⟩
  · exact ⟨_, rfl, variablesRead⟩
  · exact ⟨_, rfl, macrosRead⟩
  · exact ⟨_, rfl, functionsRead⟩
  · exact ⟨_, rfl, keywordsRead⟩

/-- Whatever is accepted has the five documented kinds. -/
theorem isDatabase_of_ofJson [DecidableEq τ] {json : Json} {partition : Partition τ}
    (accepted : Partition.ofJson json = .valid partition) : IsDatabase partition := by
  obtain ⟨_, _, readFrom⟩ := exists_isReadFrom accepted
  exact readFrom.isDatabase

end Documents

end Partition

end SpecLexicon
