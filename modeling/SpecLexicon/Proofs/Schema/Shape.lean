import SpecLexicon.Proofs.Json.Grammar
import SpecLexicon.Proofs.Schema.Textual

/-!
# The shape of databases

The only numbers of a database are those of its places. Written as a document, a database holds
nothing but texts, words and these numbers, and is nested five levels deep at most. The numbers of a
database that was read are as bounded as those of its document.
-/

set_option autoImplicit false

namespace SpecLexicon

open Schema

/-!
## Numbers
-/

section Numbers

variable {τ : Type}

def Position.IsBounded (limit : Nat) (position : Position) : Prop :=
  position.offset.natAbs < 10 ^ limit ∧ position.line < 10 ^ limit ∧ position.column < 10 ^ limit

instance (limit : Nat) (position : Position) : Decidable (position.IsBounded limit) :=
  inferInstanceAs (Decidable (_ ∧ _ ∧ _))

def Span.IsBounded (limit : Nat) (span : Span) : Prop :=
  span.start.IsBounded limit ∧ span.finish.IsBounded limit

instance (limit : Nat) (span : Span) : Decidable (span.IsBounded limit) :=
  inferInstanceAs (Decidable (_ ∧ _))

def Item.IsBounded (limit : Nat) (item : Item τ) : Prop :=
  ∀ span ∈ item.location, span.IsBounded limit

instance (limit : Nat) (item : Item τ) : Decidable (item.IsBounded limit) :=
  inferInstanceAs (Decidable (∀ span ∈ item.location, span.IsBounded limit))

/-- The numbers in a partition have a bounded number of digits. -/
def Partition.IsBounded (limit : Nat) (partition : Partition τ) : Prop :=
  ∀ group ∈ partition.toList, ∀ entry ∈ group.2.toList, entry.2.IsBounded limit

instance (limit : Nat) (partition : Partition τ) :
    Decidable (Partition.IsBounded limit partition) :=
  inferInstanceAs (Decidable (∀ group ∈ partition.toList, ∀ entry ∈ group.2.toList, _))

end Numbers

/-!
## Written documents are plain
-/

open Json

variable {limit : Nat}

theorem Position.isPlain_toJson {position : Position} (bounded : position.IsBounded limit) :
    IsPlain limit position.toJson := by
  obtain ⟨offset, line, column⟩ := bounded
  refine .object (by simp [LooseText.isText]) ?_
  simp only [List.forall_mem_cons]
  exact ⟨.integer offset, .integer line, .integer column, fun _ member => nomatch member⟩

theorem Span.isPlain_toJson {span : Span} (bounded : span.IsBounded limit) :
    IsPlain limit span.toJson := by
  refine .object (by simp [LooseText.isText]) ?_
  simp only [List.forall_mem_cons]
  exact ⟨Position.isPlain_toJson bounded.1, Position.isPlain_toJson bounded.2,
    fun _ member => nomatch member⟩

theorem Json.isPlain_orNull {α : Type} {write : α → Json} {value : Option α}
    (plain : ∀ present ∈ value, IsPlain limit (write present)) :
    IsPlain limit (orNull write value) := by
  cases value with
  | none => exact .null
  | some present => exact plain present rfl

theorem Json.isPlain_ofText (text : Option String) : IsPlain limit (orNull ofText text) :=
  isPlain_orNull fun _ _ => .string rfl

theorem Overload.isPlain_toJson (overload : Overload) : IsPlain limit overload.toJson := by
  refine .object (by simp [LooseText.isText]) ?_
  simp only [List.forall_mem_cons]
  exact ⟨.string rfl, isPlain_ofText _, fun _ member => nomatch member⟩

theorem Overload.isPlain_list (overloads : List Overload) :
    IsPlain limit (.list (overloads.map Overload.toJson)) := by
  refine .list fun json member => ?_
  obtain ⟨overload, _, rfl⟩ := List.mem_map.mp member
  exact overload.isPlain_toJson

theorem Item.isPlain_toJson {item : Item} (bounded : item.IsBounded limit) :
    IsPlain limit item.toJson := by
  refine .object (by simp [LooseText.isText]) ?_
  simp only [List.forall_mem_cons]
  exact ⟨.string rfl, isPlain_ofText _, isPlain_ofText _, isPlain_ofText _,
    isPlain_orNull fun span present => Span.isPlain_toJson (bounded span present),
    isPlain_orNull fun overloads _ => Overload.isPlain_list overloads,
    fun _ member => nomatch member⟩

theorem ItemMap.isPlain_toJson {items : ItemMap}
    (bounded : ∀ entry ∈ items.toList, entry.2.IsBounded limit) :
    IsPlain limit (ItemMap.toJson items) := by
  refine .object ?_ ?_
  · intro field member
    obtain ⟨entry, _, rfl⟩ := List.mem_map.mp member
    rfl
  · intro field member
    obtain ⟨entry, entryMember, rfl⟩ := List.mem_map.mp member
    exact Item.isPlain_toJson (bounded entry entryMember)

namespace Partition

/-- Every group of a document comes from a group of the partition. -/
theorem exists_of_mem_groups {partition : Partition} {field : LooseText × Json}
    (member : field ∈ groups partition) :
    ∃ name, ∃ group ∈ partition.toList, field = (.text name, ItemMap.toJson group.2) := by
  obtain ⟨group, groupMember, mapped⟩ := List.mem_filterMap.mp member
  obtain ⟨name, _, rfl⟩ := Option.map_eq_some_iff.mp mapped
  exact ⟨name, group, groupMember, rfl⟩

theorem isPlain_of_perm {partition : Partition} (bounded : IsBounded limit partition)
    {fields : List (LooseText × Json)} (listed : fields.Perm (groups partition)) :
    IsPlain limit (.object fields) := by
  refine .object ?_ ?_
  · intro field member
    obtain ⟨name, _, _, rfl⟩ := exists_of_mem_groups (listed.mem_iff.mp member)
    rfl
  · intro field member
    obtain ⟨_, group, groupMember, rfl⟩ := exists_of_mem_groups (listed.mem_iff.mp member)
    exact ItemMap.isPlain_toJson (bounded group groupMember)

end Partition

/-!
## Written documents are shallow
-/

theorem Json.nesting_list_le {items : List Json} {depth : Nat}
    (shallow : ∀ item ∈ items, item.nesting ≤ depth) : nesting (.list items) ≤ depth + 1 := by
  have parts : nestingOfItems items ≤ depth := by
    induction items with
    | nil => exact Nat.zero_le _
    | cons item rest ih =>
      rw [nestingOfItems]
      exact Nat.max_le.mpr ⟨shallow item List.mem_cons_self,
        ih fun other member => shallow other (List.mem_cons_of_mem item member)⟩
  cases items with
  | nil => exact Nat.zero_le _
  | cons item rest => exact Nat.add_le_add_right parts 1

theorem Json.nesting_object_le {fields : List (LooseText × Json)} {depth : Nat}
    (shallow : ∀ field ∈ fields, field.2.nesting ≤ depth) :
    nesting (.object fields) ≤ depth + 1 := by
  have parts : nestingOfFields fields ≤ depth := by
    induction fields with
    | nil => exact Nat.zero_le _
    | cons field rest ih =>
      rw [nestingOfFields]
      exact Nat.max_le.mpr ⟨shallow field List.mem_cons_self,
        ih fun other member => shallow other (List.mem_cons_of_mem field member)⟩
  cases fields with
  | nil => exact Nat.zero_le _
  | cons field rest => exact Nat.add_le_add_right parts 1

theorem Position.nesting_toJson (position : Position) : position.toJson.nesting ≤ 1 :=
  nesting_object_le (by simp [nesting])

theorem Span.nesting_toJson (span : Span) : span.toJson.nesting ≤ 2 :=
  nesting_object_le (by simp [Position.nesting_toJson])

theorem Json.nesting_orNull_le {α : Type} {write : α → Json} {depth : Nat}
    (shallow : ∀ value, (write value).nesting ≤ depth) (value : Option α) :
    (orNull write value).nesting ≤ depth := by
  cases value with
  | none => exact Nat.zero_le depth
  | some value => exact shallow value

theorem Json.nesting_ofText (text : Option String) : (orNull ofText text).nesting = 0 :=
  Nat.le_zero.mp (nesting_orNull_le (fun _ => Nat.le_refl 0) text)

theorem Overload.nesting_toJson (overload : Overload) : overload.toJson.nesting ≤ 1 :=
  nesting_object_le (by simp [nesting, nesting_ofText])

theorem Item.nesting_toJson (item : Item) : item.toJson.nesting ≤ 3 := by
  refine nesting_object_le ?_
  simp only [List.forall_mem_cons, nesting, nesting_ofText]
  exact ⟨Nat.zero_le _, Nat.zero_le _, Nat.zero_le _, Nat.zero_le _,
    nesting_orNull_le Span.nesting_toJson item.location,
    nesting_orNull_le (fun overloads => nesting_list_le (by simp [Overload.nesting_toJson]))
      item.overloads,
    fun _ member => nomatch member⟩

theorem ItemMap.nesting_toJson (items : ItemMap) : (ItemMap.toJson items).nesting ≤ 4 :=
  nesting_object_le fun field member => by
    obtain ⟨entry, _, rfl⟩ := List.mem_map.mp member
    exact entry.2.nesting_toJson

theorem Partition.nesting_of_perm {partition : Partition} {fields : List (LooseText × Json)}
    (listed : fields.Perm (groups partition)) : nesting (.object fields) ≤ 5 :=
  nesting_object_le fun field member => by
    obtain ⟨_, group, _, rfl⟩ := exists_of_mem_groups (listed.mem_iff.mp member)
    exact ItemMap.nesting_toJson group.2

/-!
## Read numbers are bounded
-/

namespace Schema

theorem two_pow_lt_digitLimit : 2 ^ 63 < 10 ^ digitLimit :=
  Nat.lt_of_lt_of_le (by decide : 2 ^ 63 < 10 ^ 19) (Nat.pow_le_pow_right (by decide) (by decide))

theorem natAbs_lt_of_plainInteger? {text : List Char} {value : Int}
    (read : plainInteger? text = some value) : value.natAbs < 10 ^ digitLimit := by
  rw [plainInteger?] at read
  dsimp only at read
  generalize (if text.head? = some '-' then text.drop 1 else text) = unsigned at read
  split at read
  · rename_i fits
    obtain ⟨_, inside, short⟩ := fits
    have small : digitsValue unsigned < 10 ^ digitLimit :=
      Nat.lt_of_lt_of_le (digitsValue_lt_pow (List.all_eq_true.mp inside))
        (Nat.pow_le_pow_right (by decide) short)
    rw [← Option.some.inj read]
    split
    · omega
    · omega
  · cases read

theorem natAbs_lt_of_integerOfText {text : List Char} {value : Int}
    (accepted : integerOfText text = .valid value) : value.natAbs < 10 ^ digitLimit := by
  rw [integerOfText] at accepted
  split at accepted
  · cases accepted
  · split at accepted
    · rename_i found read
      cases accepted
      rw [readInteger?] at read
      dsimp only at read
      split at read
      · cases read
      · split at read
        · cases read
        · exact natAbs_lt_of_plainInteger? read
    · cases accepted

theorem natAbs_lt_of_integerOfReal {real : Binary64} {value : Int}
    (accepted : integerOfReal real = .valid value) : value.natAbs < 10 ^ digitLimit := by
  rw [integerOfReal] at accepted
  split at accepted
  · cases accepted
  · split at accepted
    · cases accepted
    · split at accepted
      · rename_i small
        cases accepted
        exact Nat.lt_trans small two_pow_lt_digitLimit
      · cases accepted

/-- A whole number in any notation has no more digits than those of a document may have. -/
theorem natAbs_lt_of_integer {json : Json} {value : Int} (bounded : Json.IsBounded digitLimit json)
    (accepted : integer json = .valid value) : value.natAbs < 10 ^ digitLimit := by
  cases bounded with
  | integer small =>
    cases accepted
    exact small
  | bool truth =>
    cases accepted
    have small : (if truth then (1 : Int) else 0).natAbs < 2 ^ 63 := by
      cases truth <;> decide
    exact Nat.lt_trans small two_pow_lt_digitLimit
  | real _ => exact natAbs_lt_of_integerOfReal accepted
  | @string loose _ =>
    cases loose with
    | text text => exact natAbs_lt_of_integerOfText accepted
    | broken points halved => cases accepted
  | null | list | object => cases accepted

theorem lt_of_integerFrom {json : Json} {bound : Nat} {value : { value : Nat // bound ≤ value }}
    (bounded : Json.IsBounded digitLimit json) (accepted : integerFrom bound json = .valid value) :
    value.1 < 10 ^ digitLimit := by
  obtain ⟨whole, checked, large⟩ := Checked.andThen_eq_valid_iff.mp accepted
  have small := natAbs_lt_of_integer bounded checked
  split at large
  · cases large
    change whole.toNat < _
    omega
  · cases large

end Schema

theorem Position.isBounded_of_ofJson {json : Json} {position : Position}
    (bounded : Json.IsBounded digitLimit json)
    (accepted : Position.ofJson json = .valid position) : position.IsBounded digitLimit := by
  obtain ⟨fields, rfl, readFrom⟩ := Position.exists_isReadFrom accepted
  obtain ⟨lineJson, lineFound, lineRead⟩ := required_eq_valid_iff.mp readFrom.line
  obtain ⟨columnJson, columnFound, columnRead⟩ := required_eq_valid_iff.mp readFrom.column
  refine ⟨?_, lt_of_integerFrom (bounded.of_field? lineFound) lineRead,
    lt_of_integerFrom (bounded.of_field? columnFound) columnRead⟩
  rcases defaulted_eq_valid readFrom.offset with absent | ⟨offsetJson, offsetFound, offsetRead⟩
  · rw [absent]
    exact Nat.pow_pos (by decide)
  · exact natAbs_lt_of_integer (bounded.of_field? offsetFound) offsetRead

theorem Span.isBounded_of_ofJson {json : Json} {span : Span}
    (bounded : Json.IsBounded digitLimit json) (accepted : Span.ofJson json = .valid span) :
    span.IsBounded digitLimit := by
  obtain ⟨fields, rfl, readFrom⟩ := Span.exists_isReadFrom accepted
  obtain ⟨startJson, startFound, startRead⟩ := required_eq_valid_iff.mp readFrom.start
  obtain ⟨finishJson, finishFound, finishRead⟩ := required_eq_valid_iff.mp readFrom.finish
  exact ⟨Position.isBounded_of_ofJson (bounded.of_field? startFound) startRead,
    Position.isBounded_of_ofJson (bounded.of_field? finishFound) finishRead⟩

section Texts

variable {τ : Type} [TextForm τ]

theorem Item.isBounded_of_ofJson {json : Json} {item : Item τ}
    (bounded : Json.IsBounded digitLimit json) (accepted : Item.ofJson json = .valid item) :
    item.IsBounded digitLimit := by
  obtain ⟨fields, rfl, readFrom⟩ := Item.exists_isReadFrom accepted
  intro span present
  have locationRead := readFrom.location
  rw [show item.location = some span from present] at locationRead
  obtain ⟨json, found, read⟩ := optional_eq_valid_some locationRead
  exact Span.isBounded_of_ofJson (bounded.of_field? found) read

theorem ItemMap.isBounded_of_ofJson [DecidableEq τ] {json : Json} {items : ItemMap τ}
    (bounded : Json.IsBounded digitLimit json) (accepted : ItemMap.ofJson json = .valid items) :
    ∀ entry ∈ items.toList, entry.2.IsBounded digitLimit := by
  cases bounded with
  | object _ parts =>
    obtain ⟨entries, read, rfl⟩ := Checked.map_eq_valid_iff.mp accepted
    intro entry member
    obtain ⟨field, fieldMember, fieldRead⟩ :=
      Checked.exists_of_mem_all read entry (OrderedMap.mem_of_mem_ofList member)
    have itemRead := (Checked.both_eq_valid_iff.mp (Checked.within_eq_valid_iff.mp fieldRead)).2
    exact Item.isBounded_of_ofJson (parts field fieldMember) itemRead
  | null | bool | integer | real | string | list => cases accepted

theorem Partition.isBounded_of_ofJson [DecidableEq τ] {json : Json} {partition : Partition τ}
    (bounded : Json.IsBounded digitLimit json)
    (accepted : Partition.ofJson json = .valid partition) :
    Partition.IsBounded digitLimit partition := by
  obtain ⟨fields, rfl, readFrom⟩ := exists_isReadFrom accepted
  intro group stored
  obtain ⟨name, _, read⟩ := readFrom.groups _ _ stored
  obtain ⟨json, found, read⟩ := required_eq_valid_iff.mp read
  exact ItemMap.isBounded_of_ofJson (bounded.of_field? found) read

end Texts

end SpecLexicon
