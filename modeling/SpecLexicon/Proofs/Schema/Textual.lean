import SpecLexicon.Proofs.Json.Grammar
import SpecLexicon.Proofs.Schema.Database

/-!
# Documents without halves

In a document in which no text has halves of surrogate pairs it makes no difference whether its
texts are read as texts or as loose texts: there are the same defects, or the same symbols, whose
texts are then taken as loose ones. Nor does it make a difference to what is written.
-/

set_option autoImplicit false

namespace SpecLexicon

open Json (IsTextual)

theorem Json.Holds.of_field? {whole : Int → Prop} {real : Prop} {text : LooseText → Prop}
    {name : String} {json : Json} {fields : List (LooseText × Json)}
    (holds : Holds whole real text (.object fields)) (found : field? name fields = some json) :
    Holds whole real text json := by
  cases holds with
  | object _ parts => exact parts _ (mem_of_field? found)

namespace Schema

/-- On values without halves two checks agree, up to a change of what they give. -/
def Transports {α β : Type} (f : α → β) (check : Json → Checked α) (other : Json → Checked β) :
    Prop :=
  ∀ json, IsTextual json → other json = (check json).map f

namespace Transports

variable {α β : Type} {f : α → β} {check : Json → Checked α} {other : Json → Checked β}

section Fields

variable {fields : List (LooseText × Json)} (textual : IsTextual (.object fields))

include textual

theorem required (transports : Transports f check other) (name : String) :
    Schema.required name other fields = (Schema.required name check fields).map f := by
  rw [Schema.required, Schema.required]
  cases found : Json.field? name fields with
  | none => rfl
  | some json =>
    dsimp only
    rw [transports json (textual.of_field? found), Checked.within_map]

theorem defaulted (transports : Transports f check other) (name : String) (absent : α) :
    Schema.defaulted name (f absent) other fields =
      (Schema.defaulted name absent check fields).map f := by
  rw [Schema.defaulted, Schema.defaulted]
  cases found : Json.field? name fields with
  | none => rfl
  | some json =>
    dsimp only
    rw [transports json (textual.of_field? found), Checked.within_map]

end Fields

theorem nullable (transports : Transports f check other) :
    Transports (Option.map f) (Schema.nullable check) (Schema.nullable other) := by
  intro json textual
  cases json with
  | null => rfl
  | bool | integer | real | string | list | object =>
    simp only [Schema.nullable, transports _ textual, Checked.map_map, Option.map_some]

theorem optional {fields : List (LooseText × Json)} (textual : IsTextual (.object fields))
    (transports : Transports f check other) (name : String) :
    Schema.optional name other fields =
      (Schema.optional name check fields).map (Option.map f) :=
  defaulted textual transports.nullable name none

theorem listOf (transports : Transports f check other) :
    Transports (List.map f) (Schema.listOf check) (Schema.listOf other) := by
  intro json textual
  cases textual with
  | list parts =>
    refine Checked.all_eq_map fun item member => ?_
    rw [transports item.1 (parts item.1 (List.fst_mem_of_mem_zipIdx member)), Checked.within_map]
  | null | bool | integer | real | string | object => rfl

theorem model {check : List (LooseText × Json) → Checked α}
    {other : List (LooseText × Json) → Checked β}
    (transports : ∀ fields, IsTextual (.object fields) → other fields = (check fields).map f) :
    Transports f (Schema.model check) (Schema.model other) := by
  intro json textual
  cases json with
  | object fields => exact transports fields textual
  | null | bool | integer | real | string | list => rfl

theorem string : Transports LooseText.text Schema.string Schema.string := by
  intro json textual
  cases textual with
  | @string loose isText =>
    cases loose with
    | text text => rfl
    | broken points halved => cases isText
  | null | bool | integer | real | list | object => rfl

end Transports

end Schema

open Schema

theorem Overload.transports : Transports Overload.loose Overload.ofJson Overload.ofJson := by
  refine .model fun fields textual => ?_
  rw [Transports.string.optional textual, Checked.both_map_right, Checked.map_map,
    Checked.map_map]
  rfl

theorem Item.transports : Transports Item.loose Item.ofJson Item.ofJson := by
  refine .model fun fields textual => ?_
  simp only [Transports.string.optional textual, Overload.transports.listOf.optional textual,
    Checked.both_map_left, Checked.both_map_right, Checked.map_map]
  rfl

theorem ItemMap.entryOfJson_eq_map {field : LooseText × Json} (named : field.1.isText = true)
    (textual : IsTextual field.2) :
    entryOfJson field =
      (entryOfJson field : Checked (String × Item)).map (Prod.map LooseText.text Item.loose) := by
  obtain ⟨name, json⟩ := field
  cases name with
  | text name =>
    rw [entryOfJson, entryOfJson, Item.transports json textual, ← Checked.within_map]
    cases (Item.ofJson json : Checked Item) <;> rfl
  | broken points halved => cases named

theorem ItemMap.transports : Transports ItemMap.loose ItemMap.ofJson ItemMap.ofJson := by
  intro json textual
  cases textual with
  | @object fields keys parts =>
    rw [ItemMap.ofJson, ItemMap.ofJson, Checked.map_map, Checked.all_eq_map fun field member =>
      entryOfJson_eq_map (keys field member) (parts field member), Checked.map_map]
    exact congrArg (Checked.map · _) (funext (OrderedMap.ofList_map _ Item.loose))
  | null | bool | integer | real | string | list => rfl

theorem Partition.loose_ofGroups (constants variableDefs macros functions keywords : ItemMap) :
    loose (ofGroups constants variableDefs macros functions keywords) =
      ofGroups constants.loose variableDefs.loose macros.loose functions.loose keywords.loose := by
  refine OrderedMap.ext ?_
  rw [loose, OrderedMap.toList_mapValues, toList_ofGroups, toList_ofGroups]
  rfl

theorem Partition.isDatabase_loose_iff {partition : Partition} :
    IsDatabase (loose partition) ↔ IsDatabase partition := by
  rw [IsDatabase, IsDatabase, loose, OrderedMap.keys_mapValues]

/-- A database in which there are no halves is the same, with its texts or with loose ones. -/
theorem Partition.transports : Transports loose Partition.ofJson Partition.ofJson := by
  refine .model fun fields textual => ?_
  simp only [ItemMap.transports.required textual, Checked.both_map_left, Checked.both_map_right,
    Checked.map_map]
  exact congrArg (Checked.map · _) (funext fun _ => (loose_ofGroups ..).symm)

/-!
## What is written
-/

theorem Json.orNull_map {α β : Type} (write : β → Json) (f : α → β) (value : Option α) :
    orNull write (value.map f) = orNull (fun present => write (f present)) value := by
  cases value <;> rfl

theorem Json.ofText_text (text : String) : ofText (LooseText.text text) = ofText text := rfl

theorem Overload.toJson_loose (overload : Overload) : overload.loose.toJson = overload.toJson := by
  simp only [toJson, loose, Json.orNull_map, Json.ofText_text]

theorem Item.toJson_loose (item : Item) : item.loose.toJson = item.toJson := by
  simp only [toJson, loose, Json.orNull_map, Json.ofText_text, List.map_map, Function.comp_def,
    Overload.toJson_loose]

theorem ItemMap.toJson_loose (items : ItemMap) : toJson items.loose = toJson items := by
  simp [toJson, loose, OrderedMap.rename, Function.comp_def, Item.toJson_loose, TextForm.write]

theorem Partition.groups_loose (partition : Partition) :
    groups (loose partition) = groups partition := by
  rw [groups, groups, loose, OrderedMap.toList_mapValues, List.filterMap_map]
  congr 1
  funext entry
  simp only [Function.comp_apply, ItemMap.toJson_loose]

theorem Partition.toJson_loose (partition : Partition) :
    toJson (loose partition) = toJson partition :=
  congrArg Json.object (groups_loose partition)

end SpecLexicon
