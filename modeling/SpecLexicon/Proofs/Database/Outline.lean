import SpecLexicon.Proofs.Database.Acceptance
import SpecLexicon.Proofs.Outline

/-!
# Outlines of loaded databases

Where the symbols of a loaded partition have their places from, and what its outline shows of them.
A document may hold numbers of any size, an outline none behind the largest of an editor. The
document with one such number is loaded and has no outline.
-/

set_option autoImplicit false

namespace SpecLexicon

open Schema

/-!
## Places in documents
-/

namespace Schema

structure DenotesPosition (position : Position) (fields : Fields) : Prop where
  line : HasField "line" (IsWholeNumber · position.line) fields
  column : HasField "column" (IsWholeNumber · position.column) fields

structure DenotesSpan (span : Span) (fields : Fields) : Prop where
  start : HasField "start" (IsObject (DenotesPosition span.start)) fields
  finish : HasField "end" (IsObject (DenotesPosition span.finish)) fields

/-- The place that the fields of a symbol say, or that they say none. -/
def DenotesLocation (fields : Fields) : Option Span → Prop
  | none => MayHaveField "location" (· = .null) fields
  | some span => HasField "location" (IsObject (DenotesSpan span)) fields

theorem isWholeNumber_of_integerFrom {bound : Nat} {json : Json}
    {value : { value // bound ≤ value }} (accepted : integerFrom bound json = .valid value) :
    IsWholeNumber json value.1 := by
  obtain ⟨whole, read, large⟩ := Checked.andThen_eq_valid_iff.mp accepted
  split at large
  · rename_i fits
    cases large
    have same : (whole.toNat : Int) = whole := Int.toNat_of_nonneg fits.2
    rw [same]
    exact integer_eq_valid_iff.mp read
  · cases large

theorem hasField_of_required {α : Type} {name : String} {check : Json → Checked α} {value : α}
    {shape : Json → Prop} {fields : Fields} (accepted : required name check fields = .valid value)
    (shaped : ∀ json, check json = .valid value → shape json) : HasField name shape fields := by
  obtain ⟨json, found, read⟩ := required_eq_valid_iff.mp accepted
  exact ⟨json, found, shaped json read⟩

theorem isObject_of_position {json : Json} {position : Position}
    (accepted : Position.ofJson json = .valid position) :
    IsObject (DenotesPosition position) json := by
  obtain ⟨fields, rfl, readFrom⟩ := Position.exists_isReadFrom accepted
  exact ⟨fields, rfl, hasField_of_required readFrom.line fun _ => isWholeNumber_of_integerFrom,
    hasField_of_required readFrom.column fun _ => isWholeNumber_of_integerFrom⟩

theorem isObject_of_span {json : Json} {span : Span} (accepted : Span.ofJson json = .valid span) :
    IsObject (DenotesSpan span) json := by
  obtain ⟨fields, rfl, readFrom⟩ := Span.exists_isReadFrom accepted
  exact ⟨fields, rfl, hasField_of_required readFrom.start fun _ => isObject_of_position,
    hasField_of_required readFrom.finish fun _ => isObject_of_position⟩

theorem eq_null_of_nullable {α : Type} {check : Json → Checked α} {json : Json}
    (accepted : nullable check json = .valid none) : json = .null := by
  cases json with
  | null => rfl
  | bool | integer | real | string | list | object =>
    obtain ⟨_, _, absurd⟩ := Checked.map_eq_valid_iff.mp accepted
    cases absurd

theorem denotesLocation_of_optional {fields : Fields} {location : Option Span}
    (accepted : Schema.optional "location" Span.ofJson fields = .valid location) :
    DenotesLocation fields location := by
  cases location with
  | none =>
    intro json found
    unfold Schema.optional defaulted at accepted
    rw [found] at accepted
    exact eq_null_of_nullable (Checked.within_eq_valid_iff.mp accepted)
  | some span =>
    obtain ⟨json, found, read⟩ := optional_eq_valid_some accepted
    exact ⟨json, found, isObject_of_span read⟩

theorem isObject_of_item {json : Json} {item : Item LooseText}
    (accepted : Item.ofJson json = .valid item) :
    IsObject (DenotesLocation · item.location) json := by
  obtain ⟨fields, rfl, readFrom⟩ := Item.exists_isReadFrom accepted
  exact ⟨fields, rfl, denotesLocation_of_optional readFrom.location⟩

end Schema

/-!
## Symbols in documents
-/

/-- The value of a name in a group. Of several entries of the name, the last counts. -/
def lastOf? (name : LooseText) (entries : Fields) : Option Json :=
  OrderedMap.lookup name entries.reverse

theorem ItemMap.map_lastOf? {entries : Fields} {items : ItemMap LooseText}
    (accepted : ItemMap.ofJson (.object entries) = .valid items) (name : LooseText) :
    (lastOf? name entries).map Item.ofJson = (items.get? name).map .valid := by
  obtain ⟨found, listed, rfl⟩ := exists_entries_of_ofJson accepted
  have read := OrderedMap.lookup_map name
    (fun _ => (Item.ofJson : Json → Checked (Item LooseText))) entries.reverse
  have stored := OrderedMap.lookup_map name (fun _ => Checked.valid) found.reverse
  have reversed := congrArg (fun all => OrderedMap.lookup name all.reverse) listed
  rw [OrderedMap.get?_ofList, lastOf?, ← read, ← stored, List.map_reverse, List.map_reverse]
  exact reversed

/-- A symbol stands in the group of its kind, under its name and with its place. -/
def Documented (fields : Fields) (symbol : Outline.Symbol LooseText) : Prop :=
  ∃ group entries json, symbol.1.group? = some group ∧
    Json.field? group fields = some (.object entries) ∧
    lastOf? symbol.2.1 entries = some json ∧
    IsObject (DenotesLocation · symbol.2.2.location) json

theorem documented_of_required {fields : Fields} {kind : Kind} {group : String}
    {items : ItemMap LooseText}
    (grouped : kind.group? = some group)
    (accepted : required group ItemMap.ofJson fields = .valid items) :
    ∀ entry ∈ items.toList, Documented fields (kind, entry) := by
  intro entry member
  obtain ⟨json, found, read⟩ := required_eq_valid_iff.mp accepted
  cases json with
  | object entries =>
    have kept := ItemMap.map_lastOf? read entry.1
    rw [OrderedMap.get?_eq_some_iff.mpr member, Option.map_some] at kept
    obtain ⟨json, last, itemRead⟩ := Option.map_eq_some_iff.mp kept
    exact ⟨group, entries, json, grouped, found, last, isObject_of_item itemRead⟩
  | null | bool | integer | real | string | list => cases read

theorem Partition.documented_of_ofJson {fields : Fields} {partition : Partition LooseText}
    (accepted : Partition.ofJson (.object fields) = .valid partition) :
    ∀ symbol ∈ Partition.entries partition, Documented fields symbol := by
  obtain ⟨_, whole, readFrom⟩ := Partition.exists_isReadFrom accepted
  cases whole
  intro symbol member
  obtain ⟨⟨kind, items⟩, stored, shown⟩ := List.mem_flatMap.mp member
  obtain ⟨entry, listed, rfl⟩ := List.mem_map.mp shown
  obtain ⟨group, grouped, read⟩ := readFrom.groups kind items stored
  exact documented_of_required grouped read entry listed

namespace Database

theorem exists_fields_of_load {document : Document} {source : LooseText}
    {partition : Partition LooseText}
    (loaded : load document source = .ok partition) :
    ∃ fields, document.json = .valid (.object fields) ∧
      Partition.ofJson (.object fields) = .valid partition := by
  obtain ⟨json, decoded, read⟩ :=
    Checked.andThen_eq_valid_iff.mp (orMalformed_eq_ok_iff.mp loaded)
  obtain ⟨fields, rfl, _⟩ := model_eq_valid_iff.mp read
  exact ⟨fields, decoded, read⟩

/-- The outline of a loaded partition shows every symbol with a place, once and in order, with the
numbers of the document less one, if an editor can show all of these. Otherwise there is none, and
the first number that is too large is reported. -/
theorem outline_of_load {document : Document} {source : LooseText}
    {partition : Partition LooseText}
    (loaded : load document source = .ok partition) :
    let symbols := Partition.entries partition
    (∃ fields, document.json = .valid (.object fields) ∧
      ∀ symbol ∈ symbols, Documented fields symbol) ∧
    ((∃ entries, Outline.ofPartition partition = .ok entries) ↔
      ∀ number ∈ Outline.numbers symbols, number.2 ≤ Outline.largest + 1) ∧
    (∀ entries, Outline.ofPartition partition = .ok entries →
      List.Forall₂ Outline.Shows (Outline.located symbols) entries) ∧
    (∀ failure, Outline.ofPartition partition = .error failure ↔
      (Outline.numbers symbols).findSome? Outline.failure? = some failure) := by
  intro symbols
  obtain ⟨fields, decoded, read⟩ := exists_fields_of_load loaded
  have converts := Outline.converts_entries symbols
  exact ⟨⟨fields, decoded, Partition.documented_of_ofJson read⟩, converts.isOk_iff,
    fun _ shown => converts.wanted_of_ok shown, fun _ => converts.eq_error_iff⟩

/-- A constant with a place. All numbers but the first line are written in other notations. -/
def placedConstant (line : Json) : Fields :=
  [(.text "signature", .string (.text "x")), (.text "location", .object [
    (.text "start", .object [(.text "line", line), (.text "column", .bool true)]),
    (.text "end", .object [(.text "line", .string (.text " 1_0 ")),
      (.text "column", .real (.finite false 2 1))])])]

def placedItem (line : Nat) (one_le : 1 ≤ line) : Item LooseText where
  signature := "x"
  description := none
  comments := none
  snippet := none
  location := some ⟨⟨0, line, 1, one_le, Nat.one_pos⟩,
    ⟨0, 10, 4, Nat.succ_pos _, Nat.succ_pos _⟩⟩
  overloads := none
  signature_visible := by decide

def placedPartition (line : Nat) (one_le : 1 ≤ line) : Partition LooseText :=
  Partition.ofGroups (.ofList [(.text "x", placedItem line one_le)]) .empty .empty .empty .empty

/-- The last line that an editor shows. -/
theorem outline_of_last_line :
    load (.value (.object (constantFields (placedConstant (.integer 2147483648))))) "" =
        .ok (placedPartition 2147483648 (by decide)) ∧
      ∃ entries, Outline.ofPartition (placedPartition 2147483648 (by decide)) = .ok entries := by
  have loaded : load (.value (.object (constantFields (placedConstant (.integer 2147483648)))))
      "" = .ok (placedPartition 2147483648 (by decide)) := rfl
  exact ⟨loaded, (outline_of_load loaded).2.1.mpr (by decide)⟩

/-- A place on the line behind it is loaded, and leaves its partition without an outline. -/
theorem no_outline_behind_last_line :
    load (.value (.object (constantFields (placedConstant (.integer 2147483649))))) "" =
        .ok (placedPartition 2147483649 (by decide)) ∧
      (Outline.located (Partition.entries (placedPartition 2147483649 (by decide)))).length = 1 ∧
      Outline.ofPartition (placedPartition 2147483649 (by decide)) =
        .error ⟨.line, 2147483648⟩ :=
  ⟨rfl, rfl, rfl⟩

end Database

end SpecLexicon
