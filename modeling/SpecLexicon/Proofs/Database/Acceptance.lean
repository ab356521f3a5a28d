import SpecLexicon.Database.Document
import SpecLexicon.Proofs.Json.Reading
import SpecLexicon.Proofs.Schema.Database
import SpecLexicon.Proofs.Schema.WellFormed

/-!
# What is loaded

A decoded object is loaded exactly if it has the shape of a database. Then every entry of a group
stands under the kind of the group, once and in order, and nothing else does. Otherwise every defect
of every part is reported, whatever else is wrong.
-/

set_option autoImplicit false

namespace SpecLexicon

open Schema

/-!
## The entries of a group
-/

def readEntry (entry : LooseText × Json) : LooseText × Checked (Item LooseText) :=
  (entry.1, Item.ofJson entry.2)

def keptEntry (entry : LooseText × Item LooseText) : LooseText × Checked (Item LooseText) :=
  (entry.1, .valid entry.2)

/-- The entries of a group, read one by one, are the symbols of a map. -/
def ItemMap.Lists (items : ItemMap LooseText) (entries : Fields) : Prop :=
  entries.map readEntry = items.toList.map keptEntry

theorem ItemMap.exists_entries_of_ofJson {entries : Fields} {items : ItemMap LooseText}
    (accepted : ItemMap.ofJson (.object entries) = .valid items) :
    ∃ found, entries.map readEntry = found.map keptEntry ∧ .ofList found = items := by
  obtain ⟨found, read, rfl⟩ := Checked.map_eq_valid_iff.mp accepted
  refine ⟨found, Checked.map_eq_of_all (fun entry kept entryRead => ?_) read, rfl⟩
  obtain ⟨nameRead, itemRead⟩ :=
    Checked.both_eq_valid_iff.mp (Checked.within_eq_valid_iff.mp entryRead)
  rw [readEntry, keptEntry, itemRead, Checked.valid.inj nameRead]

theorem ItemMap.lists_of_ofJson {entries : Fields} {items : ItemMap LooseText}
    (distinct : (entries.map Prod.fst).Nodup)
    (accepted : ItemMap.ofJson (.object entries) = .valid items) : items.Lists entries := by
  obtain ⟨found, listed, rfl⟩ := exists_entries_of_ofJson accepted
  have names : entries.map Prod.fst = found.map Prod.fst := by
    simpa [Function.comp_def, readEntry, keptEntry] using congrArg (List.map Prod.fst) listed
  rw [names] at distinct
  rw [ItemMap.Lists, OrderedMap.toList_ofList_of_nodup distinct, listed]

/-- Every group of a document stands under its kind, entry by entry, and nothing else is there. -/
structure Partition.Represents (partition : Partition LooseText) (fields : Fields) : Prop where
  isDatabase : IsDatabase partition
  groups : ∀ kind name, Kind.group? kind = some name →
    ∃ entries items, Json.field? name fields = some (.object entries) ∧
      OrderedMap.get? partition kind = some items ∧ items.Lists entries

theorem ItemMap.lists_of_required {fields : Fields} {name : String} {items : ItemMap LooseText}
    (distinct : Json.HasDistinctKeys (.object fields))
    (read : required name ItemMap.ofJson fields = .valid items) :
    ∃ entries, Json.field? name fields = some (.object entries) ∧ items.Lists entries := by
  obtain ⟨json, found, itemsRead⟩ := required_eq_valid_iff.mp read
  cases distinct with
  | object _ parts =>
    have inner := parts _ (Json.mem_of_field? found)
    cases inner with
    | @object entries apart _ => exact ⟨entries, found, ItemMap.lists_of_ofJson apart itemsRead⟩
    | null | bool | integer | real | string | list => cases itemsRead

theorem Partition.represents_of_ofJson {fields : Fields} {partition : Partition LooseText}
    (distinct : Json.HasDistinctKeys (.object fields))
    (accepted : Partition.ofJson (.object fields) = .valid partition) :
    Represents partition fields := by
  obtain ⟨_, whole, readFrom⟩ := exists_isReadFrom accepted
  cases whole
  refine ⟨readFrom.isDatabase, fun kind name grouped => ?_⟩
  obtain ⟨items, stored⟩ := readFrom.isDatabase.exists_get? grouped
  obtain ⟨group, same, read⟩ := readFrom.groups kind items (OrderedMap.get?_eq_some_iff.mp stored)
  obtain rfl := Option.some.inj (same.symm.trans grouped)
  obtain ⟨entries, found, lists⟩ := ItemMap.lists_of_required distinct read
  exact ⟨entries, items, found, stored, lists⟩

namespace Database

/-!
## Loading a decoded object
-/

variable {fields : Fields}

/-- A defect of an entry is reported at its place, whatever else is reported. -/
theorem mem_report_of_entry {name : String} {entries : Fields} {entry : LooseText × Json}
    {defect : Defect} (grouped : name ∈ Report.groupNames)
    (found : Json.field? name fields = some (.object entries)) (listed : entry ∈ entries)
    (defective : defect ∈ Report.item entry.2) :
    (defect.within (.key entry.1.shown)).within (.key name) ∈ Report.database fields := by
  have inGroup : defect.within (.key entry.1.shown) ∈
      Report.group Report.item (.object entries) :=
    List.mem_flatMap.mpr ⟨entry, listed, List.mem_map_of_mem defective⟩
  refine List.mem_flatMap.mpr ⟨name, grouped, ?_⟩
  rw [Report.requiredField, found]
  exact List.mem_map_of_mem inGroup

/-- Exactly the objects of the shape of a database are loaded. A loaded partition holds the groups
of the object entry by entry, and of every other object all defects of all parts are reported, in
the order of the fields and of the document. -/
theorem load_value (distinct : Json.HasDistinctKeys (.object fields)) (source : LooseText) :
    ((∃ partition, load (.value (.object fields)) source = .ok partition) ↔
      DatabaseShape IsUnicode fields) ∧
    (∀ partition, load (.value (.object fields)) source = .ok partition →
      Partition.Represents partition fields) ∧
    (∀ malformed, load (.value (.object fields)) source = .error malformed →
      ∃ first others, malformed = ⟨.shape first others, source⟩ ∧
        first :: others = Report.database fields ∧
        ∀ name ∈ Report.groupNames, ∀ entries, Json.field? name fields = some (.object entries) →
          ∀ entry ∈ entries, ∀ defect ∈ Report.item entry.2,
            (defect.within (.key entry.1.shown)).within (.key name) ∈ first :: others) := by
  have reported : (Document.value (.object fields)).check.defects = Report.database fields :=
    Partition.reports (.object fields)
  refine ⟨?_, ?_, ?_⟩
  · rw [← database_eq_nil_iff, ← reported, Checked.defects_eq_nil_iff]
    exact exists_congr fun partition => orMalformed_eq_ok_iff
  · intro partition loaded
    exact Partition.represents_of_ofJson distinct (orMalformed_eq_ok_iff.mp loaded)
  · intro malformed refused
    obtain ⟨first, others, faulty, rfl⟩ := orMalformed_eq_error_iff.mp refused
    rw [faulty] at reported
    have listed : first :: others = Report.database fields := reported
    refine ⟨first, others, rfl, listed, ?_⟩
    intro name grouped entries found entry member defect defective
    rw [listed]
    exact mem_report_of_entry grouped found member defective

/-- An object with a blank signature, a line before the first one, a macro without a signature and
no keywords. Its other numbers are written as a text, a truth value and a real number. -/
def flawedFields : Fields :=
  [(.text "macros", .object [(.text "wa", .object [(.text "overloads", .list [.null])])]),
    (.text "constants", .object [
      (.text "PI", .object [(.text "signature", .string (.text " \t"))]),
      (.text "E", .object [(.text "signature", .string (.text "E")),
        (.text "location", .object [
          (.text "start", .object [(.text "line", .string (.text " 1_0 ")),
            (.text "column", .bool true)]),
          (.text "end", .object [(.text "line", .integer 0),
            (.text "column", .real (.finite false 2 1))])])])]),
    (.text "variables", .object []), (.text "functions", .object [])]

theorem load_flawed :
    Json.HasDistinctKeys (.object flawedFields) ∧ ¬DatabaseShape IsUnicode flawedFields ∧
      load (.value (.object flawedFields)) "db" = .error ⟨.shape
        ⟨[.key "constants", .key "PI", .key "signature"], .blankSignature⟩
        [⟨[.key "constants", .key "E", .key "location", .key "end", .key "line"], .tooSmall⟩,
          ⟨[.key "macros", .key "wa", .key "signature"], .missing⟩,
          ⟨[.key "macros", .key "wa", .key "overloads", .index 0], .notModel⟩,
          ⟨[.key "keywords"], .missing⟩], "db"⟩ := by
  have settled : Json.settle (.object flawedFields) = .object flawedFields := by
    simp only [flawedFields, Json.settle, Json.settleItems, Json.settleFields, Json.settleValues]
    rfl
  have distinct := Json.hasDistinctKeys_settle (.object flawedFields)
  rw [settled] at distinct
  refine ⟨distinct, ?_, rfl⟩
  intro shaped
  obtain ⟨partition, loaded⟩ := (load_value distinct "db").1.mpr shaped
  cases loaded

/-!
## Refused in spite of the shape
-/

def constantFields (constant : Fields) : Fields :=
  [(.text "constants", .object [(.text "x", .object constant)]), (.text "variables", .object []),
    (.text "functions", .object []), (.text "macros", .object []), (.text "keywords", .object [])]

theorem databaseShape_constantFields {admitted : LooseText → Prop} {constant : Fields}
    (shaped : ItemShape admitted constant) : DatabaseShape admitted (constantFields constant) := by
  have empty : IsObject (GroupShape admitted) (.object []) :=
    ⟨[], rfl, fun _ member => absurd member List.not_mem_nil⟩
  have single : IsObject (GroupShape admitted) (.object [(.text "x", .object constant)]) := by
    refine ⟨_, rfl, fun field member => ?_⟩
    obtain rfl := List.mem_singleton.mp member
    exact ⟨constant, rfl, shaped⟩
  intro name member
  simp only [Report.groupNames, List.mem_cons, List.not_mem_nil, or_false] at member
  rcases member with rfl | rfl | rfl | rfl | rfl
  · exact ⟨_, rfl, single⟩
  · exact ⟨_, rfl, empty⟩
  · exact ⟨_, rfl, empty⟩
  · exact ⟨_, rfl, empty⟩
  · exact ⟨_, rfl, empty⟩

def halvedConstant : Fields :=
  [(.text "signature", .string (.ofPoints [.char 'x', .half 0xD800]))]

theorem itemShape_halvedConstant : ItemShape (fun _ => True) halvedConstant := by
  have shown : IsVisible (LooseText.plain (.ofPoints [.char 'x', .half 0xD800])) := by decide
  refine ⟨⟨_, rfl, _, rfl, trivial, shown⟩, ?_, ?_, ?_, ?_, ?_⟩
  all_goals
    intro value found
    cases found

/-- A whole number of 64 bits, written with a point. -/
def oversizedReal : Binary64 :=
  .finite false (2 ^ 52) 11

def oversizedConstant : Fields :=
  [(.text "signature", .string (.text "x")), (.text "location", .object [
    (.text "start", .object [(.text "line", .real oversizedReal), (.text "column", .integer 1)]),
    (.text "end", .object [(.text "line", .integer 1), (.text "column", .integer 1)])])]

/-- Half of a surrogate pair is refused in a signature that is not blank, and a whole number of 64
bits is refused where it is written as a real number. -/
theorem load_refuses_shaped :
    (Json.HasDistinctKeys (.object (constantFields halvedConstant)) ∧
      DatabaseShape (fun _ => True) (constantFields halvedConstant) ∧
      load (.value (.object (constantFields halvedConstant))) "" = .error ⟨.shape
        ⟨[.key "constants", .key "x", .key "signature"], .notUnicode⟩ [], ""⟩) ∧
    Json.HasDistinctKeys (.object (constantFields oversizedConstant)) ∧
      oversizedReal.toInt? = some (2 ^ 63) ∧
      load (.value (.object (constantFields oversizedConstant))) "" = .error ⟨.shape
        ⟨[.key "constants", .key "x", .key "location", .key "start", .key "line"],
          .oversizedInteger⟩ [], ""⟩ := by
  have halved : Json.settle (.object (constantFields halvedConstant)) =
      .object (constantFields halvedConstant) := by
    simp only [constantFields, halvedConstant, Json.settle, Json.settleFields, Json.settleValues]
    rfl
  have oversized : Json.settle (.object (constantFields oversizedConstant)) =
      .object (constantFields oversizedConstant) := by
    simp only [constantFields, oversizedConstant, Json.settle, Json.settleFields,
      Json.settleValues]
    rfl
  have halvedDistinct := Json.hasDistinctKeys_settle (.object (constantFields halvedConstant))
  have oversizedDistinct := Json.hasDistinctKeys_settle (.object (constantFields oversizedConstant))
  rw [halved] at halvedDistinct
  rw [oversized] at oversizedDistinct
  exact ⟨⟨halvedDistinct, databaseShape_constantFields itemShape_halvedConstant, rfl⟩,
    oversizedDistinct, by decide, rfl⟩

end Database

end SpecLexicon
