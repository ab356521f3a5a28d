import SpecLexicon.Proofs.Schema.Report

/-!
# Well-formed documents

The shape of a database document, said without a check: which fields are there, and what may stand
in them. A report is empty exactly for the documents of that shape.
-/

set_option autoImplicit false

namespace SpecLexicon.Schema

def HasField (name : String) (shape : Json → Prop) (fields : Fields) : Prop :=
  ∃ value, Json.field? name fields = some value ∧ shape value

def MayHaveField (name : String) (shape : Json → Prop) (fields : Fields) : Prop :=
  ∀ value, Json.field? name fields = some value → shape value

def IsNullOr (shape : Json → Prop) (json : Json) : Prop :=
  json = .null ∨ shape json

def IsObject (shape : Fields → Prop) (json : Json) : Prop :=
  ∃ fields, json = .object fields ∧ shape fields

def IsListOf (shape : Json → Prop) (json : Json) : Prop :=
  ∃ items, json = .list items ∧ ∀ item ∈ items, shape item

def IsText (json : Json) : Prop :=
  ∃ text, json = .string text

/-- The notations of a whole number. A real number of more than 63 bits is none, and a text is one
if it is read as one. -/
inductive IsWholeNumber : Json → Int → Prop where
  | integer (value : Int) : IsWholeNumber (.integer value) value
  | bool (value : Bool) : IsWholeNumber (.bool value) (if value then 1 else 0)
  | real {value : Binary64} {whole : Int} :
      value.toInt? = some whole → whole.natAbs < 2 ^ 63 → IsWholeNumber (.real value) whole
  | text {text : String} {value : Int} :
      integerOfText text.toList = .valid value → IsWholeNumber (.string (.text text)) value

structure PositionShape (fields : Fields) : Prop where
  offset : MayHaveField "offset" (fun json => ∃ value, IsWholeNumber json value) fields
  line : HasField "line" (fun json => ∃ value, IsWholeNumber json value ∧ 1 ≤ value) fields
  column : HasField "column" (fun json => ∃ value, IsWholeNumber json value ∧ 1 ≤ value) fields

structure SpanShape (fields : Fields) : Prop where
  start : HasField "start" (IsObject PositionShape) fields
  finish : HasField "end" (IsObject PositionShape) fields

section Signatures

-- The texts that are admitted as signatures.
variable (admitted : LooseText → Prop)

def IsFilledText (json : Json) : Prop :=
  ∃ text, json = .string text ∧ admitted text ∧ text.plain ≠ ""

def IsVisibleText (json : Json) : Prop :=
  ∃ text, json = .string text ∧ admitted text ∧ IsVisible text.plain

structure OverloadShape (fields : Fields) : Prop where
  signature : HasField "signature" (IsFilledText admitted) fields
  description : MayHaveField "description" (IsNullOr IsText) fields

structure ItemShape (fields : Fields) : Prop where
  signature : HasField "signature" (IsVisibleText admitted) fields
  description : MayHaveField "description" (IsNullOr IsText) fields
  comments : MayHaveField "comments" (IsNullOr IsText) fields
  snippet : MayHaveField "snippet" (IsNullOr IsText) fields
  location : MayHaveField "location" (IsNullOr (IsObject SpanShape)) fields
  overloads : MayHaveField "overloads"
    (IsNullOr (IsListOf (IsObject (OverloadShape admitted)))) fields

def GroupShape (fields : Fields) : Prop :=
  ∀ field ∈ fields, IsObject (ItemShape admitted) field.2

def DatabaseShape (fields : Fields) : Prop :=
  ∀ name ∈ Report.groupNames, HasField name (IsObject (GroupShape admitted)) fields

end Signatures

/-- The texts without halves of surrogate pairs. -/
def IsUnicode (text : LooseText) : Prop :=
  text.isText = true

/-!
## Reports decide shapes
-/

def Decides (report : Json → List Defect) (shape : Json → Prop) : Prop :=
  ∀ json, report json = [] ↔ shape json

namespace Decides

variable {report : Json → List Defect} {shape : Json → Prop}

theorem requiredField (decides : Decides report shape) {name : String} {fields : Fields} :
    Report.requiredField name report fields = [] ↔ HasField name shape fields := by
  rw [Report.requiredField, HasField]
  cases Json.field? name fields with
  | none => simp
  | some value => simp [decides value]

theorem optionalField (decides : Decides report shape) {name : String} {fields : Fields} :
    Report.optionalField name report fields = [] ↔ MayHaveField name shape fields := by
  rw [Report.optionalField, MayHaveField]
  cases Json.field? name fields with
  | none => simp
  | some value => simp [decides value]

theorem unlessNull (decides : Decides report shape) :
    Decides (Report.unlessNull report) (IsNullOr shape) := by
  intro json
  cases json with
  | null => simp [Report.unlessNull, IsNullOr]
  | bool | integer | real | string | list | object =>
    simp [Report.unlessNull, IsNullOr, decides _]

theorem object {report : Fields → List Defect} {shape : Fields → Prop}
    (decides : ∀ fields, report fields = [] ↔ shape fields) :
    Decides (Report.object report) (IsObject shape) := by
  intro json
  cases json with
  | object fields => simp [Report.object, IsObject, decides fields]
  | null | bool | integer | real | string | list => simp [Report.object, IsObject]

theorem group (decides : Decides report shape) :
    Decides (Report.group report) (IsObject fun fields => ∀ field ∈ fields, shape field.2) := by
  intro json
  cases json with
  | object fields => simp [Report.group, IsObject, decides _]
  | null | bool | integer | real | string | list => simp [Report.group, IsObject]

theorem list (decides : Decides report shape) :
    Decides (Report.list report) (IsListOf shape) := by
  intro json
  cases json with
  | list items =>
    have elements : (∀ item ∈ items.zipIdx, shape item.1) ↔
        ∀ item ∈ items.zipIdx.map Prod.fst, shape item := List.forall_mem_map.symm
    rw [List.zipIdx_map_fst] at elements
    simp only [Report.list, IsListOf, List.flatMap_eq_nil_iff, List.map_eq_nil_iff, decides _,
      elements, Json.list.injEq, exists_eq_left']
  | null | bool | integer | real | string | object => simp [Report.list, IsListOf]

end Decides

theorem decides_text : Decides Report.text IsText := by
  intro json
  cases json with
  | string text => simp [Report.text, IsText]
  | null | bool | integer | real | list | object => simp [Report.text, IsText]

theorem decides_filledText : Decides Report.filledText (IsFilledText IsUnicode) := by
  intro json
  cases json with
  | string loose =>
    cases loose with
    | text text => simp [Report.filledText, IsFilledText, IsUnicode, LooseText.isText]
    | broken points halved => simp [Report.filledText, IsFilledText, IsUnicode, LooseText.isText]
  | null | bool | integer | real | list | object => simp [Report.filledText, IsFilledText]

theorem decides_visibleText : Decides Report.visibleText (IsVisibleText IsUnicode) := by
  intro json
  cases json with
  | string loose =>
    cases loose with
    | text text =>
      by_cases empty : text = ""
      · subst empty
        have blank : ¬IsVisible "" := by decide
        simp [Report.visibleText, IsVisibleText, IsUnicode, LooseText.isText, blank]
      · simp [Report.visibleText, IsVisibleText, IsUnicode, LooseText.isText, empty]
    | broken points halved => simp [Report.visibleText, IsVisibleText, IsUnicode, LooseText.isText]
  | null | bool | integer | real | list | object => simp [Report.visibleText, IsVisibleText]

theorem isFinite_of_toInt? {value : Binary64} {whole : Int} (read : value.toInt? = some whole) :
    value.isFinite = true := by
  cases value with
  | finite negative mantissa exponent => rfl
  | infinite negative => cases read
  | notANumber => cases read

theorem integerOfReal_eq_valid_iff {value : Binary64} {whole : Int} :
    integerOfReal value = .valid whole ↔ value.toInt? = some whole ∧ whole.natAbs < 2 ^ 63 := by
  cases read : value.toInt? with
  | none =>
    cases finite : value.isFinite with
    | false => simp [integerOfReal, finite, Checked.fault]
    | true => simp [integerOfReal, finite, read, Checked.fault]
  | some found =>
    have finite := isFinite_of_toInt? read
    by_cases small : found.natAbs < 2 ^ 63
    · simp only [integerOfReal, finite, read, if_pos small]
      constructor
      · rintro ⟨⟩
        exact ⟨rfl, small⟩
      · rintro ⟨⟨⟩, _⟩
        rfl
    · simp only [integerOfReal, finite, read, if_neg small]
      constructor
      · rintro ⟨⟩
      · rintro ⟨⟨⟩, fits⟩
        exact absurd fits small

/-- A check of whole numbers takes their notations and nothing else. -/
theorem integer_eq_valid_iff {json : Json} {value : Int} :
    integer json = .valid value ↔ IsWholeNumber json value := by
  constructor
  · intro read
    cases json with
    | integer whole =>
      cases read
      exact .integer _
    | bool truth =>
      cases read
      exact .bool truth
    | real real =>
      obtain ⟨whole, small⟩ := integerOfReal_eq_valid_iff.mp read
      exact .real whole small
    | string loose =>
      cases loose with
      | text text => exact .text read
      | broken points halved => cases read
    | null | list | object => cases read
  · intro denotes
    cases denotes with
    | integer => rfl
    | bool truth => rfl
    | real whole small => exact integerOfReal_eq_valid_iff.mpr ⟨whole, small⟩
    | text read => exact read

theorem decides_wholeNumber :
    Decides Report.wholeNumber fun json => ∃ value, IsWholeNumber json value := by
  intro json
  rw [Report.wholeNumber, Checked.defects_eq_nil_iff]
  exact exists_congr fun value => integer_eq_valid_iff

theorem decides_countingNumber :
    Decides Report.countingNumber fun json => ∃ value, IsWholeNumber json value ∧ 1 ≤ value := by
  intro json
  simp only [← integer_eq_valid_iff]
  rw [Report.countingNumber]
  cases integer json with
  | valid value => simp
  | faulty first others => simp

theorem decides_position : Decides Report.position (IsObject PositionShape) := by
  refine .object fun fields => ?_
  rw [List.append_eq_nil_iff, List.append_eq_nil_iff, decides_wholeNumber.optionalField,
    decides_countingNumber.requiredField, decides_countingNumber.requiredField]
  exact ⟨fun ⟨offset, line, column⟩ => ⟨offset, line, column⟩,
    fun ⟨offset, line, column⟩ => ⟨offset, line, column⟩⟩

theorem decides_span : Decides Report.span (IsObject SpanShape) := by
  refine .object fun fields => ?_
  rw [List.append_eq_nil_iff, decides_position.requiredField, decides_position.requiredField]
  exact ⟨fun ⟨start, finish⟩ => ⟨start, finish⟩, fun ⟨start, finish⟩ => ⟨start, finish⟩⟩

theorem decides_overload : Decides Report.overload (IsObject (OverloadShape IsUnicode)) := by
  refine .object fun fields => ?_
  rw [List.append_eq_nil_iff, decides_filledText.requiredField,
    decides_text.unlessNull.optionalField]
  exact ⟨fun ⟨signature, description⟩ => ⟨signature, description⟩,
    fun ⟨signature, description⟩ => ⟨signature, description⟩⟩

theorem decides_item : Decides Report.item (IsObject (ItemShape IsUnicode)) := by
  refine .object fun fields => ?_
  simp only [List.append_eq_nil_iff, decides_visibleText.requiredField,
    decides_text.unlessNull.optionalField, decides_span.unlessNull.optionalField,
    decides_overload.list.unlessNull.optionalField]
  constructor
  · rintro ⟨signature, description, comments, snippet, location, overloads⟩
    exact ⟨signature, description, comments, snippet, location, overloads⟩
  · rintro ⟨signature, description, comments, snippet, location, overloads⟩
    exact ⟨signature, description, comments, snippet, location, overloads⟩

/-- Nothing is reported exactly of the documents that have the shape of a database. -/
theorem database_eq_nil_iff {fields : Fields} :
    Report.database fields = [] ↔ DatabaseShape IsUnicode fields := by
  rw [Report.database, List.flatMap_eq_nil_iff]
  exact forall_congr' fun name => forall_congr' fun _ => decides_item.group.requiredField

end SpecLexicon.Schema
