import SpecLexicon.Schema.Database

/-!
# Reports

What is reported of a value, as a list of defects that is put together from the lists of its parts:
field by field in the order of the model, entry by entry and element by element in the order of the
document. A check finds exactly what its report lists.
-/

set_option autoImplicit false

namespace SpecLexicon

namespace Schema

abbrev Fields : Type := List (LooseText × Json)

namespace Report

def requiredField (name : String) (report : Json → List Defect) (fields : Fields) : List Defect :=
  match Json.field? name fields with
  | none => [⟨[.key name], .missing⟩]
  | some value => (report value).map (Defect.within (.key name))

def optionalField (name : String) (report : Json → List Defect) (fields : Fields) : List Defect :=
  match Json.field? name fields with
  | none => []
  | some value => (report value).map (Defect.within (.key name))

def unlessNull (report : Json → List Defect) : Json → List Defect
  | .null => []
  | value => report value

/-- The fields of a model; their order is that of the model. -/
def object (report : Fields → List Defect) : Json → List Defect
  | .object fields => report fields
  | _ => [⟨[], .notModel⟩]

def group (report : Json → List Defect) : Json → List Defect
  | .object fields => fields.flatMap fun field =>
      (report field.2).map (Defect.within (.key field.1.shown))
  | _ => [⟨[], .notGroup⟩]

def list (report : Json → List Defect) : Json → List Defect
  | .list items => items.zipIdx.flatMap fun item =>
      (report item.1).map (Defect.within (.index item.2))
  | _ => [⟨[], .notList⟩]

def text : Json → List Defect
  | .string _ => []
  | _ => [⟨[], .notString⟩]

def filledText : Json → List Defect
  | .string (.text text) => if text = "" then [⟨[], .emptyString⟩] else []
  | .string (.broken _ _) => [⟨[], .notUnicode⟩]
  | _ => [⟨[], .notString⟩]

def visibleText : Json → List Defect
  | .string (.text text) =>
    if text = "" then [⟨[], .emptyString⟩]
    else if IsVisible text then [] else [⟨[], .blankSignature⟩]
  | .string (.broken _ _) => [⟨[], .notUnicode⟩]
  | _ => [⟨[], .notString⟩]

def wholeNumber (json : Json) : List Defect :=
  (integer json).defects

def countingNumber (json : Json) : List Defect :=
  match integer json with
  | .valid value => if 1 ≤ value then [] else [⟨[], .tooSmall⟩]
  | .faulty first others => first :: others

def position : Json → List Defect :=
  object fun fields => optionalField "offset" wholeNumber fields ++
    (requiredField "line" countingNumber fields ++ requiredField "column" countingNumber fields)

def span : Json → List Defect :=
  object fun fields => requiredField "start" position fields ++ requiredField "end" position fields

def overload : Json → List Defect :=
  object fun fields => requiredField "signature" filledText fields ++
    optionalField "description" (unlessNull text) fields

def item : Json → List Defect :=
  object fun fields => requiredField "signature" visibleText fields ++
    (optionalField "description" (unlessNull text) fields ++
      (optionalField "comments" (unlessNull text) fields ++
        (optionalField "snippet" (unlessNull text) fields ++
          (optionalField "location" (unlessNull span) fields ++
            optionalField "overloads" (unlessNull (list overload)) fields))))

/-- The groups of a document in the order in which they are checked. -/
def groupNames : List String :=
  ["constants", "variables", "functions", "macros", "keywords"]

def database (fields : Fields) : List Defect :=
  groupNames.flatMap fun name => requiredField name (group item) fields

end Report

/-!
## Checks find what is reported
-/

def Reports {α : Type} (check : Json → Checked α) (report : Json → List Defect) : Prop :=
  ∀ json, (check json).defects = report json

namespace Reports

variable {α : Type} {check : Json → Checked α} {report : Json → List Defect}

theorem required (reports : Reports check report) (name : String) (fields : Fields) :
    (Schema.required name check fields).defects = Report.requiredField name report fields := by
  rw [Schema.required, Report.requiredField]
  cases Json.field? name fields with
  | none => rfl
  | some value => rw [Checked.defects_within, reports value]

theorem defaulted (reports : Reports check report) (name : String) (absent : α) (fields : Fields) :
    (Schema.defaulted name absent check fields).defects =
      Report.optionalField name report fields := by
  rw [Schema.defaulted, Report.optionalField]
  cases Json.field? name fields with
  | none => rfl
  | some value => rw [Checked.defects_within, reports value]

theorem nullable (reports : Reports check report) :
    Reports (Schema.nullable check) (Report.unlessNull report) := by
  intro json
  cases json with
  | null => rfl
  | bool | integer | real | string | list | object =>
    exact (Checked.defects_map some _).trans (reports _)

theorem optional (reports : Reports check report) (name : String) (fields : Fields) :
    (Schema.optional name check fields).defects =
      Report.optionalField name (Report.unlessNull report) fields :=
  reports.nullable.defaulted name none fields

theorem model {check : Fields → Checked α} {report : Fields → List Defect}
    (reports : ∀ fields, (check fields).defects = report fields) :
    Reports (Schema.model check) (Report.object report) := by
  intro json
  cases json with
  | object fields => exact reports fields
  | null | bool | integer | real | string | list => rfl

theorem listOf (reports : Reports check report) :
    Reports (Schema.listOf check) (Report.list report) := by
  intro json
  cases json with
  | list items =>
    rw [Schema.listOf, Checked.defects_all, Report.list]
    congr 1
    funext item
    rw [Checked.defects_within, reports item.1]
  | null | bool | integer | real | string | object => rfl

end Reports

theorem reports_string : Reports (string : Json → Checked LooseText) Report.text := by
  intro json
  cases json with
  | string text => rfl
  | null | bool | integer | real | list | object => rfl

theorem reports_nonEmpty : Reports nonEmpty Report.filledText := by
  intro json
  cases json with
  | string loose =>
    cases loose with
    | text text =>
      by_cases empty : text = ""
      · subst empty
        rfl
      · simp [nonEmpty, string, TextForm.read, looseText, Checked.andThen,
          Report.filledText, empty]
    | broken points halved => rfl
  | null | bool | integer | real | list | object => rfl

theorem reports_visible : Reports visible Report.visibleText := by
  intro json
  cases json with
  | string loose =>
    cases loose with
    | text text =>
      by_cases empty : text = ""
      · subst empty
        rfl
      · have read : nonEmpty (.string (.text text)) = .valid ⟨text, empty⟩ := dif_pos empty
        rw [visible, read, Checked.andThen, Report.visibleText, if_neg empty]
        by_cases shown : IsVisible text
        · rw [dif_pos shown, if_pos shown]
          rfl
        · rw [dif_neg shown, if_neg shown]
          rfl
    | broken points halved => rfl
  | null | bool | integer | real | list | object => rfl

theorem reports_integer : Reports integer Report.wholeNumber := fun _ => rfl

theorem reports_integerFrom : Reports (integerFrom 1) Report.countingNumber := by
  intro json
  rw [integerFrom, Report.countingNumber]
  cases integer json with
  | faulty first others => rfl
  | valid value =>
    have same : (1 ≤ value.toNat ∧ 0 ≤ value) ↔ 1 ≤ value := by omega
    by_cases large : 1 ≤ value
    · simp only [Checked.andThen, dif_pos (same.mpr large), if_pos large, Checked.defects_valid]
    · simp only [Checked.andThen, dif_neg (mt same.mp large), if_neg large, Checked.defects_fault]

end Schema

open Schema

theorem Position.reports : Reports Position.ofJson Report.position := by
  refine .model fun fields => ?_
  rw [Checked.defects_map, Checked.defects_both, Checked.defects_both,
    reports_integer.defaulted, reports_integerFrom.required, reports_integerFrom.required]

theorem Span.reports : Reports Span.ofJson Report.span := by
  refine .model fun fields => ?_
  rw [Checked.defects_map, Checked.defects_both, Position.reports.required,
    Position.reports.required]

theorem Overload.reports :
    Reports (Overload.ofJson : Json → Checked (Overload LooseText)) Report.overload := by
  refine .model fun fields => ?_
  rw [Checked.defects_map, Checked.defects_both, reports_nonEmpty.required,
    reports_string.optional]

theorem Item.reports : Reports (Item.ofJson : Json → Checked (Item LooseText)) Report.item := by
  refine .model fun fields => ?_
  simp only [Checked.defects_map, Checked.defects_both, reports_visible.required,
    reports_string.optional, Span.reports.optional, Overload.reports.listOf.optional]

theorem ItemMap.reports :
    Reports (ItemMap.ofJson : Json → Checked (ItemMap LooseText)) (Report.group Report.item) := by
  intro json
  cases json with
  | object fields =>
    rw [ItemMap.ofJson, Checked.defects_map, Checked.defects_all, Report.group]
    congr 1
    funext field
    rw [entryOfJson, Checked.defects_within, Checked.defects_both, Item.reports field.2]
    rfl
  | null | bool | integer | real | string | list => rfl

/-- Every defect of a database is found, one part after the other. -/
theorem Partition.reports :
    Reports (Partition.ofJson : Json → Checked (Partition LooseText))
      (Report.object Report.database) := by
  refine .model fun fields => ?_
  simp only [Checked.defects_map, Checked.defects_both, ItemMap.reports.required]
  simp [Report.database, Report.groupNames]

end SpecLexicon
