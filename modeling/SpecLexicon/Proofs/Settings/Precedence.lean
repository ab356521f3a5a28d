import Mathlib.Data.List.Basic
import SpecLexicon.Proofs.Settings.Fields
import SpecLexicon.Proofs.Settings.Reference

/-!
# The first source counts

The entries of a field are the values, the variables of the environment and the bindings of the file
that stand under one of the spellings of its name. Each field is decoded from the first source whose
entries supply it, or it has its standard value. Nothing else goes into it: neither entries of a
later source nor those of another field.
-/

set_option autoImplicit false

namespace SpecLexicon

namespace EnvironmentFile

/-- The names and the values of the bindings of a file, as they are written. -/
def entries (text : List Char) : List (String × Option String) :=
  (bindings text).map fun binding => (String.ofList binding.1, binding.2.map String.ofList)

theorem Refers.dollar_mem {text name : List Char} (refers : Refers text name) : '$' ∈ text := by
  obtain ⟨front, form, absent, behind, isReference, rfl⟩ := refers
  cases isReference <;> simp

/-- Without dollar signs the variables of a file are its bindings. -/
theorem evaluate_of_plain {environment : List (String × String)} {text : List Char}
    (plain : ∀ binding ∈ bindings text, ∀ value ∈ binding.2, '$' ∉ value) :
    evaluate environment text = .ofList (entries text) := by
  have kept (known : Variables) {binding : Binding} (listed : binding ∈ bindings text) :
      addBinding environment known binding =
        known.insert (String.ofList binding.1) (binding.2.map String.ofList) := by
    rw [addBinding]
    congr 1
    refine Option.map_congr fun value given => ?_
    rw [substitute_reference_eq_self fun name refers => plain binding listed value given
      refers.dollar_mem]
  rw [evaluate, entries, OrderedMap.ofList, OrderedMap.insertMany, List.foldl_map]
  exact List.foldl_ext _ _ _ fun known binding listed => kept known listed

end EnvironmentFile

namespace Settings

open Schema
open EnvironmentFile (bindings)

/-!
## The entries of a field
-/

/-- The entries whose names have a certain form in small letters. -/
def entriesFor {α : Type} (folded : String) (table : List (String × α)) : List (String × α) :=
  table.filter fun entry => lowercase entry.1 = folded

section Entries

variable (sources : Sources) (field : Field)

def Sources.valueEntries : List (String × Json) :=
  entriesFor field.name sources.values

def Sources.environmentEntries : List (String × String) :=
  entriesFor field.variable sources.environment

def Sources.fileEntries : List (String × Option String) :=
  match sources.fileText with
  | .error _ => []
  | .ok text => entriesFor field.variable (EnvironmentFile.entries text)

/-- The JSON value that a variable stands for. The text of a list may be null, which is no value. -/
def Field.ofText? (text : String) : Option Json :=
  if field.isList then
    match Json.decode text with
    | .error _ => none
    | .ok .null => none
    | .ok json => some json
  else some (.string (.text text))

/-- Of several given values the first one counts. -/
def Sources.fromValues? : Option Json :=
  (sources.valueEntries field).head?.map Prod.snd

/-- Of several variables the last one counts. -/
def Sources.fromEnvironment? : Option Json :=
  (sources.environmentEntries field).getLast?.bind fun entry => field.ofText? entry.2

/-- Of several bindings of one spelling the last one counts, and of several spellings the one that
came up last. A binding without a value supplies nothing. -/
def Sources.fromFile? : Option Json :=
  (OrderedMap.ofList (sources.fileEntries field)).toList.getLast?.bind fun entry =>
    entry.2.bind field.ofText?

/-- The value of the first source that supplies the field. -/
def Sources.supplied? : Option Json :=
  (sources.fromValues? field).or ((sources.fromEnvironment? field).or (sources.fromFile? field))

end Entries

/-!
## What the sources supply
-/

theorem lowercase_name (field : Field) : lowercase field.name = field.name := by
  cases field <;> decide +kernel

theorem isFieldName_name (field : Field) : isFieldName field.name = true := by
  cases field <;> decide

/-- The last entry of a name counts. -/
theorem get?_foldNames_eq {α : Type} (table : List (String × α)) (folded : String) :
    (foldNames table).get? folded = (entriesFor folded table).getLast?.map Prod.snd := by
  rw [foldNames, OrderedMap.get?_ofList_named, entriesFor, List.getLast?_filter]
  rfl

theorem toOption_readVariable (origin : Origin) (field : Field) (text : String) :
    (readVariable origin field text).toOption.join = field.ofText? text := by
  rw [readVariable, Field.ofText?]
  by_cases list : field.isList = true
  · rw [if_pos list, if_pos list]
    cases Json.decode text with
    | error fault => cases fault <;> rfl
    | ok json => cases json <;> rfl
  · rw [if_neg list, if_neg list]
    rfl

section Supplied

variable (sources : Sources) (field : Field)

/-- Reading a further value changes nothing for a field that has one. -/
theorem get?_addGiven (known : OrderedMap String Json) (entry : String × Json) :
    (addGiven known entry).get? field.name =
      if lowercase entry.1 = field.name then some ((known.get? field.name).getD entry.2)
      else known.get? field.name := by
  rw [addGiven]
  by_cases named : isFieldName (lowercase entry.1) = true
  · rw [if_pos named, OrderedMap.get?_insertIfNew]
    by_cases same : lowercase entry.1 = field.name
    · rw [if_pos same, if_pos same, same]
    · rw [if_neg same, if_neg same]
  · have foreign : lowercase entry.1 ≠ field.name := fun same =>
      named (same ▸ isFieldName_name field)
    have different : entry.1 ≠ field.name := fun same =>
      foreign (by rw [same, lowercase_name])
    rw [if_neg named, OrderedMap.get?_insert, if_neg different, if_neg foreign]

theorem addGiven_name (known : OrderedMap String Json) (json : Json) :
    addGiven known (field.name, json) = known.insertIfNew field.name json := by
  rw [addGiven, lowercase_name, if_pos (isFieldName_name field)]

theorem get?_foldl_addGiven (known : OrderedMap String Json) (values : List (String × Json)) :
    (values.foldl addGiven known).get? field.name =
      (known.get? field.name).or ((entriesFor field.name values).head?.map Prod.snd) := by
  induction values generalizing known with
  | nil => exact (Option.or_none).symm
  | cons entry rest ih =>
    rw [List.foldl_cons, ih, get?_addGiven, entriesFor, entriesFor, List.filter_cons]
    by_cases same : lowercase entry.1 = field.name
    · simp only [same, if_true, decide_true, List.head?_cons, Option.map_some]
      cases known.get? field.name <;> rfl
    · simp only [same, if_false, decide_false, Bool.false_eq_true]

theorem get?_given : sources.given.get? field.name = sources.fromValues? field := by
  rw [Sources.given, get?_foldl_addGiven, OrderedMap.get?_empty, Option.none_or]
  rfl

theorem toOption_fromEnvironment :
    (sources.fromEnvironment field).toOption.join = sources.fromEnvironment? field := by
  rw [Sources.fromEnvironment, Sources.environmentVariables, get?_foldNames_eq,
    Sources.fromEnvironment?, Sources.environmentEntries]
  cases (entriesFor field.variable sources.environment).getLast? with
  | none => rfl
  | some entry => exact toOption_readVariable .environment field entry.2

/-- No value of the file holds a dollar sign. -/
def Sources.IsPlain : Prop :=
  ∀ text, sources.fileText = .ok text →
    ∀ binding ∈ bindings text, ∀ value ∈ binding.2, '$' ∉ value

variable {sources} {text : List Char}

theorem toOption_fromFile (plain : sources.IsPlain) (decoded : sources.fileText = .ok text) :
    (fromFile (sources.fileVariables text) field).toOption.join = sources.fromFile? field := by
  have selected : entriesFor field.variable
      (EnvironmentFile.evaluate sources.environment text).toList =
        (OrderedMap.ofList (sources.fileEntries field)).toList := by
    rw [EnvironmentFile.evaluate_of_plain (plain text decoded), Sources.fileEntries, decoded]
    exact OrderedMap.filter_toList_ofList (fun name => lowercase name = field.variable) _
  rw [fromFile, Sources.fileVariables, get?_foldNames_eq, selected, Sources.fromFile?]
  cases (OrderedMap.ofList (sources.fileEntries field)).toList.getLast? with
  | none => rfl
  | some entry =>
    obtain ⟨name, value⟩ := entry
    cases value with
    | none => rfl
    | some value => exact toOption_readVariable .file field value

theorem found_eq_supplied (plain : sources.IsPlain) (decoded : sources.fileText = .ok text) :
    sources.found text field = sources.supplied? field := by
  rw [Sources.found, Sources.value, get?_given, toOption_fromEnvironment,
    toOption_fromFile field plain decoded, Sources.supplied?]

end Supplied

/-!
## Configurations that agree on a field
-/

/-- The field has the value that a JSON value becomes in its check, or the standard one without a
JSON value. -/
def Decodes (settings : Settings) (json? : Option Json) (field : Field) : Prop :=
  match json? with
  | none => settings.get field = standard.get field
  | some json => field.check json = .valid (settings.get field)

theorem Decodes.unique {left right : Settings} {json? : Option Json} {field : Field}
    (leftDecodes : left.Decodes json? field) (rightDecodes : right.Decodes json? field) :
    left.get field = right.get field := by
  cases json? with
  | none => exact leftDecodes.trans rightDecodes.symm
  | some json => exact Checked.valid.inj (leftDecodes.symm.trans rightDecodes)

/-- Each field is decoded from the first source that supplies it. -/
theorem decodes_of_build {sources : Sources} {settings : Settings} (plain : sources.IsPlain)
    (built : build sources = .ok settings) (field : Field) :
    settings.Decodes (sources.supplied? field) field := by
  obtain ⟨text, decoded⟩ := exists_fileText_of_build built
  have checked := checkFields_eq_valid_iff.mp (checkFields_of_build decoded built) field
  rw [checkField, found_eq_supplied field plain decoded] at checked
  cases supplied : sources.supplied? field with
  | none =>
    rw [supplied] at checked
    exact (Checked.valid.inj checked).symm
  | some json =>
    rw [supplied] at checked
    exact Checked.within_eq_valid_iff.mp checked

/-- Source by source the entries of a field are the same, down to the first one that supplies it. The
entries behind that source may differ, and so may those of all other fields. -/
def AgreeOn (field : Field) (left right : Sources) : Prop :=
  left.valueEntries field = right.valueEntries field ∧
    (left.fromValues? field = none →
      left.environmentEntries field = right.environmentEntries field ∧
        (left.fromEnvironment? field = none → left.fileEntries field = right.fileEntries field))

theorem AgreeOn.supplied_eq {field : Field} {left right : Sources}
    (agree : AgreeOn field left right) : left.supplied? field = right.supplied? field := by
  obtain ⟨values, later⟩ := agree
  have sameValues : left.fromValues? field = right.fromValues? field := by
    rw [Sources.fromValues?, values, Sources.fromValues?]
  rw [Sources.supplied?, Sources.supplied?, ← sameValues]
  cases given : left.fromValues? field with
  | some json => rfl
  | none =>
    obtain ⟨environment, last⟩ := later given
    have sameEnvironment : left.fromEnvironment? field = right.fromEnvironment? field := by
      rw [Sources.fromEnvironment?, environment, Sources.fromEnvironment?]
    rw [← sameEnvironment]
    cases set : left.fromEnvironment? field with
    | some json => rfl
    | none => rw [Sources.fromFile?, last set, Sources.fromFile?]

theorem get_eq_of_agreeOn {left right : Sources} {leftSettings rightSettings : Settings}
    (leftPlain : left.IsPlain) (rightPlain : right.IsPlain)
    (leftBuilt : build left = .ok leftSettings) (rightBuilt : build right = .ok rightSettings)
    {field : Field} (agree : AgreeOn field left right) :
    leftSettings.get field = rightSettings.get field := by
  have decodes := decodes_of_build rightPlain rightBuilt field
  rw [← agree.supplied_eq] at decodes
  exact (decodes_of_build leftPlain leftBuilt field).unique decodes

end Settings

end SpecLexicon
