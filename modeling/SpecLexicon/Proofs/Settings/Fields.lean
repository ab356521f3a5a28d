import SpecLexicon.Proofs.Json.Bounds
import SpecLexicon.Proofs.OrderedMap
import SpecLexicon.Proofs.Settings.EnvironmentFile
import SpecLexicon.Proofs.Settings.Proper

/-!
# Settings field by field

All fields are read from the environment, then all of them from the file; the first one that cannot
be read makes both fail. Each field takes its value from those that a program gives or, failing
that, from the environment, and at last from the file.
-/

set_option autoImplicit false

namespace SpecLexicon.Settings

open Schema

/-!
## Reading fields
-/

section Reading

variable {read other : Field → Except Failure (Option Json)}

theorem readFields_cons (first : Field) (rest : List Field) :
    readFields read (first :: rest) = match read first with
      | .error failure => .error failure
      | .ok value => (readFields read rest).map fun others =>
        (value.toList.map fun json => (first, json)) ++ others := by
  cases firstRead : read first with
  | error failure => simp [readFields, firstRead, bind, Except.bind]
  | ok value =>
    cases othersRead : readFields read rest <;>
      simp [readFields, firstRead, othersRead, bind, Except.bind, pure, Except.pure, Except.map]

theorem lookup_readFields {fields : List Field} (distinct : fields.Nodup)
    {found : List (Field × Json)} (all : readFields read fields = .ok found) (field : Field) :
    OrderedMap.lookup field found =
      if field ∈ fields then (read field).toOption.join else none := by
  induction fields generalizing found with
  | nil =>
    cases all
    rfl
  | cons first rest ih =>
    obtain ⟨absent, distinct⟩ := List.nodup_cons.mp distinct
    rw [readFields_cons] at all
    split at all
    · cases all
    · rename_i value firstRead
      obtain ⟨others, othersRead, rfl⟩ := Json.exists_of_map_eq_ok all
      rw [OrderedMap.lookup_append, ih distinct othersRead]
      by_cases same : field = first
      · subst same
        rw [if_neg absent, if_pos List.mem_cons_self, firstRead, Option.or_none]
        cases value <;> simp [OrderedMap.lookup, Except.toOption]
      · have passed :
            OrderedMap.lookup field (value.toList.map fun json => (first, json)) = none := by
          cases value <;> simp [OrderedMap.lookup, Ne.symm same]
        rw [passed, Option.none_or]
        simp [same]

/-- The first field that cannot be read makes the reading fail. -/
theorem readFields_cons_eq_error_iff {first : Field} {rest : List Field} {failure : Failure} :
    readFields read (first :: rest) = .error failure ↔ read first = .error failure ∨
      (read first).isOk = true ∧ readFields read rest = .error failure := by
  rw [readFields_cons]
  cases read first with
  | error fault => simp [Except.isOk, Except.toBool]
  | ok value =>
    cases readFields read rest <;> simp [Except.isOk, Except.toBool, Except.map]

/-- Two readers that differ only in fields which both read fail alike. -/
theorem readFields_eq_error {fields : List Field} {failure : Failure}
    (agree : ∀ field, read field = other field ∨
      (read field).isOk = true ∧ (other field).isOk = true)
    (failed : readFields read fields = .error failure) :
    readFields other fields = .error failure := by
  induction fields with
  | nil => cases failed
  | cons first rest ih =>
    rw [readFields_cons_eq_error_iff] at failed ⊢
    rcases agree first with same | ⟨fine, otherFine⟩
    · rw [← same]
      exact failed.imp_right fun ⟨fine, later⟩ => ⟨fine, ih later⟩
    · rcases failed with unread | ⟨_, later⟩
      · rw [unread] at fine
        cases fine
      · exact .inr ⟨otherFine, ih later⟩

theorem exists_readFields (fine : ∀ field, (read field).isOk = true) (fields : List Field) :
    ∃ found, readFields read fields = .ok found := by
  induction fields with
  | nil => exact ⟨[], rfl⟩
  | cons first rest ih =>
    obtain ⟨others, othersRead⟩ := ih
    have firstFine := fine first
    rw [readFields_cons, othersRead]
    cases firstRead : read first with
    | error failure =>
      rw [firstRead] at firstFine
      cases firstFine
    | ok value => exact ⟨_, rfl⟩

end Reading

/-!
## Variables by folded names
-/

section Names

variable {α : Type} {table : List (String × α)}

theorem get?_foldNames_eq_none {key : String} (absent : ∀ entry ∈ table, lowercase entry.1 ≠ key) :
    (foldNames table).get? key = none := by
  rw [foldNames, OrderedMap.get?_ofList, OrderedMap.lookup_eq_none_iff, List.map_reverse,
    List.mem_reverse]
  intro listed
  simp only [List.map_map, List.mem_map, Function.comp_apply] at listed
  obtain ⟨entry, member, known⟩ := listed
  exact absent entry member known

theorem get?_foldNames {name : String} {value : α} (listed : (name, value) ∈ table)
    (agree : ∀ entry ∈ table, lowercase entry.1 = lowercase name → entry.2 = value) :
    (foldNames table).get? (lowercase name) = some value := by
  rw [foldNames, OrderedMap.get?_ofList]
  refine OrderedMap.lookup_eq_some_of_agree ?_ fun entry member same => ?_
  · exact List.mem_reverse.mpr (List.mem_map_of_mem listed)
  · obtain ⟨source, stands, rfl⟩ := List.mem_map.mp (List.mem_reverse.mp member)
    exact agree source stands same

end Names

/-!
## Settings from what the fields hold
-/

/-- What passed a check, or the defects. -/
def verdict {α : Type} : Checked α → Except Failure α
  | .valid value => .ok value
  | .faulty first others => .error (.invalid first others)

theorem verdict_map {α β : Type} (change : α → β) (checked : Checked α) :
    verdict (checked.map change) = (verdict checked).map change := by
  cases checked <;> rfl

theorem eq_valid_of_verdict {α : Type} {checked : Checked α} {value : α}
    (fine : verdict checked = .ok value) : checked = .valid value := by
  cases checked <;> cases fine
  rfl

def withTemplates (lines : Lines) (settings : Settings) : Settings :=
  { settings with templates := lines }

/-- A value for the templates that passes its check replaces the standard ones. -/
theorem checkFields_eq_map {found other : Field → Option Json} {lines : Lines}
    (absent : found .templates = none)
    (agree : ∀ field, field ≠ .templates → other field = found field)
    (checked : checkField other .templates standard.templates checkedLines = .valid lines) :
    checkFields other = (checkFields found).map (withTemplates lines) := by
  have same {α : Type} {field : Field} {value : α} {check : Json → Checked α}
      (different : field ≠ .templates) :
      checkField other field value check = checkField found field value check := by
    rw [checkField, checkField, agree field different]
  have standardLines : checkField found .templates standard.templates checkedLines =
      .valid standard.templates := by
    rw [checkField, absent]
  rw [checkFields, checkFields, checked, standardLines, same (by decide), same (by decide),
    same (by decide), same (by decide), same (by decide), same (by decide)]
  generalize checkField found .motors _ _ = motors
  generalize checkField found .counters _ _ = counters
  generalize (checkField found .preview _ _).both _ = others
  cases motors <;> cases counters <;> cases others <;> rfl

section Build

variable {sources : Sources} {text : List Char} (decoded : sources.fileText = .ok text)

/-- The value of a field: the environment comes before the file. -/
def Sources.value (sources : Sources) (text : List Char) (field : Field) : Option Json :=
  (sources.fromEnvironment field).toOption.join.or
    (fromFile (sources.fileVariables text) field).toOption.join

/-- The value of a field: what a program gives comes before all variables. -/
def Sources.found (sources : Sources) (text : List Char) (field : Field) : Option Json :=
  (sources.given.get? field.name).or (sources.value text field)

theorem found_eq_value {sources : Sources} (bare : sources.given = .empty) (text : List Char) :
    sources.found text = sources.value text := by
  funext field
  rw [Sources.found, bare, OrderedMap.get?_empty, Option.none_or]

include decoded

theorem mapError_fileText : sources.fileText.mapError Failure.undecodable = .ok text := by
  rw [decoded]
  rfl

theorem build_eq_error {failure : Failure}
    (read : readFields sources.fromEnvironment Field.all = .error failure) :
    build sources = .error failure := by
  simp only [build, mapError_fileText decoded, read, bind, Except.bind]

/-- Sources that can be read are built field by field. -/
theorem build_eq {environment file : List (Field × Json)}
    (environmentRead : readFields sources.fromEnvironment Field.all = .ok environment)
    (fileRead : readFields (fromFile (sources.fileVariables text)) Field.all = .ok file) :
    build sources = (verdict ((checkFields (sources.found text)).both
      (checkUnknown (sources.unknownNames (sources.fileVariables text))))).map Prod.fst := by
  have distinct : Field.all.Nodup := by decide
  have listed (field : Field) : field ∈ Field.all := by cases field <;> decide
  have congruent (found : Field → Option Json)
      (same : ∀ field, found field = sources.found text field) :
      checkFields found = checkFields (sources.found text) :=
    congrArg checkFields (funext same)
  simp only [build, mapError_fileText decoded, environmentRead, fileRead, bind, Except.bind, pure,
    Except.pure]
  rw [congruent]
  · generalize (checkFields _).both _ = checked
    cases checked <;> rfl
  · intro field
    rw [lookup_readFields distinct environmentRead, lookup_readFields distinct fileRead,
      if_pos (listed field), if_pos (listed field), Sources.found, Sources.value]
    cases sources.given.get? field.name with
    | some json => rfl
    | none => cases (sources.fromEnvironment field).toOption.join <;> rfl

/-- Without foreign names the values of the fields decide. -/
theorem build_eq_verdict (bare : sources.given = .empty) {environment file : List (Field × Json)}
    (environmentRead : readFields sources.fromEnvironment Field.all = .ok environment)
    (fileRead : readFields (fromFile (sources.fileVariables text)) Field.all = .ok file)
    (known : sources.unknownNames (sources.fileVariables text) = []) :
    build sources = verdict (checkFields (sources.value text)) := by
  rw [build_eq decoded environmentRead fileRead, known, found_eq_value bare]
  cases checkFields (sources.value text) <;> rfl

/-- The settings that are built hold what passed the checks. -/
theorem checkFields_of_build {settings : Settings} (built : build sources = .ok settings) :
    checkFields (sources.found text) = .valid settings := by
  cases environmentRead : readFields sources.fromEnvironment Field.all with
  | error failure =>
    rw [build_eq_error decoded environmentRead] at built
    cases built
  | ok environment =>
    cases fileRead : readFields (fromFile (sources.fileVariables text)) Field.all with
    | error failure =>
      simp only [build, mapError_fileText decoded, environmentRead, fileRead, bind,
        Except.bind] at built
      cases built
    | ok file =>
      rw [build_eq decoded environmentRead fileRead] at built
      obtain ⟨pair, fine, rfl⟩ := Json.exists_of_map_eq_ok built
      exact (Checked.both_eq_valid_iff.mp (eq_valid_of_verdict fine)).1

omit decoded

/-- Settings are built only if the file is a text. -/
theorem exists_fileText_of_build {settings : Settings} (built : build sources = .ok settings) :
    ∃ text, sources.fileText = .ok text := by
  cases decoded : sources.fileText with
  | error fault =>
    have failed : sources.fileText.mapError Failure.undecodable = .error (.undecodable fault) := by
      rw [decoded]
      rfl
    simp only [build, failed, bind, Except.bind] at built
    cases built
  | ok text => exact ⟨text, rfl⟩

end Build

/-!
## Without a file
-/

theorem fileVariables_nil (sources : Sources) : sources.fileVariables [] = .empty := by
  rw [Sources.fileVariables, EnvironmentFile.evaluate, EnvironmentFile.bindings_nil]
  rfl

theorem fromFile_nil (sources : Sources) (field : Field) :
    fromFile (sources.fileVariables []) field = .ok none := by
  rw [fileVariables_nil, fromFile, OrderedMap.get?_empty]

/-- Without variables the values that a program gives make up the settings. -/
theorem build_of_values (values : List (String × Json)) :
    build ⟨values, [], none⟩ =
      (verdict ((checkFields fun field => (Sources.given ⟨values, [], none⟩).get? field.name).both
        (checkUnknown (Sources.unknownNames ⟨values, [], none⟩ .empty)))).map Prod.fst := by
  have unset (field : Field) : (Sources.fromEnvironment ⟨values, [], none⟩ field).isOk = true := rfl
  have unbound (field : Field) :
      (fromFile (Sources.fileVariables ⟨values, [], none⟩ []) field).isOk = true := by
    rw [fromFile_nil]
    rfl
  obtain ⟨environment, environmentRead⟩ := exists_readFields unset Field.all
  obtain ⟨file, fileRead⟩ := exists_readFields unbound Field.all
  rw [build_eq rfl environmentRead fileRead, fileVariables_nil]
  congr 4
  funext field
  rw [Sources.found, Sources.value, fromFile_nil]
  exact Option.or_none

theorem build_nothing : build ⟨[], [], none⟩ = .ok standard :=
  (build_of_values []).trans rfl

end SpecLexicon.Settings
