import SpecLexicon.Proofs.Settings.EnvironmentFile
import SpecLexicon.Proofs.Settings.Fields
import SpecLexicon.Proofs.Settings.Reference
import SpecLexicon.Proofs.Text.Utf8

/-!
# Templates from the environment and from a file

The JSON text of a list of templates makes up the same settings as a variable of the environment and
as the only variable of the environment file, unless a reference to a variable stands in it. Many
placeholders have the form of such a reference. Then they are lost from the file without a word,
whatever else the file holds.
-/

set_option autoImplicit false

namespace SpecLexicon.Settings

open Schema
open EnvironmentFile (Binding Refers assignment bindings reference resolve variablesOf)

/-!
## The templates as a variable
-/

def templatesVariable : String := "SPEC_COMMAND_EDITOR_CODE_SNIPPETS"

theorem lowercase_templatesVariable : lowercase templatesVariable = Field.templates.variable := by
  have ascii : ∀ c ∈ templatesVariable.toList, c.toNat < 0x80 := fun c member =>
    of_decide_eq_true
      (@List.all_eq_true _ (fun c => decide (c.toNat < 0x80)) _ |>.mp (by decide) c member)
  rw [lowercase, Text.lowercase_of_ascii ascii]
  decide

theorem isWord_templatesVariable : Text.IsWord templatesVariable.toList := by
  have whole : Text.leadingWord? templatesVariable.toList =
      some (templatesVariable.toList, []) := by
    decide
  exact Text.isWord_of_leadingWord? whole

theorem checkedLines_eq_valid_iff {json : Json} {texts : List String} :
    checkedLines json = .valid (.texts (texts.map .text)) ↔ json = Json.ofTexts texts := by
  have written : Json.ofTexts texts = .list ((texts.map LooseText.text).map .string) := by
    rw [Json.ofTexts, List.map_map]
    rfl
  rw [written, checkedLines, Checked.map_eq_valid_iff]
  constructor
  · rintro ⟨lines, accepted, same⟩
    rw [← Lines.texts.inj same]
    cases json with
    | list items =>
      have tells : ∀ (item : Json × Nat) line,
          (looseText item.1).within (.index item.2) = .valid line → item.1 = .string line := by
        intro item line accepted
        rw [Checked.within_eq_valid_iff] at accepted
        cases value : item.1 with
        | string found =>
          rw [value] at accepted
          cases accepted
          rfl
        | null | bool | integer | real | list | object =>
          rw [value] at accepted
          cases accepted
      rw [listOf] at accepted
      rw [← Checked.map_eq_of_all tells accepted, List.zipIdx_map_fst]
    | null | bool | integer | real | string | object => cases accepted
  · rintro rfl
    have accepted : ∀ line, looseText (.string line) = .valid line := fun _ => rfl
    exact ⟨_, listOf_map accepted _, rfl⟩

theorem decode_of_readVariable {origin : Origin} {text : String} {texts : List String}
    (read : (readVariable origin .templates text).toOption.join = some (Json.ofTexts texts)) :
    Json.decode text = .ok (Json.ofTexts texts) := by
  rw [readVariable, if_pos (show Field.templates.isList = true from rfl)] at read
  split at read
  · cases read
  · cases read
  · cases read
  · rename_i decoded
    rw [decoded, Option.some.inj read]

theorem readVariable_of_isDocument {limit : Nat} {text : List Char} {texts : List String}
    (written : Json.IsDocument limit text (Json.ofTexts texts)) (origin : Origin) :
    readVariable origin .templates (String.ofList text) = .ok (some (Json.ofTexts texts)) := by
  have document : Json.IsDocument limit (String.ofList text).toList (Json.ofTexts texts) := by
    rwa [String.toList_ofList]
  rw [readVariable, if_pos (show Field.templates.isList = true from rfl),
    Json.decode_of_texts document]
  rfl

/-- The variable of a field is the one for the templates only if the field is theirs. -/
theorem variable_eq_iff {field : Field} :
    Field.templates.variable = field.variable ↔ field = .templates := by
  cases field <;> decide

/-!
## The environment
-/

section Environment

variable (environment : List (String × String)) (text : List Char)

/-- Variables of the environment, and no file. -/
def Sources.environmentOnly : Sources := ⟨[], environment, none⟩

/-- The templates stand in the environment, behind its other variables. -/
def Sources.inEnvironment : Sources :=
  ⟨[], environment ++ [(templatesVariable, String.ofList text)], none⟩

variable {environment text}

theorem fromEnvironment_inEnvironment (field : Field) :
    (Sources.inEnvironment environment text).fromEnvironment field =
      if field = .templates then readVariable .environment .templates (String.ofList text)
      else (Sources.environmentOnly environment).fromEnvironment field := by
  have known : (Sources.inEnvironment environment text).environmentVariables.get? field.variable =
      if field = .templates then some (String.ofList text)
      else (Sources.environmentOnly environment).environmentVariables.get? field.variable := by
    simp only [Sources.environmentVariables, foldNames, Sources.inEnvironment,
      Sources.environmentOnly, OrderedMap.get?_ofList, List.map_append, List.reverse_append,
      List.map_cons, List.map_nil, List.reverse_singleton, List.singleton_append,
      OrderedMap.lookup, lowercase_templatesVariable, variable_eq_iff]
  rw [Sources.fromEnvironment, known]
  by_cases same : field = .templates
  · rw [same]
    rfl
  · rw [if_neg same, if_neg same, Sources.fromEnvironment]

theorem fromEnvironment_templates
    (undefined : ∀ entry ∈ environment, lowercase entry.1 ≠ Field.templates.variable) :
    (Sources.environmentOnly environment).fromEnvironment .templates = .ok none := by
  have missing : (Sources.environmentOnly environment).environmentVariables.get?
      Field.templates.variable = none :=
    get?_foldNames_eq_none undefined
  rw [Sources.fromEnvironment, missing]

/-- Without a file the settings are made up of the environment. -/
theorem build_environmentOnly {found : List (Field × Json)}
    (read : readFields (Sources.environmentOnly environment).fromEnvironment Field.all =
      .ok found) :
    build (.environmentOnly environment) = verdict (checkFields fun field =>
      ((Sources.environmentOnly environment).fromEnvironment field).toOption.join) := by
  have fine (field : Field) :
      (fromFile ((Sources.environmentOnly environment).fileVariables []) field).isOk = true := by
    rw [fromFile_nil]
    rfl
  obtain ⟨file, fileRead⟩ := exists_readFields fine Field.all
  have known : (Sources.environmentOnly environment).unknownNames
      ((Sources.environmentOnly environment).fileVariables []) = [] := by
    rw [fileVariables_nil]
    rfl
  rw [build_eq_verdict rfl rfl read fileRead known]
  congr 2
  funext field
  rw [Sources.value, fromFile_nil]
  exact Option.or_none

theorem undefined_nil : ∀ entry ∈ ([] : List (String × String)),
    lowercase entry.1 ≠ Field.templates.variable :=
  fun _ listed => absurd listed List.not_mem_nil

/-- Without variables the settings are the standard ones. -/
theorem build_environmentOnly_nil : build (.environmentOnly []) = .ok standard :=
  build_nothing

/-- Sources that add nothing but a list of templates to the environment. -/
theorem build_eq_map {sources : Sources} {text : List Char} {texts : List String}
    (decoded : sources.fileText = .ok text) (bare : sources.given = .empty)
    (known : sources.unknownNames (sources.fileVariables text) = [])
    (undefined : (Sources.environmentOnly environment).fromEnvironment .templates = .ok none)
    (others : ∀ field, field ≠ .templates →
      sources.fromEnvironment field = (Sources.environmentOnly environment).fromEnvironment field ∧
        fromFile (sources.fileVariables text) field = .ok none)
    (found : sources.fromEnvironment .templates = .ok (some (Json.ofTexts texts)) ∧
        fromFile (sources.fileVariables text) .templates = .ok none ∨
      sources.fromEnvironment .templates = .ok none ∧
        fromFile (sources.fileVariables text) .templates = .ok (some (Json.ofTexts texts))) :
    build sources = (build (.environmentOnly environment)).map
      (withTemplates (.texts (texts.map .text))) := by
  have fileFine (field : Field) : (fromFile (sources.fileVariables text) field).isOk = true := by
    by_cases same : field = .templates
    · subst same
      rcases found with ⟨_, read⟩ | ⟨_, read⟩ <;> rw [read] <;> rfl
    · rw [(others field same).2]
      rfl
  obtain ⟨file, fileRead⟩ := exists_readFields fileFine Field.all
  have agree (field : Field) :
      (Sources.environmentOnly environment).fromEnvironment field = sources.fromEnvironment field ∨
        ((Sources.environmentOnly environment).fromEnvironment field).isOk = true ∧
          (sources.fromEnvironment field).isOk = true := by
    by_cases same : field = .templates
    · subst same
      refine .inr ⟨by rw [undefined]; rfl, ?_⟩
      rcases found with ⟨read, _⟩ | ⟨read, _⟩ <;> rw [read] <;> rfl
    · exact .inl (others field same).1.symm
  cases alone : readFields (Sources.environmentOnly environment).fromEnvironment Field.all with
  | error failure =>
    rw [build_eq_error decoded (readFields_eq_error agree alone), build_eq_error rfl alone]
    rfl
  | ok values =>
    cases read : readFields sources.fromEnvironment Field.all with
    | error failure =>
      rw [readFields_eq_error (fun field => (agree field).imp Eq.symm And.symm) read] at alone
      cases alone
    | ok pairs =>
      rw [build_eq_verdict decoded bare read fileRead known, build_environmentOnly alone,
        ← verdict_map]
      refine congrArg verdict (checkFields_eq_map ?_ ?_ ?_)
      · rw [undefined]
        rfl
      · intro field different
        rw [Sources.value, (others field different).1, (others field different).2]
        exact Option.or_none
      · have accepted :=
          checkedLines_eq_valid_iff.mpr (rfl : Json.ofTexts texts = .ofTexts texts)
        rcases found with ⟨fromEnvironment, fromFile⟩ | ⟨fromEnvironment, fromFile⟩ <;>
          simp [checkField, Sources.value, fromEnvironment, fromFile, Except.toOption, accepted]

theorem build_inEnvironment {limit : Nat} {templates : List String}
    (written : Json.IsDocument limit text (Json.ofTexts templates))
    (undefined : ∀ entry ∈ environment, lowercase entry.1 ≠ Field.templates.variable) :
    build (.inEnvironment environment text) =
      (build (.environmentOnly environment)).map
        (withTemplates (.texts (templates.map .text))) := by
  refine build_eq_map rfl rfl (by rw [fileVariables_nil]; rfl)
    (fromEnvironment_templates undefined) ?_ ?_
  · intro field different
    exact ⟨by rw [fromEnvironment_inEnvironment, if_neg different], fromFile_nil _ field⟩
  · refine .inl ⟨?_, fromFile_nil _ _⟩
    rw [fromEnvironment_inEnvironment, if_pos rfl, readVariable_of_isDocument written]

end Environment

/-!
## The file
-/

section File

variable (environment : List (String × String)) (before after : List Binding)
  (text file : List Char)

/-- Variables of the environment, and a file. -/
def Sources.withFile : Sources := ⟨[], environment, some (String.ofList file).toUTF8⟩

/-- The text as it comes out of a file behind some bindings. -/
def interpolated : List Char :=
  Text.substitute (reference (resolve environment (variablesOf environment before))) text

/-- The references of a text name no variable of the environment or of some bindings. -/
def NamesNoVariable : Prop :=
  ∀ name, Refers text name → name ∉ before.map Prod.fst ∧
    String.ofList name ∉ environment.map Prod.fst

/-- The file gives the variable of the templates this text, behind some bindings. None of its other
bindings is for the templates. -/
structure GivesTemplates : Prop where
  bindings_eq : bindings file = before ++ (templatesVariable.toList, some text) :: after
  others : ∀ binding ∈ before ++ after,
    lowercase (String.ofList binding.1) ≠ Field.templates.variable

variable {environment before after text file}

theorem NamesNoVariable.unbound (unknown : NamesNoVariable environment before text) :
    ∀ name, Refers text name →
      (variablesOf environment before).get? (String.ofList name) = none ∧
        String.ofList name ∉ environment.map Prod.fst := by
  intro name refers
  obtain ⟨unbound, unset⟩ := unknown name refers
  refine ⟨EnvironmentFile.get?_variablesOf_eq_none fun binding listed same => ?_, unset⟩
  have names : binding.1 = name := by
    rw [← @String.toList_ofList binding.1, same, String.toList_ofList]
  exact unbound (List.mem_map.mpr ⟨binding, listed, names⟩)

theorem fileText_withFile : (Sources.withFile environment file).fileText = .ok file := by
  rw [Sources.fileText, Sources.withFile]
  simp only [Text.Utf8.decode_toUTF8, String.toList_ofList]

/-- A line that gives the text in apostrophes does so. -/
theorem givesTemplates_assignment {behind : List Char} (literal : EnvironmentFile.IsLiteral text)
    (unbroken : '\r' ∉ text) (blank : Text.IsBlankText behind) :
    GivesTemplates [] [] text (assignment templatesVariable.toList text ++ behind) where
  bindings_eq :=
    EnvironmentFile.bindings_assignment isWord_templatesVariable literal blank unbroken
  others _ listed := absurd listed List.not_mem_nil

theorem fromFile_eq_none {field : Field}
    (absent : ∀ binding ∈ bindings file, lowercase (String.ofList binding.1) ≠ field.variable) :
    fromFile ((Sources.withFile environment file).fileVariables file) field = .ok none := by
  have missing : ((Sources.withFile environment file).fileVariables file).get? field.variable =
      none := by
    refine get?_foldNames_eq_none fun entry listed => ?_
    obtain ⟨binding, member, named⟩ := EnvironmentFile.exists_of_mem_variablesOf listed
    exact named ▸ absent binding member
  rw [fromFile, missing]

/-- The variable of the templates is read as the text that comes out of the file. -/
theorem GivesTemplates.fromFile (gives : GivesTemplates before after text file) :
    fromFile ((Sources.withFile environment file).fileVariables file) .templates =
      readVariable .file .templates (String.ofList (interpolated environment before text)) := by
  have last : ∀ binding ∈ after,
      String.ofList binding.1 ≠ String.ofList templatesVariable.toList := by
    intro binding member same
    refine gives.others binding (List.mem_append_right before member) ?_
    rw [same, String.ofList_toList, lowercase_templatesVariable]
  have value := @EnvironmentFile.get?_variablesOf environment _ text before after last
  rw [String.ofList_toList] at value
  have known : ((Sources.withFile environment file).fileVariables file).get?
      Field.templates.variable =
        some (some (String.ofList (interpolated environment before text))) := by
    rw [Sources.fileVariables, EnvironmentFile.evaluate, gives.bindings_eq,
      ← lowercase_templatesVariable]
    refine get?_foldNames (OrderedMap.get?_eq_some_iff.mp value) fun entry listed same => ?_
    obtain ⟨binding, member, named⟩ := EnvironmentFile.exists_of_mem_variablesOf listed
    rw [← named, lowercase_templatesVariable] at same
    rcases List.mem_append.mp member with member | member
    · exact absurd same (gives.others binding (List.mem_append_left after member))
    · rcases List.mem_cons.mp member with rfl | member
      · obtain ⟨key, found⟩ := entry
        obtain rfl : templatesVariable = key := String.ofList_toList.symm.trans named
        exact Option.some.inj ((OrderedMap.get?_eq_some_iff.mpr listed).symm.trans value)
      · exact absurd same (gives.others binding (List.mem_append_right before member))
  rw [Settings.fromFile, known]

/-- A file with nothing but this line has no foreign names. -/
theorem unknownNames_of_single (single : bindings file = [(templatesVariable.toList, some text)]) :
    (Sources.withFile environment file).unknownNames
      ((Sources.withFile environment file).fileVariables file) = [] := by
  have table : (Sources.withFile environment file).fileVariables file =
      .ofList [(Field.templates.variable,
        some (String.ofList (interpolated environment [] text)))] := by
    have entries : (variablesOf environment [(templatesVariable.toList, some text)]).toList =
        [(String.ofList templatesVariable.toList,
          some (String.ofList (interpolated environment [] text)))] := rfl
    change foldNames (variablesOf environment (bindings file)).toList = _
    rw [single, entries, String.ofList_toList, ← lowercase_templatesVariable]
    rfl
  rw [table]
  rfl

end File

/-!
## A list from the environment and from the file
-/

section Lists

variable {limit : Nat} {templates : List String} {environment : List (String × String)}
  {before after : List Binding} {text file : List Char}
  (undefined : ∀ entry ∈ environment, lowercase entry.1 ≠ Field.templates.variable)

include undefined

/-- The templates of a file with one line are those of the text that comes out of it. -/
theorem build_of_assignment {behind : List Char} (literal : EnvironmentFile.IsLiteral text)
    (unbroken : '\r' ∉ text) (blank : Text.IsBlankText behind)
    (written : Json.IsDocument limit (interpolated environment [] text) (Json.ofTexts templates)) :
    build (.withFile environment (assignment templatesVariable.toList text ++ behind)) =
      (build (.environmentOnly environment)).map
        (withTemplates (.texts (templates.map .text))) := by
  have gives := givesTemplates_assignment literal unbroken blank
  have others {field : Field} (different : field ≠ .templates) :
      ∀ binding ∈ bindings (assignment templatesVariable.toList text ++ behind),
        lowercase (String.ofList binding.1) ≠ field.variable := by
    intro binding listed
    rw [gives.bindings_eq, List.nil_append, List.mem_singleton] at listed
    rw [listed, String.ofList_toList, lowercase_templatesVariable, Ne, variable_eq_iff]
    exact different
  refine build_eq_map fileText_withFile rfl (unknownNames_of_single gives.bindings_eq)
    (fromEnvironment_templates undefined) ?_ ?_
  · intro field different
    exact ⟨rfl, fromFile_eq_none (others different)⟩
  · refine .inr ⟨fromEnvironment_templates undefined, ?_⟩
    rw [gives.fromFile, readVariable_of_isDocument written]

variable (gives : GivesTemplates before after text file) {settings : Settings}
  (built : build (.withFile environment file) = .ok settings)

include gives built

theorem checked_of_build :
    checkField (fun _ => (readVariable .file .templates
      (String.ofList (interpolated environment before text))).toOption.join)
        .templates standard.templates checkedLines = .valid settings.templates := by
  have accepted := checkFields_of_build fileText_withFile built
  rw [found_eq_value rfl] at accepted
  have checked := checkFields_eq_valid_iff.mp accepted .templates
  have unset : (Sources.withFile environment file).fromEnvironment .templates = .ok none :=
    fromEnvironment_templates undefined
  rwa [checkField, Sources.value, unset, gives.fromFile] at checked

variable (written : Json.IsDocument limit text (Json.ofTexts templates))

include written

theorem templates_of_plain (plain : ∀ name, ¬Refers text name) :
    settings.templates = .texts (templates.map .text) := by
  have checked := checked_of_build undefined gives built
  have accepted :=
    checkedLines_eq_valid_iff.mpr (rfl : Json.ofTexts templates = .ofTexts templates)
  rw [interpolated, EnvironmentFile.substitute_reference_eq_self plain,
    readVariable_of_isDocument written] at checked
  simp only [checkField, Except.toOption, Option.join_some, accepted, Checked.within_valid,
    Checked.valid.injEq] at checked
  exact checked.symm

/-- A reference to no variable is lost from a text without escapes, and the list with it. -/
theorem templates_ne_of_refers (unescaped : '\\' ∉ text)
    (unknown : NamesNoVariable environment before text)
    (refers : ∃ name, Refers text name) : settings.templates ≠ .texts (templates.map .text) := by
  intro same
  have checked := checked_of_build undefined gives built
  rw [same, checkField] at checked
  -- Each dollar sign of either text is one of the list, but the reference had one of its own.
  have fewer := EnvironmentFile.count_substitute_resolve unknown.unbound refers
  rw [written.spells.count_eq (by decide) (by decide) unescaped] at fewer
  cases read : (readVariable .file .templates
      (String.ofList (interpolated environment before text))).toOption.join with
  | none =>
    rw [read] at checked
    obtain rfl : templates = [] := by
      simpa [standard, eq_comm] using checked
    exact absurd fewer (Nat.not_lt_zero _)
  | some json =>
    rw [read] at checked
    have accepted := Checked.within_eq_valid_iff.mp checked
    obtain rfl := checkedLines_eq_valid_iff.mp accepted
    have plain := EnvironmentFile.not_mem_substitute_resolve unknown.unbound unescaped
    have document : Json.IsDocument limit _ (Json.ofTexts templates) :=
      Json.isDocument_of_decode (by rwa [String.toList_ofList]) (decode_of_readVariable read)
    rw [String.toList_ofList, interpolated] at document
    rw [document.spells.count_eq (by decide) (by decide) plain] at fewer
    exact absurd fewer (Nat.lt_irrefl _)

end Lists

/-- The text of a list of templates makes up the same settings in the environment and in the file if
no reference stands in it. From a text without escapes whose references name no variable, the file
gives the list only then. -/
theorem templates_of_environment_and_file {limit : Nat} {templates : List String}
    {environment : List (String × String)} {text : List Char}
    (written : Json.IsDocument limit text (Json.ofTexts templates))
    (quotable : ∀ template ∈ templates, '\'' ∉ template.toList ∧ '\\' ∉ template.toList)
    (unbroken : '\r' ∉ text)
    (undefined : ∀ entry ∈ environment, lowercase entry.1 ≠ Field.templates.variable) :
    build (.inEnvironment environment text) =
        (build (.environmentOnly environment)).map
          (withTemplates (.texts (templates.map .text))) ∧
      (∀ behind, Text.IsBlankText behind →
        GivesTemplates [] [] text (assignment templatesVariable.toList text ++ behind) ∧
          ((∀ name, ¬Refers text name) →
            build (.withFile environment (assignment templatesVariable.toList text ++ behind)) =
              build (.inEnvironment environment text))) ∧
      ∀ before after file, GivesTemplates before after text file →
        ∀ settings, build (.withFile environment file) = .ok settings →
          ((∀ name, ¬Refers text name) → settings.templates = .texts (templates.map .text)) ∧
            ('\\' ∉ text → NamesNoVariable environment before text →
              settings.templates = .texts (templates.map .text) → ∀ name, ¬Refers text name) := by
  have literal := EnvironmentFile.isLiteral_of_spells written.spells quotable
  have fromEnvironment := build_inEnvironment written undefined
  refine ⟨fromEnvironment, fun behind blank => ⟨?_, fun plain => ?_⟩,
    fun before after file gives settings built => ⟨fun plain => ?_, ?_⟩⟩
  · exact givesTemplates_assignment literal unbroken blank
  · rw [fromEnvironment]
    have same : interpolated environment [] text = text :=
      EnvironmentFile.substitute_reference_eq_self plain
    exact build_of_assignment undefined literal unbroken blank (same.symm ▸ written)
  · exact templates_of_plain undefined gives built written plain
  · intro unescaped unknown same name refers
    exact templates_ne_of_refers undefined gives built written unescaped unknown ⟨name, refers⟩ same

def labelTemplates : List String := ["mv $\x7b2:pos\x7d"]

def labelText : List Char :=
  ['[', '"', 'm', 'v', ' ', '$', '\x7b', '2', ':', 'p', 'o', 's', '\x7d', '"', ']']

/-- A label stays in the file. -/
theorem label_of_file :
    build (.withFile [] (assignment templatesVariable.toList labelText ++ ['\n'])) =
      .ok (withTemplates (.texts (labelTemplates.map .text)) standard) := by
  have written : Json.IsDocument 1 labelText (Json.ofTexts labelTemplates) :=
    Json.isDocument_write labelTemplates
  have plain : ¬∃ name, Refers labelText name := by decide
  obtain ⟨fromEnvironment, alike, -⟩ :=
    templates_of_environment_and_file written (by decide) (by decide) undefined_nil
  rw [(alike ['\n'] (by decide)).2 (not_exists.mp plain), fromEnvironment,
    build_environmentOnly_nil]
  rfl

def typedTemplates : List String := ["mv $\x7b1%MOT\x7d $\x7b2:pos\x7d"]

def typedText : List Char :=
  ['[', '"', 'm', 'v', ' ', '$', '\x7b', '1', '%', 'M', 'O', 'T', '\x7d', ' ', '$', '\x7b', '2',
    ':', 'p', 'o', 's', '\x7d', '"', ']']

def shortenedTemplates : List String := ["mv  $\x7b2:pos\x7d"]

/-- A typed placeholder is a reference to a variable that there is not. -/
theorem interpolated_typedText :
    Json.IsDocument 1 (interpolated [] [] typedText) (Json.ofTexts shortenedTemplates) := by
  have form : EnvironmentFile.IsReference ['$', '\x7b', '1', '%', 'M', 'O', 'T', '\x7d']
      ['1', '%', 'M', 'O', 'T'] none :=
    @EnvironmentFile.IsReference.bare ['1', '%', 'M', 'O', 'T'] (by decide) (by decide)
  have parts : typedText = ['[', '"', 'm', 'v', ' '] ++
      (['$', '\x7b', '1', '%', 'M', 'O', 'T', '\x7d'] ++
        [' ', '$', '\x7b', '2', ':', 'p', 'o', 's', '\x7d', '"', ']']) := rfl
  have front : ∀ c ∈ ['[', '"', 'm', 'v', ' '], ∀ tail,
      reference (resolve [] (variablesOf [] [])) (c :: tail) = none := by
    simp [reference, Text.stripOpening?]
  have behind :
      ¬∃ name, Refers [' ', '$', '\x7b', '2', ':', 'p', 'o', 's', '\x7d', '"', ']'] name := by
    decide
  rw [interpolated, parts, Text.substitute_append_of_none _ front, form.substitute_append,
    EnvironmentFile.substitute_reference_eq_self (not_exists.mp behind)]
  exact Json.isDocument_write shortenedTemplates

theorem typed_placeholder_lost :
    build (.inEnvironment [] typedText) =
        .ok (withTemplates (.texts (typedTemplates.map .text)) standard) ∧
      build (.withFile [] (assignment templatesVariable.toList typedText ++ ['\n'])) =
        .ok (withTemplates (.texts (shortenedTemplates.map .text)) standard) ∧
      shortenedTemplates ≠ typedTemplates := by
  have written : Json.IsDocument 1 typedText (Json.ofTexts typedTemplates) :=
    Json.isDocument_write typedTemplates
  refine ⟨?_, ?_, by decide⟩
  · rw [build_inEnvironment written undefined_nil, build_environmentOnly_nil]
    rfl
  · have literal := EnvironmentFile.isLiteral_of_spells written.spells (by decide)
    rw [build_of_assignment undefined_nil literal (by decide) (by decide)
      interpolated_typedText, build_environmentOnly_nil]
    rfl

end SpecLexicon.Settings
