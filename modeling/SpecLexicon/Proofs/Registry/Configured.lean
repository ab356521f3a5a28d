import SpecLexicon.Proofs.Registry.Contents
import SpecLexicon.Proofs.Registry.DatabaseLoad
import SpecLexicon.Proofs.Settings.Precedence
import SpecLexicon.Proofs.Settings.Templates

/-!
# What a registry takes from its configuration

Motors, counters and the database come from one field each, the snippets from the templates, the
motors and the counters. Configurations that agree on the fields of a source give it the same
symbols. One field is not enough for the snippets: they may differ although the motors are the same.
-/

set_option autoImplicit false

namespace SpecLexicon

theorem Store.HoldsOnly.get?_eq {left right : Store} {uri : String} {kind : Kind} {items : ItemMap}
    (leftHolds : left.HoldsOnly uri kind items) (rightHolds : right.HoldsOnly uri kind items) :
    left.get? uri = right.get? uri := by
  obtain ⟨partition, stored, whole⟩ := leftHolds
  obtain ⟨other, otherStored, otherWhole⟩ := rightHolds
  have same : partition = other := OrderedMap.ext (whole.trans otherWhole.symm)
  rw [stored, otherStored, same]

namespace Registry

open Settings

/-- The sources of the system, each with the fields that it is built from. -/
def builtFrom : List (String × List Field) :=
  [(Source.motor, [.motors]), (Source.counter, [.counters]),
    (Source.snippet, [.templates, .motors, .counters]), (Source.builtIn, [.database])]

/-!
## New registries
-/

section Create

variable {settings other : Settings} (window otherWindow : Option Window)

theorem settings_create (proper : settings.IsProper) :
    (create settings window).settings = settings :=
  (settled_create proper window).same

theorem holdsOnly_mnemonics_create (proper : settings.IsProper) {uri : String}
    (member : uri ∈ mnemonicSources) :
    (create settings window).store.HoldsOnly uri .member (settings.symbols uri) := by
  have initial : initialStore.kinds? uri = some [.member] ∧ uri ≠ Source.builtIn ∧
      uri ≠ Source.activeDocument := by
    revert uri
    decide
  obtain ⟨kinds, database, document⟩ := initial
  obtain ⟨items, only, found⟩ :=
    (layout_create settings window).exists_holdsOnly kinds database document
  obtain rfl := Option.some.inj
    (found.symm.trans ((settled_create proper window).holds.mnemonics uri member))
  exact only

theorem holdsOnly_snippets_create (proper : settings.IsProper) :
    (create settings window).store.HoldsOnly Source.snippet .snippet
      ((create settings window).compileSnippets .empty).items := by
  obtain ⟨items, only, found⟩ := (layout_create settings window).exists_holdsOnly
    (show initialStore.kinds? Source.snippet = some [.snippet] by decide) (by decide) (by decide)
  obtain rfl := Option.some.inj (found.symm.trans (settled_create proper window).current)
  exact only

theorem names_create (proper : settings.IsProper) {uri : String} (member : uri ∈ mnemonicSources) :
    (create settings window).store.names uri .member = (settings.symbols uri).keys := by
  rw [Store.names, (settled_create proper window).holds.mnemonics uri member]

/-- The symbol of the last template of the settings. -/
theorem item?_snippet_create (proper : settings.IsProper) {lines : List LooseText}
    {line : LooseText} {template : Template} (last : templateLines settings = lines ++ [line])
    (parsed : Template.parse? line.plain = some template) :
    (create settings window).store.item? Source.snippet .snippet template.name =
      some (template.item (settings.symbols Source.motor).keys
        (settings.symbols Source.counter).keys) := by
  have current := (settled_create proper window).current
  rw [SnippetsCurrent, compileSnippets, settings_create window proper, last,
    names_create window proper (by decide), names_create window proper (by decide)] at current
  rw [Store.item?, current, Option.bind_some, Template.get?_rebuild_append lines parsed]

/-- A new registry has no database. -/
theorem get?_builtIn_create : (create settings window).store.get? Source.builtIn = none := by
  have kinds : (create settings window).kindsOf = (bare settings window).kindsOf := by
    rw [create, isSteady_kindsOf.updateMnemonics, isSteady_kindsOf.updateMnemonics]
  exact Option.map_eq_none_iff.mp (congrFun kinds Source.builtIn)

/-- Settings with the same motors have the same symbols for them, and so do counters. -/
theorem get?_mnemonics_create_eq (proper : settings.IsProper) (otherProper : other.IsProper)
    {uri : String} (member : uri ∈ mnemonicSources) (same : settings.linesOf uri = other.linesOf uri) :
    (create settings window).store.get? uri = (create other otherWindow).store.get? uri := by
  have symbols : settings.symbols uri = other.symbols uri := by
    rw [Settings.symbols, same, Settings.symbols]
  have holds := holdsOnly_mnemonics_create window proper member
  rw [symbols] at holds
  exact holds.get?_eq (holdsOnly_mnemonics_create otherWindow otherProper member)

theorem get?_snippets_create_eq (proper : settings.IsProper) (otherProper : other.IsProper)
    (templates : settings.templates = other.templates) (motors : settings.motors = other.motors)
    (counters : settings.counters = other.counters) :
    (create settings window).store.get? Source.snippet =
      (create other otherWindow).store.get? Source.snippet := by
  have mnemonics : ∀ uri ∈ mnemonicSources, (create settings window).store.map? uri .member =
      (create other otherWindow).store.map? uri .member := by
    intro uri member
    have lines : settings.linesOf uri = other.linesOf uri := by
      rw [Settings.linesOf, Settings.linesOf, motors, counters]
    rw [Store.map?, Store.map?,
      get?_mnemonics_create_eq window otherWindow proper otherProper member lines]
  have compiled : (create settings window).compileSnippets .empty =
      (create other otherWindow).compileSnippets .empty := by
    refine compileSnippets_congr ?_ (mnemonics _ (by decide)) (mnemonics _ (by decide))
    rw [settings_create window proper, settings_create otherWindow otherProper, templates]
  have holds := holdsOnly_snippets_create window proper
  rw [compiled] at holds
  exact holds.get?_eq (holdsOnly_snippets_create otherWindow otherProper)

/-- What a source holds at first depends on nothing but its fields. -/
theorem get?_create_eq (proper : settings.IsProper) (otherProper : other.IsProper)
    {source : String × List Field} (listed : source ∈ builtFrom)
    (same : ∀ field ∈ source.2, settings.get field = other.get field) :
    (create settings window).store.get? source.1 =
      (create other otherWindow).store.get? source.1 := by
  simp only [builtFrom, List.mem_cons, List.not_mem_nil, or_false] at listed
  rcases listed with rfl | rfl | rfl | rfl
  · exact get?_mnemonics_create_eq window otherWindow proper otherProper (by decide)
      (same .motors (by decide))
  · exact get?_mnemonics_create_eq window otherWindow proper otherProper (by decide)
      (same .counters (by decide))
  · exact get?_snippets_create_eq window otherWindow proper otherProper
      (same .templates (by decide)) (same .motors (by decide)) (same .counters (by decide))
  · rw [get?_builtIn_create, get?_builtIn_create]

end Create

/-!
## Loading the database
-/

section Load

variable {settings : Settings} {symbols : String → ItemMap} {registry : Registry}
  (settled : Settled settings symbols registry) (read : FileReader)

include settled

/-- A load puts the database of the settings in its place and touches nothing else. -/
theorem Settled.get?_load (uri : String) :
    ((Operation.load read none).after registry).store.get? uri =
      if uri = Source.builtIn then
        (Database.fetch read settings.database).toOption.or (registry.store.get? uri)
      else registry.store.get? uri := by
  have location : registry.locationOf none = settings.database :=
    congrArg Settings.database settled.same
  rw [after_load, after_endLoad, location]
  cases Database.fetch read settings.database with
  | error reason => exact (ite_self _).symm
  | ok partition =>
    have installed := settled.installed settings.database partition
    by_cases database : uri = Source.builtIn
    · rw [if_pos database, database]
      exact installed.builtIn
    · rw [if_neg database]
      exact installed.others uri database

end Load

theorem get?_load_create_eq {settings other : Settings} (window otherWindow : Option Window)
    (proper : settings.IsProper) (otherProper : other.IsProper) (read : FileReader)
    {source : String × List Field} (listed : source ∈ builtFrom)
    (same : ∀ field ∈ source.2, settings.get field = other.get field) :
    ((Operation.load read none).after (create settings window)).store.get? source.1 =
      ((Operation.load read none).after (create other otherWindow)).store.get? source.1 := by
  rw [(settled_create proper window).get?_load read,
    (settled_create otherProper otherWindow).get?_load read,
    get?_create_eq window otherWindow proper otherProper listed same]
  by_cases database : source.1 = Source.builtIn
  · have field : ∀ source ∈ builtFrom, source.1 = Source.builtIn → .database ∈ source.2 := by decide
    have location : settings.database = other.database :=
      same .database (field source listed database)
    rw [if_pos database, if_pos database, location]
  · rw [if_neg database, if_neg database]

/-!
## From sources to symbols
-/

/-- Every field is decoded from the first source that supplies it. So configurations that agree on a
field give it the same value, and where they agree on all fields that a source is built from, its
symbols are the same, before and after the database is loaded. -/
theorem fields_and_symbols_of_sources {left right : Sources} {settings other : Settings}
    (leftPlain : left.IsPlain) (rightPlain : right.IsPlain)
    (leftBuilt : build left = .ok settings) (rightBuilt : build right = .ok other) :
    (∀ field, settings.Decodes (left.supplied? field) field ∧
      other.Decodes (right.supplied? field) field) ∧
    (∀ field, AgreeOn field left right → settings.get field = other.get field) ∧
    ((∀ field, AgreeOn field left right) → settings = other) ∧
    ∀ window otherWindow registry otherRegistry,
      createChecked settings window = .ok registry →
      createChecked other otherWindow = .ok otherRegistry →
      ∀ source ∈ builtFrom, (∀ field ∈ source.2, AgreeOn field left right) →
        registry.store.get? source.1 = otherRegistry.store.get? source.1 ∧
          ∀ read, ((Operation.load read none).after registry).store.get? source.1 =
            ((Operation.load read none).after otherRegistry).store.get? source.1 := by
  have agreeing (field : Field) (agree : AgreeOn field left right) :
      settings.get field = other.get field :=
    get_eq_of_agreeOn leftPlain rightPlain leftBuilt rightBuilt agree
  refine ⟨fun field => ⟨decodes_of_build leftPlain leftBuilt field,
    decodes_of_build rightPlain rightBuilt field⟩, agreeing, fun agree => ?equal, ?symbols⟩
  case equal => exact ext_get fun field => agreeing field (agree field)
  case symbols =>
    intro window otherWindow registry otherRegistry created otherCreated source listed agree
    obtain rfl := eq_create_of_createChecked created
    obtain rfl := eq_create_of_createChecked otherCreated
    have proper := isProper_of_build leftBuilt
    have otherProper := isProper_of_build rightBuilt
    have same : ∀ field ∈ source.2, settings.get field = other.get field :=
      fun field member => agreeing field (agree field member)
    exact ⟨get?_create_eq window otherWindow proper otherProper listed same,
      fun read => get?_load_create_eq window otherWindow proper otherProper read listed same⟩

/-! ### An overridden field -/

def locationEntry : String × Json := ("api_reference_path", .string (.text "given"))

def countersEntry : String × Json := ("mnemonic_counters", .list [.string (.text "mon")])

def locationVariable : String := "SPEC_COMMAND_API_REFERENCE_PATH"

def bindingText : List Char := ['f', 'i', 'l', 'e']

def locationLine : List Char :=
  EnvironmentFile.assignment locationVariable.toList bindingText ++ ['\n']

/-- All three sources have a location of the database. -/
def overridingSources : Sources :=
  ⟨[locationEntry], [(locationVariable, "environment")],
    some (String.ofList locationLine).toUTF8⟩

/-- The same location is given, and counters. -/
def givenSources : Sources := ⟨[locationEntry, countersEntry], [], none⟩

def locatedSettings : Settings := { Settings.standard with database := .file (.ofText "given") }

def countingSettings : Settings := { locatedSettings with counters := .texts [.text "mon"] }

theorem bindings_locationLine :
    EnvironmentFile.bindings locationLine = [(locationVariable.toList, some bindingText)] := by
  have word : Text.leadingWord? locationVariable.toList = some (locationVariable.toList, []) := by
    decide
  have literal : EnvironmentFile.IsLiteral bindingText := .of_plain (by simp [bindingText])
  exact EnvironmentFile.bindings_assignment (Text.isWord_of_leadingWord? word) literal (by decide)
    (by decide)

theorem fileText_overridingSources : overridingSources.fileText = .ok locationLine := by
  rw [Sources.fileText, overridingSources]
  simp only [Text.Utf8.decode_toUTF8, String.toList_ofList]

theorem isPlain_overridingSources : overridingSources.IsPlain := by
  intro text decoded
  obtain rfl := Except.ok.inj (fileText_overridingSources.symm.trans decoded)
  rw [bindings_locationLine]
  decide

theorem isPlain_of_no_file {sources : Sources} (missing : sources.file = none) :
    sources.IsPlain := by
  intro text decoded
  rw [Sources.fileText, missing] at decoded
  obtain rfl := Except.ok.inj decoded
  rw [EnvironmentFile.bindings_nil]
  exact fun binding listed => absurd listed List.not_mem_nil

theorem build_overridingSources : build overridingSources = .ok locatedSettings := by
  have table : overridingSources.fileVariables locationLine =
      .ofList [("spec_command_api_reference_path", some "file")] := by
    rw [Sources.fileVariables, EnvironmentFile.evaluate_of_plain
      (isPlain_overridingSources _ fileText_overridingSources), EnvironmentFile.entries,
      bindings_locationLine]
    decide +kernel
  simp only [build, mapError_fileText fileText_overridingSources, bind, Except.bind, table]
  rfl

theorem build_givenSources : build givenSources = .ok countingSettings :=
  (build_of_values _).trans rfl

theorem agreeOn_database : AgreeOn .database overridingSources givenSources :=
  ⟨rfl, fun absent => absurd absent (Option.some_ne_none locationEntry.2)⟩

/-- The given location counts, whatever the environment and the file say. -/
theorem builtIn_of_overridingSources :
    AgreeOn .database overridingSources givenSources ∧
      build overridingSources = .ok locatedSettings ∧ build givenSources = .ok countingSettings ∧
      locatedSettings.get .database = countingSettings.get .database ∧
      ∀ read, ((Operation.load read none).after (create locatedSettings none)).store.get?
          Source.builtIn =
        ((Operation.load read none).after (create countingSettings none)).store.get?
          Source.builtIn := by
  obtain ⟨_, fields, _, symbols⟩ := fields_and_symbols_of_sources isPlain_overridingSources
    (isPlain_of_no_file rfl) build_overridingSources build_givenSources
  have builtIn : (Source.builtIn, [Field.database]) ∈ builtFrom := by decide
  have loaded := symbols none none _ _ rfl rfl _ builtIn
    (List.forall_mem_singleton.mpr agreeOn_database)
  exact ⟨agreeOn_database, build_overridingSources, build_givenSources,
    fields .database agreeOn_database, loaded.2⟩

/-! ### A second field -/

def goTemplate : String := "go %MOT %CNT"

/-- A program gives one template, motors and counters. -/
def goSources (motors counters : List String) : Sources :=
  ⟨[(Field.templates.name, .ofTexts [goTemplate]), (Field.motors.name, .ofTexts motors),
    (Field.counters.name, .ofTexts counters)], [], none⟩

def goSettings (motors counters : List String) : Settings :=
  { Settings.standard with
    motors := .texts (motors.map .text)
    counters := .texts (counters.map .text)
    templates := .texts [.text goTemplate] }

section Go

variable (motors counters : List String)

theorem build_goSources : build (goSources motors counters) = .ok (goSettings motors counters) := by
  have given : (goSources motors counters).given =
      ((OrderedMap.empty.insertIfNew Field.templates.name (.ofTexts [goTemplate])).insertIfNew
        Field.motors.name (.ofTexts motors)).insertIfNew Field.counters.name (.ofTexts counters) := by
    simp only [Sources.given, goSources, List.foldl_cons, List.foldl_nil, addGiven_name]
  have known : (goSources motors counters).unknownNames .empty = [] := by
    rw [Sources.unknownNames, given]
    rfl
  have lines (field : Field) (texts : List String) :
      (checkedLines (.ofTexts texts)).within (.key field.name) =
        .valid (.texts (texts.map .text)) :=
    Schema.Checked.within_eq_valid_iff.mpr (checkedLines_eq_valid_iff.mpr rfl)
  have accepted : checkFields (fun field => (goSources motors counters).given.get? field.name) =
      .valid (goSettings motors counters) := by
    rw [checkFields_eq_valid_iff, given]
    intro field
    cases field with
    | motors => exact lines .motors motors
    | counters => exact lines .counters counters
    | templates => exact lines .templates [goTemplate]
    | preview | database | attempts | interval => rfl
  rw [goSources] at accepted known ⊢
  rw [build_of_values, accepted, known]
  rfl

theorem isProper_goSettings : (goSettings motors counters).IsProper :=
  ⟨⟨_, rfl⟩, ⟨_, rfl⟩, ⟨_, rfl⟩⟩

theorem templateLines_goSettings : templateLines (goSettings motors counters) =
    Template.builtIn.map .text ++ [.text goTemplate] := by
  simp [templateLines, goSettings]

theorem createChecked_goSettings (window : Option Window) :
    createChecked (goSettings motors counters) window =
      .ok (create (goSettings motors counters) window) := by
  simp [createChecked, creationFault?, templateFault?, goSettings]

/-- The symbol that the template has in a new registry, if it has one. -/
def goItem? : Option Item :=
  (Template.parse? goTemplate).map fun template => template.item
    ((goSettings motors counters).symbols Source.motor).keys
    ((goSettings motors counters).symbols Source.counter).keys

variable {motors counters}

theorem get?_snippet_goSettings_ne {otherMotors otherCounters : List String}
    (different : goItem? motors counters ≠ goItem? otherMotors otherCounters) :
    (create (goSettings motors counters) none).store.get? Source.snippet ≠
      (create (goSettings otherMotors otherCounters) none).store.get? Source.snippet := by
  intro same
  rw [goItem?, goItem?] at different
  cases parsed : Template.parse? goTemplate with
  | none => exact different (by rw [parsed, Option.map_none, Option.map_none])
  | some template =>
    have left := item?_snippet_create none (isProper_goSettings motors counters)
      (templateLines_goSettings motors counters) parsed
    have right := item?_snippet_create none (isProper_goSettings otherMotors otherCounters)
      (templateLines_goSettings otherMotors otherCounters) parsed
    rw [Store.item?, Store.map?, same, ← Store.map?, ← Store.item?, right] at left
    rw [parsed, Option.map_some, Option.map_some] at different
    exact different left.symm

end Go

/-- The snippets depend on the motors, but are not the same for the same motors: configurations that
differ only in the entry for counters have other snippets. -/
theorem snippets_differ_for_same_motors :
    build (goSources ["th"] []) = .ok (goSettings ["th"] []) ∧
      build (goSources ["th"] ["mon"]) = .ok (goSettings ["th"] ["mon"]) ∧
      (∀ field, field ≠ .counters →
        AgreeOn field (goSources ["th"] []) (goSources ["th"] ["mon"])) ∧
      createChecked (goSettings ["th"] []) none = .ok (create (goSettings ["th"] []) none) ∧
      createChecked (goSettings ["th"] ["mon"]) none =
        .ok (create (goSettings ["th"] ["mon"]) none) ∧
      (create (goSettings [] []) none).store.get? Source.snippet ≠
        (create (goSettings ["th"] []) none).store.get? Source.snippet ∧
      (create (goSettings ["th"] []) none).store.get? Source.snippet ≠
        (create (goSettings ["th"] ["mon"]) none).store.get? Source.snippet := by
  refine ⟨build_goSources _ _, build_goSources _ _, fun field different => ?_,
    createChecked_goSettings _ _ none, createChecked_goSettings _ _ none,
    get?_snippet_goSettings_ne (by decide +kernel), get?_snippet_goSettings_ne (by decide +kernel)⟩
  cases field with
  | counters => exact absurd rfl different
  | motors | templates | preview | database | attempts | interval =>
    exact ⟨rfl, fun _ => ⟨rfl, fun _ => rfl⟩⟩

end Registry

end SpecLexicon
