import SpecLexicon.CommandLine.Program
import SpecLexicon.Proofs.Registry.DatabaseLoad
import SpecLexicon.Proofs.Registry.Layout
import SpecLexicon.Proofs.Settings.Fields

/-!
# The manual command

A run of the manual command that succeeds shows the sections that are selected by what a URI leaves
of the given kind, and it succeeds whenever its settings can be used and its source is there. A kind
comes through unless it holds a tab, a line break or a number sign; no label does.
-/

set_option autoImplicit false

namespace SpecLexicon

theorem Lines.IsProper.override {lines : Lines} (proper : lines.IsProper) (given : List String) :
    (CommandLine.override given lines).IsProper := by
  rw [CommandLine.override]
  split
  · exact proper
  · exact ⟨_, rfl⟩

theorem Settings.IsProper.overrideSettings {settings : Settings} (proper : settings.IsProper)
    (options : CommandLine.Parsed) : (CommandLine.overrideSettings options settings).IsProper :=
  ⟨proper.motors.override _, proper.counters.override _, proper.templates.override _⟩

namespace CommandLine

open Registry (Layout keptText systemSources)

def Report.Shows (report : Report) (rendered : Bool) (text : String) : Prop :=
  report.exitCode = 0 ∧
    if rendered then report.output = "" ∧ report.console = [.markdown text]
    else report.output = Text.withoutControlSequences text ∧ report.console = []

/-- The partition that the command shows: the database that is loaded, or what is built from the
settings. -/
def manualPartition? (read : FileReader) (settings : Settings) (uri : String) : Option Partition :=
  if uri = Source.builtIn then
    match Database.fetch read settings.database with
    | .ok partition => some partition
    | .error _ => none
  else (Registry.create settings none).store.get? uri

def sourceUri (options : Parsed) : String :=
  ((OrderedMap.ofList Source.named).get? ((options.value? "--source").getD "built-in")).getD ""

theorem sourceUri_mem {options : Parsed} (checked : checkSource options = .ok ()) :
    sourceUri options ∈ systemSources := by
  have every : ∀ name ∈ Source.commandLineNames,
      ((OrderedMap.ofList Source.named).get? name).getD "" ∈ systemSources := by decide
  rw [checkSource] at checked
  rw [sourceUri]
  cases named : options.value? "--source" with
  | none => exact every "built-in" (by decide)
  | some name =>
    rw [named] at checked
    dsimp only at checked
    split at checked
    · rename_i known
      exact every name (by simpa using known)
    · cases checked

section ManualReport

variable {read : FileReader} {settings : Settings} {uri : String} {partition : Partition}

def prepared (read : FileReader) (uri : String) (created : Registry) :
    Except Registry.Fault Unit × Registry :=
  if uri = Source.builtIn then
    ((Registry.loadDatabase read none).map fun _ => ()).run.run created
  else (.ok (), created)

theorem prepared_builtIn (proper : settings.IsProper) (read : FileReader) :
    prepared read Source.builtIn (Registry.create settings none) =
      match Database.fetch read settings.database with
      | .ok partition => (.ok (),
          Registry.installDatabase settings.database partition (Registry.create settings none))
      | .error reason => (.error (.ofFetchError reason), Registry.create settings none) := by
  have settled := Registry.settled_create proper none
  have location : (Registry.create settings none).locationOf none = settings.database :=
    congrArg Settings.database settled.same
  have loaded := Registry.outcome_map (Registry.loadDatabase read none) (fun _ => ())
    (Registry.create settings none)
  rw [Registry.outcome_loadDatabase, location] at loaded
  rw [prepared, if_pos rfl]
  refine loaded.trans ?_
  cases Database.fetch read settings.database with
  | ok partition => rfl
  | error reason => rfl

theorem prepared_of_available (proper : settings.IsProper)
    (available : manualPartition? read settings uri = some partition) :
    ∃ registry, prepared read uri (Registry.create settings none) = (.ok (), registry) ∧
      registry.store.get? uri = some partition := by
  rw [manualPartition?] at available
  by_cases database : uri = Source.builtIn
  · subst database
    rw [if_pos rfl] at available
    rw [prepared_builtIn proper]
    split at available
    · rename_i fetched
      cases available
      have settled := Registry.settled_create proper none
      exact ⟨_, rfl, (settled.installed settings.database partition).builtIn⟩
    · cases available
  · rw [if_neg database] at available
    exact ⟨_, if_neg database, available⟩

theorem ne_activeDocument_of_mem (system : uri ∈ systemSources) : uri ≠ Source.activeDocument := by
  rintro rfl
  revert system
  decide

theorem isListed_of_available (system : uri ∈ systemSources)
    (available : manualPartition? read settings uri = some partition) : partition.IsListed := by
  rw [manualPartition?] at available
  split at available
  · split at available
    · rename_i fetched
      cases available
      exact (Database.isDatabase_of_fetch fetched).isListed
    · cases available
  · exact (Registry.layout_create settings none).isListed available
      (ne_activeDocument_of_mem system)

theorem manualReport_shows (proper : settings.IsProper)
    (unfaulted : Registry.creationFault? settings = none) (system : uri ∈ systemSources)
    (available : manualPartition? read settings uri = some partition) (least : Level)
    (options : Parsed) (source : String) (journal : List Record) :
    ∃ report, manualReport read least options source uri ⟨settings, journal⟩ = .ok report ∧
      report.Shows (options.has "--render")
        (Manual.document ((options.value? "--kind").map keptText) partition) := by
  obtain ⟨registry, ready, stored⟩ := prepared_of_available proper available
  obtain ⟨selected, written, text⟩ :=
    Registry.documentText_withQuery system stored (options.value? "--kind")
  rw [Registry.shown_of_isListed (isListed_of_available system available)] at text
  rw [prepared] at ready
  simp only [manualReport, Registry.createChecked, unfaulted, ready, written, text, bind,
    Except.bind, mapError_ok, pure, Except.pure]
  by_cases rendered : options.has "--render" = true
  · rw [if_pos rendered]
    exact ⟨_, rfl, rfl, by rw [if_pos rendered]; exact ⟨rfl, rfl⟩⟩
  · rw [if_neg rendered]
    exact ⟨_, rfl, rfl, by rw [if_neg rendered]; exact ⟨rfl, rfl⟩⟩

theorem exists_available (system : uri ∈ systemSources) (built : uri ≠ Source.builtIn) :
    ∃ partition, manualPartition? read settings uri = some partition := by
  rw [manualPartition?, if_neg built]
  have layout := Registry.layout_create settings none
  have kinds := layout.others uri built (ne_activeDocument_of_mem system)
  have present : (Registry.initialStore.kinds? uri).isSome = true := by
    have every : ∀ uri ∈ systemSources, uri ≠ Source.builtIn →
        (Registry.initialStore.kinds? uri).isSome = true := by decide
    exact every uri system built
  rw [← kinds, Store.kinds?, Option.isSome_map] at present
  exact Option.isSome_iff_exists.mp present

theorem available_of_manualReport (proper : settings.IsProper) (system : uri ∈ systemSources)
    {least : Level} {options : Parsed} {source : String} {journal : List Record} {report : Report}
    (reported : manualReport read least options source uri ⟨settings, journal⟩ = .ok report)
    (success : report.exitCode = 0) :
    Registry.creationFault? settings = none ∧
      ∃ partition, manualPartition? read settings uri = some partition := by
  cases faulted : Registry.creationFault? settings with
  | some fault =>
    simp only [manualReport, Registry.createChecked, faulted, bind, Except.bind,
      mapError_error] at reported
    cases reported
  | none =>
    refine ⟨rfl, ?_⟩
    by_cases database : uri = Source.builtIn
    · have ready := prepared_builtIn proper read
      rw [← database] at ready
      rw [manualPartition?, if_pos database]
      cases fetched : Database.fetch read settings.database with
      | ok partition => exact ⟨partition, rfl⟩
      | error reason =>
        rw [fetched, prepared] at ready
        simp only [manualReport, Registry.createChecked, faulted, bind, Except.bind,
          mapError_ok, ready] at reported
        cases reason with
        | malformed failure =>
          cases reported
          cases success
        | unnameable fault => cases reported
    · exact exists_available system database

end ManualReport

/-!
## Runs
-/

/-- The words call the manual command with these options, and it works with these settings. -/
structure CallsManual (sources : Settings.Sources) (words : List String) (options : Parsed)
    (settings : Settings) : Prop where
  command : ∃ flags rest, parseWords programOptions false words = .ok ⟨flags, "manual" :: rest⟩ ∧
    Parsed.has ⟨flags, "manual" :: rest⟩ "--help" = false ∧
    parseCommand manualOptions rest checkSource = .ok options
  helpless : options.has "--help" = false
  settings : ∃ configured, Settings.build sources = .ok configured ∧
    settings = overrideSettings options configured

theorem checkSource_of_parseCommand {specs : List OptionSpec} {words : List String}
    {options : Parsed} (parsed : parseCommand specs words checkSource = .ok options)
    (plain : options.has "--help" = false) : checkSource options = .ok () := by
  simp only [parseCommand, bind, Except.bind] at parsed
  split at parsed
  · cases parsed
  · split at parsed
    · rename_i helps
      cases parsed
      rw [plain] at helps
      cases helps
    · split at parsed
      · cases parsed
      · rename_i checked
        split at parsed
        · cases parsed
        · cases parsed
          exact checked

namespace CallsManual

variable {sources : Settings.Sources} {words : List String} {options : Parsed} {settings : Settings}

theorem isProper (calls : CallsManual sources words options settings) : settings.IsProper := by
  obtain ⟨configured, built, rfl⟩ := calls.settings
  exact (Settings.isProper_of_build built).overrideSettings options

theorem sourceUri_mem (calls : CallsManual sources words options settings) :
    sourceUri options ∈ systemSources := by
  obtain ⟨flags, rest, _, _, parsed⟩ := calls.command
  exact CommandLine.sourceUri_mem (checkSource_of_parseCommand parsed calls.helpless)

theorem run_eq (calls : CallsManual sources words options settings) (read : FileReader) :
    ∃ least, run sources read words =
      runManual read least options ((options.value? "--source").getD "built-in")
        (sourceUri options) ⟨settings, sources.journal⟩ := by
  obtain ⟨flags, rest, split, helpless, parsed⟩ := calls.command
  obtain ⟨configured, built, rfl⟩ := calls.settings
  have filled : words ≠ [] := by
    rintro rfl
    cases split
  refine ⟨if Parsed.has ⟨flags, "manual" :: rest⟩ "--verbose" then .debug else .warning, ?_⟩
  simp only [run, if_neg filled, split, helpless, runCommand, runParsed, parsed, calls.helpless,
    built, Bool.false_eq_true, if_false, if_true, String.reduceEq, Except.map, mapError_ok,
    bind, Except.bind, sourceUri]

end CallsManual

theorem manualReport_of_runManual {read : FileReader} {least : Level} {options : Parsed}
    {source uri : String} {configured : Configured} {report : Report}
    (ran : runManual read least options source uri configured = .ok report) :
    manualReport read least options source uri configured = .ok report := by
  simp only [runManual, bind, Except.bind] at ran
  split at ran
  · cases ran
  · rename_i found reported
    rw [reported]
    split at ran
    · exact ran
    · split at ran
      · cases ran
      · split at ran
        · cases ran
        · split at ran
          · cases ran
          · exact ran

theorem CallsManual.shows {sources : Settings.Sources} {words : List String} {options : Parsed}
    {settings : Settings} (calls : CallsManual sources words options settings)
    {read : FileReader} {report : Report} (ran : run sources read words = .ok report)
    (success : report.exitCode = 0) :
    ∃ partition, manualPartition? read settings (sourceUri options) = some partition ∧
      report.Shows (options.has "--render")
        (Manual.document ((options.value? "--kind").map keptText) partition) := by
  obtain ⟨least, same⟩ := calls.run_eq read
  rw [same] at ran
  have reported := manualReport_of_runManual ran
  obtain ⟨unfaulted, partition, available⟩ :=
    available_of_manualReport calls.isProper calls.sourceUri_mem reported success
  obtain ⟨other, also_reported, shows⟩ := manualReport_shows calls.isProper unfaulted
    calls.sourceUri_mem available least options
    ((options.value? "--source").getD "built-in") sources.journal
  cases reported.symm.trans also_reported
  exact ⟨partition, available, shows⟩

theorem CallsManual.succeeds {sources : Settings.Sources} {words : List String} {options : Parsed}
    {settings : Settings} (calls : CallsManual sources words options settings)
    {read : FileReader} {partition : Partition}
    (available : manualPartition? read settings (sourceUri options) = some partition)
    (unfaulted : Registry.creationFault? settings = none) (textual : settings.isText = true) :
    ∃ report, run sources read words = .ok report ∧ report.exitCode = 0 := by
  obtain ⟨least, same⟩ := calls.run_eq read
  obtain ⟨report, reported, shows⟩ := manualReport_shows calls.isProper unfaulted
    calls.sourceUri_mem available least options
    ((options.value? "--source").getD "built-in") sources.journal
  refine ⟨report, ?_, shows.1⟩
  rw [same, runManual]
  simp only [reported, textual, bind, Except.bind, if_true]
  rfl

/-- A kind that is put on the URI of a source selects what it selects in the manual of the source
exactly if it comes through, or nothing is selected either way. So the command shows the title, the
citation and the section with that label, for every kind that comes through. -/
theorem manual_by_kind (kind : String) :
    (∀ (registry : Registry) (uri : String) (partition : Partition),
      uri ∈ systemSources → registry.store.get? uri = some partition →
        ∃ selected, Uri.withQuery uri (some kind) = .ok selected ∧
          registry.documentText selected false =
            Registry.shown partition (some (keptText kind)) ∧
          (registry.documentText selected false = Registry.shown partition (some kind) ↔
            Registry.ComesThrough kind ∨ ¬partition.IsListed ∨
              Manual.selected (some (keptText kind)) partition = [])) ∧
    (∀ (sources : Settings.Sources) (read : FileReader) (words : List String) (options : Parsed)
      (settings : Settings), CallsManual sources words options settings →
        (∀ report, run sources read words = .ok report → report.exitCode = 0 →
          ∃ partition, manualPartition? read settings (sourceUri options) = some partition ∧
            report.Shows (options.has "--render")
              (Manual.document ((options.value? "--kind").map keptText) partition) ∧
            (options.value? "--kind" = some kind → Registry.ComesThrough kind →
              report.Shows (options.has "--render") (Manual.document (some kind) partition))) ∧
        ∀ partition, manualPartition? read settings (sourceUri options) = some partition →
          Registry.creationFault? settings = none → settings.isText = true →
            ∃ report, run sources read words = .ok report ∧ report.exitCode = 0) ∧
    ∀ partition : Partition, kind ≠ "" →
      Manual.document (some kind) partition = Manual.header ++ Manual.citation ++
        String.join ((partition.toList.filter fun entry => entry.1.label? = some kind).map
          fun entry => Manual.kindSection kind entry.2) := by
  refine ⟨?_, ?_, fun partition filled => Manual.document_some filled partition⟩
  · intro registry uri partition system stored
    obtain ⟨selected, written, text⟩ := Registry.documentText_withQuery system stored (some kind)
    refine ⟨selected, written, text, ?_⟩
    rw [text]
    exact Registry.shown_keptText_eq_iff
  · intro sources read words options settings calls
    refine ⟨?_, fun partition available unfaulted textual =>
      calls.succeeds available unfaulted textual⟩
    intro report ran success
    obtain ⟨partition, available, shows⟩ := calls.shows ran success
    refine ⟨partition, available, shows, ?_⟩
    intro given through
    rwa [given, Option.map_some, Registry.keptText_eq_self_iff.mpr through] at shows

/-!
## The motors without any configuration
-/

def motorWords (kind : String) : List String :=
  ["manual", "--source", "motor", "--motor", "th # theta", "--kind", kind]

def motorOptions (kind : String) : Parsed :=
  ⟨[("--source", some "motor"), ("--motor", some "th # theta"), ("--kind", some kind)], []⟩

def motorSettings : Settings :=
  { Settings.standard with motors := .texts [.text "th # theta"] }

def motorPartition : Partition :=
  .ofList [(.member, .ofList [("th", .ofSignature "th" (some "theta") none (by decide))])]

/-- The reader where there is no file but the bundled database. -/
def emptyReader : FileReader :=
  FileTree.empty.reader Database.bundledBytes

theorem callsManual_motor (kind : String) :
    CallsManual ⟨[], [], none⟩ (motorWords kind) (motorOptions kind) motorSettings where
  command := ⟨[], _, rfl, rfl, rfl⟩
  helpless := rfl
  settings := ⟨.standard, Settings.build_nothing, rfl⟩

theorem get?_motor :
    (Registry.create motorSettings none).store.get? Source.motor = some motorPartition := rfl

theorem manualPartition?_motor (read : FileReader) (kind : String) :
    manualPartition? read motorSettings (sourceUri (motorOptions kind)) = some motorPartition :=
  get?_motor

theorem manual_of_members :
    (∃ selected, Uri.withQuery Source.motor (some "member") = .ok selected ∧
      (Registry.create motorSettings none).documentText selected false =
        Registry.shown motorPartition (some "member")) ∧
    ∃ report, run ⟨[], [], none⟩ emptyReader (motorWords "member") = .ok report ∧
      report.Shows false (Manual.document (some "member") motorPartition) := by
  have through : Registry.ComesThrough "member" :=
    Registry.comesThrough_label (show Kind.member.label? = some "member" from rfl)
  obtain ⟨filters, runs, _⟩ := manual_by_kind "member"
  obtain ⟨shows, succeeds⟩ := runs ⟨[], [], none⟩ emptyReader (motorWords "member")
    (motorOptions "member") motorSettings (callsManual_motor "member")
  constructor
  · obtain ⟨selected, written, _, same⟩ :=
      filters _ Source.motor motorPartition (by decide) get?_motor
    exact ⟨selected, written, same.mpr (.inl through)⟩
  · obtain ⟨report, ran, success⟩ := succeeds _ (manualPartition?_motor _ "member") rfl rfl
    obtain ⟨partition, available, _, shown⟩ := shows report ran success
    cases available.symm.trans (manualPartition?_motor _ "member")
    exact ⟨report, ran, shown rfl through⟩

/-- Asked for a label that no kind has, the command shows every section. -/
theorem manual_of_number_sign :
    Manual.document (some "#") motorPartition = Manual.header ++ Manual.citation ∧
      Manual.document none motorPartition ≠ Manual.header ++ Manual.citation ∧
      (∃ selected, Uri.withQuery Source.motor (some "#") = .ok selected ∧
        (Registry.create motorSettings none).documentText selected false ≠
          Registry.shown motorPartition (some "#")) ∧
      ∃ report, run ⟨[], [], none⟩ emptyReader (motorWords "#") = .ok report ∧
        report.Shows false (Manual.document none motorPartition) := by
  have selects : Manual.selected (some (keptText "#")) motorPartition ≠ [] := by decide +kernel
  have same : Manual.selected (some (keptText "#")) motorPartition =
      Manual.selected none motorPartition := Manual.selected_congr rfl motorPartition
  have lost : ¬Registry.ComesThrough "#" := by decide
  refine ⟨?_, ?_, ?_, ?_⟩
  · exact Manual.document_eq_header_iff.mpr (Registry.selected_of_not_comesThrough lost _)
  · rw [ne_eq, Manual.document_eq_header_iff, ← same]
    exact selects
  · obtain ⟨selected, written, text⟩ := Registry.documentText_withQuery
      (show Source.motor ∈ systemSources by decide) get?_motor (some "#")
    refine ⟨selected, written, ?_⟩
    have listed : motorPartition.IsListed := by
      rw [Partition.IsListed]
      decide
    rw [text]
    intro equal
    rcases Registry.shown_keptText_eq_iff.mp equal with through | unlisted | unselected
    · exact lost through
    · exact unlisted listed
    · exact selects unselected
  · have calls := callsManual_motor "#"
    obtain ⟨report, ran, success⟩ := calls.succeeds
      (manualPartition?_motor emptyReader "#") rfl rfl
    obtain ⟨partition, available, shown⟩ := calls.shows ran success
    cases available.symm.trans (manualPartition?_motor _ "#")
    rw [← Manual.document_congr same]
    exact ⟨report, ran, shown⟩

end CommandLine

end SpecLexicon
