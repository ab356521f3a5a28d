import SpecLexicon.CommandLine.Option
import SpecLexicon.Registry.Load
import SpecLexicon.Registry.Query
import SpecLexicon.Settings.Sources
import SpecLexicon.Text.ControlSequence

/-!
# The command line program

Three commands show what a registry holds: the kinds, the manual of a source, and the snippets. The
options of a command take the place of the configured lists and of the configured database.
-/

set_option autoImplicit false

namespace SpecLexicon.CommandLine

/-- Something that is shown on the console. -/
inductive Display where
  | text (content : LooseText) (style : Option String)
  | table (title : String) (columns : List String) (rows : List (List String))
  | markdown (content : String)
deriving DecidableEq, Repr

/-- What a run of the program leaves: its exit code, its outputs, and what it shows. -/
structure Report where
  exitCode : Nat
  output : String
  errors : String
  console : List Display
deriving DecidableEq, Repr

/-- Why a run ends without a report. -/
inductive Breakdown where
  | settings (failure : Settings.Failure)
  | registry (fault : Registry.Fault)
  | unprintable (fault : Text.Utf8.EncodeFault)

def programName : String := "spec-command"

def overview : String :=
  "Usage: spec-command [OPTIONS] COMMAND [ARGS]...\n" ++
    "\n" ++
    "  Inspect spec reference symbols and snippets.\n" ++
    "\n" ++
    "Options:\n" ++
    "  -v, --verbose  Enable debug logging\n" ++
    "  --help         Show this message and exit.\n" ++
    "\n" ++
    "Commands:\n" ++
    "  kinds     List reference item kinds and their LSP mappings.\n" ++
    "  manual    Print the reference manual of a source as Markdown.\n" ++
    "  snippets  List compiled snippets for the given mnemonics.\n"

def refusal (command : Option String) (fault : Fault) : Report :=
  let (path, form) := match command with
    | none => (programName, " [OPTIONS] COMMAND [ARGS]...\n")
    | some name => (programName ++ " " ++ name, " [OPTIONS]\n")
  let usage := "Usage: " ++ path ++ form ++ "Try '" ++ path ++ " --help' for help.\n\n"
  { exitCode := 2
    output := ""
    errors := (if fault.showsUsage then usage else "") ++
      Text.withoutControlSequences ("Error: " ++ fault.message ++ "\n")
    console := [] }

def helpOption : OptionSpec := ⟨"--help", none, false⟩

def programOptions : List OptionSpec := [⟨"--verbose", some 'v', false⟩, helpOption]

/-- The options that replace the configured lists. -/
def listOptions : List OptionSpec :=
  [⟨"--motor", none, true⟩, ⟨"--counter", none, true⟩, ⟨"--template", none, true⟩, helpOption]

def manualOptions : List OptionSpec :=
  [⟨"--source", none, true⟩, ⟨"--kind", none, true⟩, ⟨"--database", none, true⟩,
    ⟨"--render", none, false⟩] ++ listOptions

/-- A list of values in the place of a configured one; an empty list replaces nothing. -/
def override (given : List String) (configured : Lines) : Lines :=
  if given = [] then configured else .texts (given.map .text)

def overrideSettings (parsed : Parsed) (settings : Settings) : Settings :=
  { settings with
    motors := override (parsed.values "--motor") settings.motors
    counters := override (parsed.values "--counter") settings.counters
    templates := override (parsed.values "--template") settings.templates
    database := match filled? (parsed.value? "--database") with
      | some text => .file (.ofText text)
      | none => settings.database }

def journalText (least : Level) (records : List Record) : String :=
  String.join ((records.filter fun record => least.rank ≤ record.level.rank).map fun record =>
    record.line ++ "\n")

def recordsOf (events : List Event) : List Record :=
  events.filterMap fun
    | .recorded record => some record
    | _ => none

/-- The settings that a command works with, and what reading them reported. -/
structure Configured where
  settings : Settings
  journal : List Record

def errorDisplay (text : LooseText) : Display :=
  .text ("[red]Error: " ++ text ++ "[/red]") none

def kindsTable : Display :=
  .table "Reference Item Kinds" ["Kind", "Label", "Icon", "Completion Kind", "Symbol Kind"]
    (Kind.listed.map fun kind =>
      [kind.name?.getD "", kind.label?.getD "", kind.icon?.getD "",
        (kind.completion?.map CompletionKind.name).getD "-", kind.symbol.name])

def snippetsDisplay (items : ItemMap) : Display :=
  if items.isEmpty then .text "No snippets." (some "yellow")
  else
    .table "Snippets" ["Key", "Signature", "Body", "Description"]
      (items.toList.map fun (key, item) =>
        [key, item.signature, item.snippet.getD "", item.description.getD ""])

def runKinds : Report := ⟨0, "", "", [kindsTable]⟩

def runSnippets (least : Level) (configured : Configured) : Except Breakdown Report := do
  let registry ← (Registry.createChecked configured.settings none).mapError .registry
  let items := (registry.store.map? Source.snippet .snippet).getD .empty
  pure ⟨0, "", journalText least (configured.journal ++ recordsOf registry.events),
    [snippetsDisplay items]⟩

/-- The report that shows a manual. Only the manual of the database needs the database. -/
def manualReport (read : FileReader) (least : Level) (parsed : Parsed) (source uri : String)
    (configured : Configured) : Except Breakdown Report := do
  let created ← (Registry.createChecked configured.settings none).mapError .registry
  let (loaded, registry) :=
    if uri = Source.builtIn then
      ((Registry.loadDatabase read none).map fun _ => ()).run.run created
    else (.ok (), created)
  let errors := journalText least (configured.journal ++ recordsOf registry.events)
  match loaded with
  | .error (.malformed failure) => pure ⟨1, "", errors, [errorDisplay failure.message]⟩
  | .error fault => .error (.registry fault)
  | .ok () =>
    let selected ← (Uri.withQuery uri (parsed.value? "--kind")).mapError fun fault =>
      .registry (.badUri fault)
    let text? ← (registry.documentText selected false).mapError .registry
    match text? with
    | none => pure ⟨1, "", errors, [errorDisplay ("Source '" ++ source ++ "' is not available")]⟩
    | some text =>
      if parsed.has "--render" then pure ⟨0, "", errors, [.markdown text]⟩
      else pure ⟨0, Text.withoutControlSequences text, errors, []⟩

/-- The command that shows a manual. It breaks down if the settings leave half of a surrogate pair
in what is printed. -/
def runManual (read : FileReader) (least : Level) (parsed : Parsed) (source uri : String)
    (configured : Configured) : Except Breakdown Report := do
  let { settings, journal } := configured
  let report ← manualReport read least parsed source uri configured
  if settings.isText then pure report
  else
    let printed (plane : Nat) : Except Breakdown String :=
      let filled : Configured := ⟨settings.inPlane plane, journal⟩
      (manualReport read least parsed source uri filled).map Report.output
    match Text.Utf8.encodeFault? (.ofReadings (← printed 15) (← printed 16)) with
    | some fault => .error (.unprintable fault)
    | none => pure report

/-- The words behind a command: its options and nothing else. -/
def parseCommand (specs : List OptionSpec) (words : List String)
    (check : Parsed → Except Fault Unit) : Except Fault Parsed := do
  let parsed ← parseWords specs true words
  if parsed.has "--help" then pure parsed
  else
    check parsed
    if parsed.arguments ≠ [] then throw (.extraArguments parsed.arguments)
    pure parsed

def checkSource (parsed : Parsed) : Except Fault Unit :=
  match parsed.value? "--source" with
  | none => .ok ()
  | some name =>
    if Source.commandLineNames.contains name then .ok ()
    else .error (.badChoice "--source" name Source.commandLineNames)

def helpReport : Report := ⟨0, "", "", []⟩

def runParsed (command : String) (specs : List OptionSpec) (words : List String)
    (check : Parsed → Except Fault Unit) (run : Parsed → Except Breakdown Report) :
    Except Breakdown Report :=
  match parseCommand specs words check with
  | .error fault => .ok (refusal (some command) fault)
  | .ok parsed => if parsed.has "--help" then .ok helpReport else run parsed

def commandNames : List String := ["kinds", "manual", "snippets"]

/-- Run a command. A word in the place of a command that looks like an option is read as one. -/
def runCommand (sources : Settings.Sources) (read : FileReader) (least : Level)
    (command : String) (words : List String) : Except Breakdown Report :=
  let configured (parsed : Parsed) : Except Breakdown Configured :=
    ((Settings.build sources).map fun settings =>
      ⟨overrideSettings parsed settings, sources.journal⟩).mapError .settings
  if command = "kinds" then
    runParsed command [helpOption] words (fun _ => .ok ()) fun _ => .ok runKinds
  else if command = "snippets" then
    runParsed command listOptions words (fun _ => .ok ()) fun parsed =>
      (configured parsed).bind (runSnippets least)
  else if command = "manual" then
    runParsed command manualOptions words checkSource fun parsed => do
      let found ← configured parsed
      let source := (parsed.value? "--source").getD "built-in"
      runManual read least parsed source ((OrderedMap.ofList Source.named).get? source |>.getD "")
        found
  else match parseWords programOptions false (command :: words) with
    | .error fault => .ok (refusal none fault)
    | .ok parsed =>
      if parsed.has "--help" then .ok helpReport
      else .ok (refusal none (.unknownCommand command (Text.similarWords commandNames command)))

def run (sources : Settings.Sources) (read : FileReader) (words : List String) :
    Except Breakdown Report :=
  if words = [] then .ok ⟨2, "", overview, []⟩
  else match parseWords programOptions false words with
    | .error fault => .ok (refusal none fault)
    | .ok parsed =>
      if parsed.has "--help" then .ok helpReport
      else match parsed.arguments with
        | [] => .ok (refusal none .missingCommand)
        | command :: rest =>
          let least := if parsed.has "--verbose" then .debug else .warning
          runCommand sources read least command rest

/-- The file that a run of the program may read its database from. -/
def databaseFile? (sources : Settings.Sources) (words : List String) : Option Path :=
  match parseWords programOptions false words with
  | .ok ⟨_, _ :: rest⟩ =>
    match parseWords manualOptions true rest, Settings.build sources with
    | .ok parsed, .ok settings =>
      match (overrideSettings parsed settings).database with
      | .file path => some path
      | .bundled => none
    | _, _ => none
  | _ => none

def Display.plain : Display → String
  | .text content _ => content.escaped ++ "\n"
  | .table title columns rows =>
    title ++ "\n" ++ String.join ((columns :: rows).map fun row => "  ".intercalate row ++ "\n")
  | .markdown content => content

end SpecLexicon.CommandLine
