import SpecLexicon.Database.Document
import SpecLexicon.Settings.Value

/-!
# Settings

What the user configures: the lines for motors, counters and templates, how the manual is shown,
where the database lies, and how long to wait for it. All but the waiting times belong to a section
of the configuration, by which changes are announced.
-/

set_option autoImplicit false

namespace SpecLexicon

/-- The configuration. -/
structure Settings where
  motors : Lines
  counters : Lines
  templates : Lines
  preview : Switch
  database : Location
  attempts : Count
  interval : Delay
deriving Repr

namespace Settings

/-- The configuration of a user who configures nothing. -/
def standard : Settings where
  motors := .texts []
  counters := .texts []
  templates := .texts []
  preview := .state true
  database := .bundled
  attempts := .number 5
  interval := .exact (.ofDecimal false 5 (-2))

instance : Inhabited Settings := ⟨standard⟩

def isText (settings : Settings) : Bool :=
  settings.motors.readable.all LooseText.isText &&
    settings.counters.readable.all LooseText.isText &&
    settings.templates.readable.all LooseText.isText

/-- The configuration with characters of a plane in the place of the halves. -/
def inPlane (plane : Nat) (settings : Settings) : Settings :=
  let fill (lines : Lines) : Lines :=
    .texts (lines.readable.map fun line => .text (line.inPlane plane))
  { settings with
    motors := fill settings.motors
    counters := fill settings.counters
    templates := fill settings.templates }

/-- The fields of the configuration. -/
inductive Field where
  | motors
  | counters
  | templates
  | preview
  | database
  | attempts
  | interval
deriving DecidableEq, Repr

namespace Field

def all : List Field :=
  [motors, counters, templates, preview, database, attempts, interval]

def name : Field → String
  | motors => "mnemonic_motors"
  | counters => "mnemonic_counters"
  | templates => "editor_code_snippets"
  | preview => "show_reference_manual_in_preview"
  | database => "api_reference_path"
  | attempts => "reference_wait_attempts"
  | interval => "reference_wait_interval_seconds"

/-- The configuration section of a field. The waiting times have none. -/
def configSection? : Field → Option String
  | motors => some "spec-command.mnemonic.motors"
  | counters => some "spec-command.mnemonic.counters"
  | templates => some "spec-command.editor.codeSnippets"
  | preview => some "spec-command.showReferenceManualInPreview"
  | database => some "spec-command.apiReferencePath"
  | attempts => none
  | interval => none

def isList : Field → Bool
  | motors => true
  | counters => true
  | templates => true
  | preview => false
  | database => false
  | attempts => false
  | interval => false

def differs (left right : Settings) : Field → Bool
  | motors => !left.motors.agrees right.motors
  | counters => !left.counters.agrees right.counters
  | templates => !left.templates.agrees right.templates
  | preview => !left.preview.toJson.alike right.preview.toJson
  | database => left.database != right.database
  | attempts => !left.attempts.toJson.alike right.attempts.toJson
  | interval => !left.interval.toJson.alike right.interval.toJson

end Field

/-- The sections of the configuration with the names of their fields, in order. -/
def configSections : List (String × String) :=
  Field.all.filterMap fun field => field.configSection?.map fun shown => (field.name, shown)

end Settings

end SpecLexicon
