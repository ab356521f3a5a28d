import SpecLexicon.Schema.Scalar
import SpecLexicon.Settings.Basic
import SpecLexicon.Settings.EnvironmentFile
import SpecLexicon.Text.Lowercase
import SpecLexicon.Text.Utf8

/-!
# Where settings come from

Each field takes its value from the first source that has one: the values that a program gives, the
environment, the environment file, and the standard configuration. A variable holds a list as JSON
text, in which null means that there is no value. All sources are read and all fields are checked,
and every name that belongs to no field is a defect too, except in the environment. The case of a
name does not count.
-/

set_option autoImplicit false

namespace SpecLexicon.Settings

open Schema

/-- The sources of variables. -/
inductive Origin where
  | environment
  | file
deriving DecidableEq, Repr

def Origin.name : Origin → String
  | environment => "EnvSettingsSource"
  | file => "DotEnvSettingsSource"

/-- Why there are no settings: the file is no text, the variable of a list is no JSON or nested too
deep, or values have defects. -/
inductive Failure where
  | undecodable (fault : Text.Utf8.Fault)
  | unreadable (field : Field) (origin : Origin)
  | overnested (list : Bool)
  | invalid (first : Defect) (others : List Defect)
deriving DecidableEq, Repr

def unreadableMessage (field : Field) (origin : Origin) : String :=
  "error parsing value for field \"" ++ field.name ++ "\" from source \"" ++ origin.name ++ "\""

def lowercase (text : String) : String :=
  String.ofList (Text.lowercase text.toList)

def variablePrefix : String := "spec_command_"

def Field.variable (field : Field) : String :=
  variablePrefix ++ field.name

/-- The sources of one configuration. -/
structure Sources where
  values : List (String × Json)
  environment : List (String × String)
  file : Option ByteArray

def fileName : String := ".env"

/-- The sources of a program that runs in an environment and can read files. -/
def Sources.gather (values : List (String × Json)) (environment : List (String × String))
    (read : FileReader) : Sources where
  values
  environment
  file := (read (.file (.ofText fileName))).toOption

/-- The text of the file; without a file it is empty. -/
def Sources.fileText (sources : Sources) : Except Text.Utf8.Fault (List Char) :=
  match sources.file with
  | none => .ok []
  | some bytes => Text.Utf8.decode bytes

def foldNames {α : Type} (table : List (String × α)) : OrderedMap String α :=
  .ofList (table.map fun (name, value) => (lowercase name, value))

def isFieldName (name : String) : Bool :=
  Field.all.any fun field => field.name == name

/-- Add a value that a program gives. Of several spellings of a field the first one counts. -/
def addGiven (known : OrderedMap String Json) (entry : String × Json) : OrderedMap String Json :=
  if isFieldName (lowercase entry.1) then known.insertIfNew (lowercase entry.1) entry.2
  else known.insert entry.1 entry.2

/-- The values that a program gives, by the names of the fields. -/
def Sources.given (sources : Sources) : OrderedMap String Json :=
  sources.values.foldl addGiven .empty

def Sources.environmentVariables (sources : Sources) : OrderedMap String String :=
  foldNames sources.environment

def Sources.fileVariables (sources : Sources) (text : List Char) :
    OrderedMap String (Option String) :=
  foldNames (EnvironmentFile.evaluate sources.environment text).toList

def passedOver (line : Nat) : Record :=
  ⟨.warning, .environmentFile,
    "python-dotenv could not parse statement starting at line " ++ toString line⟩

def Sources.journal (sources : Sources) : List Record :=
  match sources.fileText with
  | .error _ => []
  | .ok text => (EnvironmentFile.malformedLines text).map passedOver

def readVariable (origin : Origin) (field : Field) (text : String) : Except Failure (Option Json) :=
  if field.isList then
    match Json.decode text with
    | .error (.overnested list) => .error (.overnested list)
    | .error _ => .error (.unreadable field origin)
    | .ok .null => .ok none
    | .ok json => .ok (some json)
  else .ok (some (.string (.text text)))

def Sources.fromEnvironment (sources : Sources) (field : Field) : Except Failure (Option Json) :=
  match sources.environmentVariables.get? field.variable with
  | none => .ok none
  | some text => readVariable .environment field text

def fromFile (table : OrderedMap String (Option String)) (field : Field) :
    Except Failure (Option Json) :=
  match table.get? field.variable with
  | some (some text) => readVariable .file field text
  | _ => .ok none

def readFields (read : Field → Except Failure (Option Json)) :
    List Field → Except Failure (List (Field × Json))
  | [] => .ok []
  | field :: rest => do
    let value ← read field
    let others ← readFields read rest
    pure ((value.toList.map fun json => (field, json)) ++ others)

/-- A variable of the file that belongs to no field. The bare name of a field is passed over. -/
def isForeignVariable (name : String) : Bool :=
  Field.all.all fun field => field.name != name && field.variable != name

/-- The names that belong to no field: those of the file, then those among the given values. -/
def Sources.unknownNames (sources : Sources) (table : OrderedMap String (Option String)) :
    List String :=
  let inFile := table.toList.filterMap fun (name, value) =>
    if isForeignVariable name && (filled? value).isSome then some name else none
  let inValues := sources.given.keys.filter fun name => !isFieldName name
  inFile ++ inValues.filter fun name => !inFile.contains name

def checkField {α : Type} (found : Field → Option Json) (field : Field) (standard : α)
    (check : Json → Checked α) : Checked α :=
  match found field with
  | none => .valid standard
  | some json => (check json).within (.key field.name)

def location : Json → Checked Location
  | .string text => .valid (.file (.ofText text))
  | _ => .fault .notPath

def checkedLines (json : Json) : Checked Lines :=
  (listOf looseText json).map .texts

def checkedCount (json : Json) : Checked Count :=
  (integerFrom 0 json).map fun count => .number count.1

def checkFields (found : Field → Option Json) : Checked Settings :=
  ((checkField found .motors standard.motors checkedLines).both
    ((checkField found .counters standard.counters checkedLines).both
      ((checkField found .templates standard.templates checkedLines).both
        ((checkField found .preview standard.preview fun json => (boolean json).map .state).both
          ((checkField found .database standard.database location).both
            ((checkField found .attempts standard.attempts checkedCount).both
              (checkField found .interval standard.interval
                fun json => (positiveReal json).map .exact))))))).map
    fun (motors, counters, templates, preview, database, attempts, interval) =>
      { motors, counters, templates, preview, database, attempts, interval }

def checkUnknown (names : List String) : Checked (List Unit) :=
  .all (fun name => (Checked.fault .unknownField).within (.key name)) names

def build (sources : Sources) : Except Failure Settings := do
  let text ← sources.fileText.mapError .undecodable
  let table := sources.fileVariables text
  let environment ← readFields sources.fromEnvironment Field.all
  let file ← readFields (fromFile table) Field.all
  let found (field : Field) : Option Json :=
    match sources.given.get? field.name with
    | some json => some json
    | none =>
      match OrderedMap.lookup field environment with
      | some json => some json
      | none => OrderedMap.lookup field file
  match (checkFields found).both (checkUnknown (sources.unknownNames table)) with
  | .valid (settings, _) => pure settings
  | .faulty first others => .error (.invalid first others)

end SpecLexicon.Settings
