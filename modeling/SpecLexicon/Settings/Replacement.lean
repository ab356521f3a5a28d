import SpecLexicon.Settings.Basic

/-!
# Replaced values

A program may replace values of a configuration by any JSON values, which are not checked. Only the
place of the database has to be a path.
-/

set_option autoImplicit false

namespace SpecLexicon.Settings

/-- A value that is no path, by the name of its kind. -/
structure NotPath where
  kind : String
deriving DecidableEq, Repr

def NotPath.message (refused : NotPath) : String :=
  "expected str, bytes or os.PathLike object, not " ++ refused.kind

def Field.named? (name : LooseText) : Option Field :=
  Field.all.find? fun field => name == .text field.name

def replaceField (value : Json) (settings : Settings) : Field → Except NotPath Settings
  | .motors => .ok { settings with motors := .ofJson value }
  | .counters => .ok { settings with counters := .ofJson value }
  | .templates => .ok { settings with templates := .ofJson value }
  | .preview => .ok { settings with preview := .ofJson value }
  | .database =>
    match value.text? with
    | some text => .ok { settings with database := .file (.ofText text) }
    | none => .error ⟨value.kindName⟩
  | .attempts => .ok { settings with attempts := .ofJson value }
  | .interval => .ok { settings with interval := .ofJson value }

/-- Replace the value of the field that an entry names. An entry of any other name changes
nothing. -/
def replaceEntry (settings : Settings) (entry : LooseText × Json) : Except NotPath Settings :=
  match Field.named? entry.1 with
  | some field => settings.replaceField entry.2 field
  | none => .ok settings

/-- Replace the values of all fields that entries name, one after the other. -/
def replaceEntries (settings : Settings) (entries : List (LooseText × Json)) :
    Except NotPath Settings :=
  entries.foldlM replaceEntry settings

end SpecLexicon.Settings
