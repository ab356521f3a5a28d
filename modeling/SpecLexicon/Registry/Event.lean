import SpecLexicon.Journal
import SpecLexicon.Settings.Basic
import SpecLexicon.Store

/-!
# What a registry does to the outside

A registry calls listeners, writes journal records, sleeps, and uses the window of an editor. All of
it is kept in the order in which it happened.
-/

set_option autoImplicit false

namespace SpecLexicon

/-- One entry of a list that a user picks from: the key that is acted on and the shown label. -/
structure PickItem where
  key : String
  label : String
deriving DecidableEq, Repr

/-- A use of the window. -/
inductive WindowCall where
  | quickPick (items : List PickItem)
  | textDocument (uri : String) (preview : Bool)
  | command (name : String)
  | errorMessage (text : LooseText)
deriving DecidableEq, Repr

def WindowCall.name : WindowCall → String
  | quickPick _ => "show_quick_pick"
  | textDocument _ _ => "show_text_document"
  | command _ => "execute_command"
  | errorMessage _ => "show_error_message"

/-- The window of an editor: what the user picks from the offered keys, and the uses that fail. -/
structure Window where
  pick : List String → Option String
  failing : List String

/-- What a listener does when it is called. -/
inductive Reaction where
  | quiet
  | fail (reason : String)
  | addListener (name : String)
  | removeListener (name : String)
  | rebuild

/-- A listener: its reaction to a source, which may depend on how many calls came before. -/
abbrev Listener := Nat → String → Reaction

def Listener.silent : Listener := fun _ _ => .quiet

/-- Something that a registry did. An announcement says which source changed and shows the store at
that moment; each registered listener is then called. -/
inductive Event where
  | announced (uri : String) (shown : Store)
  | called (listener uri : String)
  | recorded (record : Record)
  | slept (delay : Delay)
  | used (call : WindowCall)

end SpecLexicon
