import SpecLexicon.Registry.Event
import SpecLexicon.Registry.Fault

/-!
# The registry

The registry holds the settings and the store, and knows who listens, which loads there are, and
what it did to the outside. An operation may be refused; a refusal keeps what was changed before.
-/

set_option autoImplicit false

namespace SpecLexicon

/-- How far a background load has come. -/
inductive LoadStage where
  | scheduled
  | reading (location : Location)
  | read (location : Location) (outcome : Except Database.FetchError Partition)
  | installed
  | reported
  | cancelled
  | crashed (fault : Registry.Fault)

def LoadStage.isEnded : LoadStage → Bool
  | scheduled => false
  | reading _ => false
  | read _ _ => false
  | installed => true
  | reported => true
  | cancelled => true
  | crashed _ => true

/-- A background load. Once it is asked to stop it ends at its next step. -/
structure LoadTask where
  stage : LoadStage
  stopRequested : Bool

/-- The registry. Listeners are known by name and may be registered more than once; `calls` counts
how often one was called. Loads are numbered in the order in which they were scheduled; `current` is
the one that the registry knows as its load, and `closing` are those that a shutdown waits for. -/
structure Registry where
  settings : Settings
  store : Store
  listeners : List String
  known : OrderedMap String Listener
  calls : Nat
  window : Option Window
  loads : List LoadTask
  current : Option Nat
  closing : List Nat
  events : List Event

namespace Registry

def emit (event : Event) (registry : Registry) : Registry :=
  { registry with events := registry.events ++ [event] }

def record (level : Level) (text : LooseText) (registry : Registry) : Registry :=
  registry.emit (.recorded ⟨level, .registry, text⟩)

def recordAll (records : List Record) (registry : Registry) : Registry :=
  { registry with events := registry.events ++ records.map .recorded }

/-- Get to know a listener. What a name stands for is settled when it is first known. -/
def know (name : String) (listener : Listener) (registry : Registry) : Registry :=
  { registry with known := registry.known.insertIfNew name listener }

def addListener (name : String) (registry : Registry) : Registry :=
  { registry.know name .silent with listeners := registry.listeners ++ [name] }

/-- Undo the first registration of a listener, if there is one. -/
def removeListener (name : String) (registry : Registry) : Registry :=
  { registry.know name .silent with listeners := registry.listeners.erase name }

/-- An operation that changes the registry and may be refused. A refusal keeps what was changed
before. -/
abbrev Action (α : Type) : Type := ExceptT Fault (StateM Registry) α

def perform (change : Registry → Registry) : Action Unit :=
  modifyThe Registry change

/-- Change the registry as far as a fault lets it, which is known beforehand. -/
def attempt (fault? : Registry → Option Fault) (change : Registry → Registry) : Action Unit := do
  let stopped := fault? (← getThe Registry)
  perform change
  match stopped with
  | none => pure ()
  | some fault => throw fault

/-- Use the window. A use that fails is kept as an event too. -/
def useWindow (window : Window) (call : WindowCall) : Action Unit := do
  perform (emit (.used call))
  if window.failing.contains call.name then throw (.windowFailed call.name)

def showError (text : LooseText) : Action Unit := do
  match (← getThe Registry).window with
  | none => pure ()
  | some window => useWindow window (.errorMessage text)

end Registry

end SpecLexicon
