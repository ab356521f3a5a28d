import SpecLexicon.Completion
import SpecLexicon.Outline
import SpecLexicon.Registry.Configuration
import SpecLexicon.Registry.Query

/-!
# Sessions

A session is a sequence of steps by one user, in which background loads go on at fixed moments: a
load takes its location at the end of the step that schedules it, and waits for its file until a
step lets time pass. Such a step is a wait, the manual command, or waiting for the load itself; at
its end no load is pending.
-/

set_option autoImplicit false

namespace SpecLexicon.Registry

def pendingLoad? (registry : Registry) : Option Nat :=
  registry.current.bind fun number =>
    registry.loads[number]?.bind fun task => if task.stage.isEnded then none else some number

def stepLoads (registry : Registry) : Registry :=
  (List.range registry.loads.length).foldl (fun changed number => changed.stepLoad number) registry

/-- Read the file of a load that waits for it, and let the load end. -/
def completeLoad (read : FileReader) (number : Nat) (registry : Registry) : Registry :=
  match registry.loads[number]?.map LoadTask.stage with
  | some (.reading location) =>
    (registry.deliver number (Database.fetch read location)).stepLoad number
  | _ => registry

def completePending (read : FileReader) (registry : Registry) : Registry :=
  match registry.pendingLoad? with
  | none => registry
  | some number => registry.completeLoad read number

/-- Start the registry: schedule a load and let it take its location. -/
def startup (registry : Registry) : Registry :=
  stepLoads registry.scheduleLoad

def shutdown (registry : Registry) : Registry :=
  let stopped := stepLoads registry.beginShutdown
  stopped.closing.foldl (fun changed number => changed.endShutdown number) stopped

/-- Wait for the current load. A load that crashed passes its fault on. -/
def settle (read : FileReader) : Action Unit := do
  perform (completePending read)
  let registry ← getThe Registry
  match registry.current.bind fun number => registry.loads[number]?.map LoadTask.stage with
  | some (.crashed fault) => throw fault
  | _ => pure ()

/-- Let time pass during an operation, and complete the pending load at its end in any case. -/
def passingTime {α : Type} (read : FileReader)
    (operation : (Nat → Registry → Registry) → Action α) : Action α := do
  let (result, changed) :=
    (operation fun _ => completePending read).run.run (← getThe Registry)
  perform fun _ => changed.completePending read
  MonadExcept.ofExcept result

def await (read : FileReader) (uri : String) (attempts : Option Count)
    (interval : Option Delay) : Action Partition :=
  passingTime read fun during => waitForPartition during uri attempts interval

def openManualNow (read : FileReader) : Action (Option String) :=
  passingTime read openManual

/-- React to a change and let a load that this schedules take its location. -/
def changedNow (inLoop : Bool) (change : Change) (settings : Option Settings) : Action Unit := do
  configurationChanged inLoop change settings
  perform stepLoads

/-- Apply settings and let a load that this schedules take its location. -/
def applyNow (inLoop : Bool) (settings : Settings) : Action Change := do
  let change := Change.between (← getThe Registry).settings settings
  changedNow inLoop change (some settings)
  pure change

/-- The state of the current load as a user sees it. -/
def loadState (registry : Registry) : Option String :=
  (registry.current.bind fun number => registry.loads[number]?).map fun task =>
    match task.stage with
    | .cancelled => "cancelled"
    | stage => if stage.isEnded then "done" else "pending"

def completions (registry : Registry) (uri : String) : Option (List Completion) :=
  (registry.store.get? uri).map Completion.ofPartition

def outline (registry : Registry) (uri : String) :
    Except Outline.OutOfRange (Option (List Outline.Entry)) :=
  match registry.store.get? uri with
  | none => .ok none
  | some partition => (Outline.ofPartition partition).map some

def clearEvents (registry : Registry) : Registry :=
  { registry with events := [] }

end SpecLexicon.Registry
