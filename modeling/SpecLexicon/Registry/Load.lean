import SpecLexicon.Registry.Rebuild

/-!
# Loading the database into a registry

A load fetches the database and installs it as the built-in source in one step, or leaves everything
as it is. In the background a load goes on in steps, between which other work may happen: it takes
the location, waits for the file, and installs the database or reports an error. A new load stops
the one before it.
-/

set_option autoImplicit false

namespace SpecLexicon.Registry

def installDatabase (location : Location) (partition : Partition) (registry : Registry) :
    Registry :=
  let text := "Installed built-in reference: " ++ toString (Partition.itemCount partition) ++
    " items from " ++ location.text
  let installed := { registry.recordAll [Database.loaded partition] with
    store := registry.store.install Source.builtIn partition }
  notify Source.builtIn (installed.record .info text)

def finishLoad (location : Location) (outcome : Except Database.FetchError Partition) :
    Action Partition := do
  match outcome with
  | .ok partition =>
    perform (installDatabase location partition)
    pure partition
  | .error reason => throw (.ofFetchError reason)

/-- The location of a load: a path that is not empty, else the configured location. -/
def locationOf (registry : Registry) (path : Option LooseText) : Location :=
  match path.filter (· ≠ LooseText.text "") with
  | some text => .file (.ofText text)
  | none => registry.settings.database

def loadDatabase (read : FileReader) (path : Option LooseText) : Action Partition := do
  let location := (← getThe Registry).locationOf path
  finishLoad location (Database.fetch read location)

def modifyLoad (number : Nat) (change : LoadTask → LoadTask) (registry : Registry) : Registry :=
  { registry with loads := registry.loads.modify number change }

def requestStop (number : Nat) (registry : Registry) : Registry :=
  registry.modifyLoad number fun task =>
    if task.stage.isEnded then task else { task with stopRequested := true }

def scheduleLoad (registry : Registry) : Registry :=
  let stopped := match registry.current with
    | none => registry
    | some number => registry.requestStop number
  { stopped with
    loads := stopped.loads ++ [⟨.scheduled, false⟩]
    current := some stopped.loads.length }

/-- Finish a background load: install the database, or report why there is none. -/
def finishInBackground (location : Location)
    (outcome : Except Database.FetchError Partition) : Action LoadStage := do
  match outcome with
  | .ok partition =>
    perform (installDatabase location partition)
    pure .installed
  | .error (.malformed reason) =>
    perform (record .error ("Failed to load API reference database: " ++ reason.message))
    showError ("Failed to load the API reference database: " ++ reason.message)
    pure .reported
  | .error (.unnameable fault) => throw (.unnameable fault)

/-- Give a load its next step. A load that was asked to stop ends, and one that waits for its file
goes on waiting. -/
def stepLoad (number : Nat) (registry : Registry) : Registry :=
  match registry.loads[number]? with
  | none => registry
  | some task =>
    let enter (stage : LoadStage) (changed : Registry) : Registry :=
      changed.modifyLoad number fun task => { task with stage }
    if task.stage.isEnded then registry
    else if task.stopRequested then enter .cancelled registry
    else match task.stage with
      | .scheduled => enter (.reading registry.settings.database) registry
      | .read location outcome =>
        match (finishInBackground location outcome).run.run registry with
        | (.ok stage, changed) => enter stage changed
        | (.error fault, changed) => enter (.crashed fault) changed
      | _ => registry

/-- Hand the content of the file to a load that waits for it. -/
def deliver (number : Nat) (outcome : Except Database.FetchError Partition) (registry : Registry) :
    Registry :=
  registry.modifyLoad number fun task =>
    match task.stage with
    | .reading location => { task with stage := .read location outcome }
    | _ => task

/-- Start shutting down: stop the current load and wait for its end. Without one there is nothing to
wait for. -/
def beginShutdown (registry : Registry) : Registry :=
  match registry.current with
  | none => registry
  | some number =>
    match registry.loads[number]? with
    | none => { registry with current := none }
    | some task =>
      if task.stage.isEnded then { registry with current := none }
      else { registry.requestStop number with closing := registry.closing ++ [number] }

/-- Finish shutting down once the awaited load has ended. -/
def endShutdown (number : Nat) (registry : Registry) : Registry :=
  match registry.loads[number]? with
  | none => registry
  | some task =>
    if task.stage.isEnded && registry.closing.contains number then
      { registry with closing := registry.closing.erase number, current := none }
    else registry

end SpecLexicon.Registry
