import SpecLexicon.Manual
import SpecLexicon.Registry.Rebuild

/-!
# Reading from a registry

The documents that a registry serves, waiting for a source, and the command that opens the manual.
-/

set_option autoImplicit false

namespace SpecLexicon.Registry

/-- The text of a served document. A cancelled request, a URI outside of the system and a source
that is not there have none. -/
def documentText (registry : Registry) (uri : String) (cancelled : Bool) :
    Except Fault (Option String) := do
  if cancelled then pure none
  else
    let document ← (DocumentUri.parse uri).mapError .badUri
    if (Source.scheme ++ "://").toList.isPrefixOf document.source.toList &&
        document.authority == "system" then
      match registry.store.get? document.source with
      | none => pure none
      | some partition =>
        ((Manual.render partition document.query).mapError .unlistedKind).map some
    else pure none

/-- Look for a source, and up to `attempts` more times after a sleep each. What happens while the
registry sleeps is given for each sleep. -/
def poll (uri : String) (interval : Delay) (during : Nat → Registry → Registry) :
    Nat → Nat → Registry → Option Partition × Registry
  | 0, _, registry => (registry.store.get? uri, registry)
  | attempts + 1, slept, registry =>
    match registry.store.get? uri with
    | some partition => (some partition, registry)
    | none =>
      poll uri interval during attempts (slept + 1)
        (during slept (registry.emit (.slept interval)))

/-- Wait for a source. The number of attempts and the interval are those of the settings unless they
are given. With a negative number of attempts the source is not looked for at all. -/
def waitForPartition (during : Nat → Registry → Registry) (uri : String)
    (attempts : Option Count) (interval : Option Delay) : Action Partition := do
  let registry ← getThe Registry
  let asked := attempts.getD registry.settings.attempts
  let pause := interval.getD registry.settings.interval
  match asked.toInt? with
  | none => throw (.notNumber asked.toJson.kindName)
  | some count =>
    if count < 0 then throw (.timeout uri (count + 1))
    else
      let (found, changed) := poll uri pause during count.toNat 0 registry
      perform fun _ => changed
      match found with
      | some partition => pure partition
      | none => throw (.timeout uri (count + 1))

/-- The message for a user who asks for the manual before there is one. -/
def notLoadedMessage : String :=
  "Timeout. The API reference database is not loaded at the moment."

/-- The key of the entry that opens the whole manual. -/
def allKey : String := "all"

/-- The entries that the user picks from: all kinds together, then each kind. -/
def pickItems (partition : Partition) : Except Kind.Unlisted (List PickItem) := do
  let items ← partition.keys.mapM fun kind => do
    let label ← kind.label
    let icon ← kind.icon
    pure (PickItem.mk label ("$(" ++ icon ++ ") " ++ label))
  pure (⟨allKey, "$(references) all"⟩ :: items)

/-- The URI of the part of the manual that was picked. -/
def manualUri (key : String) : Except Fault String :=
  if key = allKey then .ok Source.builtIn
  else (Uri.withQuery Source.builtIn (some key)).mapError .badUri

def openPicked (window : Window) (partition : Partition) : Action (Option String) := do
  let items ← MonadExcept.ofExcept ((pickItems partition).mapError Fault.unlistedKind)
  useWindow window (.quickPick items)
  match window.pick (items.map PickItem.key) with
  | none => pure none
  | some key =>
    let uri ← MonadExcept.ofExcept (manualUri key)
    useWindow window (.textDocument uri false)
    if (← getThe Registry).settings.preview.isOn then
      useWindow window (.command "markdown.showPreview")
    pure (some uri)

/-- Open the manual: wait for the database, then let the user pick. Nothing is opened if there is no
database in time or nothing was picked. -/
def openManual (during : Nat → Registry → Registry) : Action (Option String) := do
  match (← getThe Registry).window with
  | none => throw .noWindow
  | some window =>
    let registry ← getThe Registry
    match (waitForPartition during Source.builtIn none none).run.run registry with
    | (.ok partition, changed) =>
      perform fun _ => changed
      openPicked window partition
    | (.error (.timeout _ _), changed) =>
      perform fun _ => changed.record .warning
        "Reference manual requested before the database loaded"
      useWindow window (.errorMessage notLoadedMessage)
      pure none
    | (.error fault, changed) =>
      perform fun _ => changed
      throw fault

end SpecLexicon.Registry
