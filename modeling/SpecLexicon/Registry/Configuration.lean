import SpecLexicon.Registry.Load
import SpecLexicon.Settings.Change

/-!
# Reacting to the configuration

When sections of the configuration change, the registry rebuilds what they affect and nothing else.
A new location of the database is loaded in the background, which needs an event loop; without one
the change is refused as a whole.
-/

set_option autoImplicit false

namespace SpecLexicon.Registry

/-- Rebuild what a change affects. The snippets are rebuilt with the motors and counters, so only a
change of templates alone calls for them. -/
def rebuildAffected (change : Change) : Action Unit := do
  let motorsChanged := change.affectsField .motors
  let countersChanged := change.affectsField .counters
  if motorsChanged then
    requestMnemonics Source.motor (← getThe Registry).settings.motors
  if countersChanged then
    requestMnemonics Source.counter (← getThe Registry).settings.counters
  if change.affectsField .templates && !motorsChanged && !countersChanged then
    requestSnippets

/-- React to a change, with new settings or with the present ones. -/
def configurationChanged (inLoop : Bool) (change : Change) (settings : Option Settings) :
    Action Unit := do
  if change.affectsField .database && !inLoop then throw .needsEventLoop
  perform fun registry => { registry with settings := settings.getD registry.settings }
  rebuildAffected change
  if change.affectsField .database then perform scheduleLoad

def applySettings (inLoop : Bool) (settings : Settings) : Action Change := do
  let change := Change.between (← getThe Registry).settings settings
  configurationChanged inLoop change (some settings)
  pure change

end SpecLexicon.Registry
