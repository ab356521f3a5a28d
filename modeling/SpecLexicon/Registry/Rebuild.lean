import SpecLexicon.Registry.Basic
import SpecLexicon.Snippet
import SpecLexicon.Source
import SpecLexicon.Template.BuiltIn

/-!
# Rebuilding from the settings

Motors and counters are built from their lines, and the snippets from the templates and the names of
both. Whoever listens is told which source changed, after it has changed.

A rebuild ends early where its lines cannot be read further, or at a template without a symbol, in
whose signature half of a surrogate pair is left. What was built up to there stays and nobody is
told. The faults say beforehand what ends a rebuild early; for settings whose lines are texts and
whose templates are fit there are none.
-/

set_option autoImplicit false

namespace SpecLexicon.Registry

def unfitTemplate : Fault := .invalidItem ⟨[.key "signature"], .notUnicode⟩

def templateFault? (templates : Lines) : Option Fault :=
  if templates.readable.all Template.isFit then templates.flaw?.map .flawedLines
  else some unfitTemplate

def snippetFault? (registry : Registry) : Option Fault :=
  (registry.store.map? Source.snippet .snippet).bind fun _ =>
    templateFault? registry.settings.templates

/-- What ends a rebuild of motors or counters, and of the snippets behind them, early. -/
def mnemonicFault? (uri : String) (lines : Lines) (registry : Registry) : Option Fault :=
  (registry.store.map? uri .member).bind fun _ =>
    (lines.flaw?.map .flawedLines).or registry.snippetFault?

def recordFailure (uri : String) (reason : LooseText) (registry : Registry) : Registry :=
  registry.record .error ("Stale listener failed for " ++ uri ++ ": " ++ reason)

/-- Call a listener. A failure is recorded and goes no further. -/
def callListener (rebuild : Registry → Registry) (uri : String) (registry : Registry)
    (name : String) : Registry :=
  let listener := (registry.known.get? name).getD .silent
  let called := { registry.emit (.called name uri) with calls := registry.calls + 1 }
  match listener registry.calls uri with
  | .quiet => called
  | .fail reason => called.recordFailure uri reason
  | .addListener other => called.addListener other
  | .removeListener other => called.removeListener other
  | .rebuild =>
    match called.snippetFault? with
    | none => rebuild called
    | some fault => (rebuild called).recordFailure uri fault.message

/-- Announce that a source changed, and call every listener that is registered now. -/
def notifyWith (rebuild : Registry → Registry) (uri : String) (registry : Registry) : Registry :=
  registry.listeners.foldl (callListener rebuild uri)
    (registry.emit (.announced uri registry.store))

/-- The template lines that are compiled: the built-in ones, then those of the settings up to the
first one without a symbol. -/
def templateLines (settings : Settings) : List LooseText :=
  Template.builtIn.map .text ++ settings.templates.readable.takeWhile Template.isFit

/-- The snippets of the present templates, motors and counters. -/
def compileSnippets (registry : Registry) (target : ItemMap) : Rebuilt :=
  Template.rebuild (registry.store.names Source.motor .member)
    (registry.store.names Source.counter .member) target (templateLines registry.settings)

/-- Rebuild the snippets, where listeners may ask for the same again up to a depth. -/
def updateSnippetsWithin : Nat → Registry → Registry
  | 0, registry => registry
  | depth + 1, registry =>
    match registry.store.map? Source.snippet .snippet with
    | none => registry
    | some target =>
      if registry.settings.templates.isRow then
        let built := registry.compileSnippets target
        let stored := { registry.recordAll built.journal with
          store := registry.store.setMap Source.snippet .snippet built.items }
        match templateFault? registry.settings.templates with
        | some _ => stored
        | none =>
          let text := "Rebuilt " ++ Source.snippet ++ ": " ++ toString built.items.size ++
            " snippets"
          notifyWith (updateSnippetsWithin depth) Source.snippet (stored.record .debug text)
      else registry

/-- How deep rebuilds may be nested that listeners ask for. -/
def nestingLimit : Nat := 1000

/-- Rebuild the snippets. Nothing happens if the store has no place for them. -/
def updateSnippets (registry : Registry) : Registry :=
  updateSnippetsWithin (nestingLimit + 1) registry

def notify (uri : String) (registry : Registry) : Registry :=
  notifyWith updateSnippets uri registry

/-- Rebuild motors or counters from their lines, and announce it if all lines were read. -/
def rebuildMnemonics (uri : String) (lines : Lines) (target : ItemMap) (registry : Registry) :
    Registry :=
  let built := Mnemonic.rebuild target lines.readable
  let stored := { registry.recordAll built.journal with
    store := registry.store.setMap uri .member built.items }
  match lines.flaw? with
  | some _ => stored
  | none =>
    let text := "Rebuilt " ++ uri ++ ": " ++ toString built.items.size ++ " of " ++
      toString lines.readable.length ++ " mnemonics"
    notify uri (stored.record .info text)

/-- Rebuild motors or counters from their lines, then the snippets, which hold their names. Nothing
happens if the store has no place for them. -/
def updateMnemonics (uri : String) (lines : Lines) (registry : Registry) : Registry :=
  match registry.store.map? uri .member with
  | none => registry
  | some target =>
    let rebuilt := registry.rebuildMnemonics uri lines target
    match lines.flaw? with
    | some _ => rebuilt
    | none => updateSnippets rebuilt

def requestSnippets : Action Unit :=
  attempt snippetFault? updateSnippets

def requestMnemonics (uri : String) (lines : Lines) : Action Unit :=
  attempt (mnemonicFault? uri lines) (updateMnemonics uri lines)

def setActiveDocument (partition : Partition) (registry : Registry) : Registry :=
  notify Source.activeDocument
    { registry with store := registry.store.install Source.activeDocument partition }

def initialStore : Store :=
  ((Store.empty.register Source.motor [.member]).register Source.counter [.member]).register
    Source.snippet [.snippet]

/-- The registry of some settings in which nothing is built yet. -/
def bare (settings : Settings) (window : Option Window) : Registry :=
  { settings, store := initialStore, listeners := [], known := .empty, calls := 0, window
    loads := [], current := none, closing := [], events := [] }

/-- The registry of some settings. Its motors, counters and snippets are built at once. -/
def create (settings : Settings) (window : Option Window) : Registry :=
  updateMnemonics Source.counter settings.counters
    (updateMnemonics Source.motor settings.motors (bare settings window))

def creationFault? (settings : Settings) : Option Fault :=
  (settings.motors.flaw?.map .flawedLines).or
    ((templateFault? settings.templates).or (settings.counters.flaw?.map .flawedLines))

/-- The registry of some settings, unless its creation ends early. -/
def createChecked (settings : Settings) (window : Option Window) : Except Fault Registry :=
  match creationFault? settings with
  | none => .ok (create settings window)
  | some fault => .error fault

end SpecLexicon.Registry
