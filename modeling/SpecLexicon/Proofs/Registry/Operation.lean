import SpecLexicon.Proofs.Settings.Proper
import SpecLexicon.Registry.Configuration

/-!
# Operations and runs

An operation is a piece of work on a registry that nothing interrupts: a call of a program, or the
next step of something that goes on in the background. A run is any sequence of operations. A load
that a program waits for is there twice: done at once, and as the end of one that began earlier.
-/

set_option autoImplicit false

namespace SpecLexicon

section Except

variable {α ε δ : Type}

theorem mapError_ok (change : ε → δ) (value : α) :
    (Except.ok value).mapError change = .ok value := rfl

theorem mapError_error (change : ε → δ) (fault : ε) :
    (Except.error fault : Except ε α).mapError change = .error (change fault) := rfl

end Except

namespace Registry

section Action

variable {α β : Type}

/-- What an action gives on a registry, and the registry that it leaves behind. -/
def outcome (action : Action α) (registry : Registry) : Except Fault α × Registry :=
  action.run.run registry

theorem outcome_bind (first : Action α) (next : α → Action β) (registry : Registry) :
    outcome (first >>= next) registry =
      match outcome first registry with
      | (.ok value, changed) => outcome (next value) changed
      | (.error fault, changed) => (.error fault, changed) := by
  unfold outcome ExceptT.run StateT.run
  simp only [bind, ExceptT.bind, ExceptT.mk, StateT.bind, ExceptT.bindCont]
  cases first registry with
  | mk result changed =>
    cases result with
    | ok value => rfl
    | error fault => rfl

/-- What holds after one piece of work and is kept by the next holds after both. -/
theorem snd_outcome_bind {property : Registry → Prop} {first : Action α} {next : α → Action β}
    {registry : Registry} (early : property (outcome first registry).2)
    (late : ∀ value, (outcome first registry).1 = .ok value →
      property (outcome (next value) (outcome first registry).2).2) :
    property (outcome (first >>= next) registry).2 := by
  rw [outcome_bind]
  generalize outcome first registry = ran at early late
  obtain ⟨given, changed⟩ := ran
  cases given with
  | ok value => exact late value rfl
  | error fault => exact early

theorem outcome_map (action : Action α) (change : α → β) (registry : Registry) :
    outcome (action.map change) registry =
      match outcome action registry with
      | (.ok value, changed) => (.ok (change value), changed)
      | (.error fault, changed) => (.error fault, changed) := by
  unfold outcome ExceptT.run StateT.run
  simp only [ExceptT.map, ExceptT.mk, bind, StateT.bind]
  cases action registry with
  | mk result changed =>
    cases result with
    | ok value => rfl
    | error fault => rfl

theorem outcome_pure (value : α) (registry : Registry) :
    outcome (pure value) registry = (.ok value, registry) := rfl

theorem outcome_throw (fault : Fault) (registry : Registry) :
    outcome (throw fault : Action α) registry = (.error fault, registry) := rfl

theorem outcome_perform (change : Registry → Registry) (registry : Registry) :
    outcome (perform change) registry = (.ok (), change registry) := rfl

theorem outcome_get_bind (next : Registry → Action β) (registry : Registry) :
    outcome (getThe Registry >>= next) registry = outcome (next registry) registry := rfl

theorem outcome_perform_bind (change : Registry → Registry) (next : Unit → Action β)
    (registry : Registry) :
    outcome (perform change >>= next) registry = outcome (next ()) (change registry) := rfl

/-- The result of something that a fault may have stopped. -/
def resultOf : Option Fault → Except Fault Unit
  | none => .ok ()
  | some fault => .error fault

def faultOf : Except Fault Unit → Option Fault
  | .ok _ => none
  | .error fault => some fault

@[simp] theorem faultOf_resultOf (fault? : Option Fault) : faultOf (resultOf fault?) = fault? := by
  cases fault? with
  | none => rfl
  | some fault => rfl

theorem outcome_attempt (fault? : Registry → Option Fault) (change : Registry → Registry)
    (registry : Registry) :
    outcome (attempt fault? change) registry = (resultOf (fault? registry), change registry) := by
  rw [attempt, outcome_get_bind, outcome_perform_bind]
  cases fault? registry with
  | none => rfl
  | some fault => rfl

end Action

/-- A piece of work on a registry that nothing interrupts. -/
inductive Operation where
  | apply (inLoop : Bool) (settings : Settings)
  | react (inLoop : Bool) (change : Change)
  | rebuildMnemonics (uri : String) (lines : Lines)
  | rebuildSnippets
  | load (read : FileReader) (path : Option LooseText)
  | endLoad (location : Location) (outcome : Except Database.FetchError Partition)
  | activate (partition : Partition)
  | listen (name : String) (listener : Listener)
  | unlisten (name : String)
  | startup
  | step (number : Nat)
  | deliver (number : Nat) (outcome : Except Database.FetchError Partition)
  | beginShutdown
  | endShutdown (number : Nat)

namespace Operation

/-- The work of an operation. What it gives is left out, but not that it is refused. -/
def action : Operation → Action Unit
  | apply inLoop settings => do
    let _ ← applySettings inLoop settings
  | react inLoop change => configurationChanged inLoop change none
  | rebuildMnemonics uri lines => requestMnemonics uri lines
  | rebuildSnippets => requestSnippets
  | load read path => do
    let _ ← loadDatabase read path
  | endLoad location outcome => do
    let _ ← finishLoad location outcome
  | activate partition => perform (setActiveDocument partition)
  | listen name listener => perform fun registry => (registry.know name listener).addListener name
  | unlisten name => perform (removeListener name)
  | startup => perform scheduleLoad
  | step number => perform (stepLoad number)
  | deliver number outcome => perform (Registry.deliver number outcome)
  | beginShutdown => perform Registry.beginShutdown
  | endShutdown number => perform (Registry.endShutdown number)

/-- The fault with which an operation is refused on a registry, if it is. -/
def fault? (operation : Operation) (registry : Registry) : Option Fault :=
  faultOf (outcome operation.action registry).1

def after (operation : Operation) (registry : Registry) : Registry :=
  (outcome operation.action registry).2

/-- The lines that an operation brings are lists of texts, and only motors and counters are rebuilt
from them. -/
def IsProper : Operation → Prop
  | apply _ settings => settings.IsProper
  | rebuildMnemonics uri lines => (uri = Source.motor ∨ uri = Source.counter) ∧ lines.IsProper
  | _ => True

end Operation

def run (operations : List Operation) (registry : Registry) : Registry :=
  operations.foldl (fun reached operation => operation.after reached) registry

@[simp] theorem run_nil (registry : Registry) : run [] registry = registry := rfl

@[simp] theorem run_cons (operation : Operation) (rest : List Operation) (registry : Registry) :
    run (operation :: rest) registry = run rest (operation.after registry) := rfl

/-- The registries that proper operations lead to from one that was created from proper settings. -/
inductive Reachable : Registry → Prop where
  | create {settings : Settings} {window : Option Window} {registry : Registry} :
      settings.IsProper → createChecked settings window = .ok registry → Reachable registry
  | step {registry : Registry} {operation : Operation} :
      Reachable registry → operation.IsProper → Reachable (operation.after registry)

theorem Reachable.run {registry : Registry} {operations : List Operation}
    (reachable : Reachable registry) (proper : ∀ operation ∈ operations, operation.IsProper) :
    Reachable (run operations registry) := by
  induction operations generalizing registry with
  | nil => exact reachable
  | cons operation rest ih =>
    exact ih (reachable.step (proper operation List.mem_cons_self))
      fun later member => proper later (List.mem_cons_of_mem operation member)

end Registry

end SpecLexicon
