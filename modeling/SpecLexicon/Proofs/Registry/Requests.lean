import SpecLexicon.Proofs.Registry.Alike
import SpecLexicon.Proofs.Registry.Performing
import SpecLexicon.Registry.Query

/-!
# Requests

What is asked of a registry: calls of operations, looking something up, waiting for a source,
opening the manual. While a request sleeps, other calls may happen. A session is a sequence of
requests, and its answers are what all of them give, be it an error, except those that say who
listens.

A session gives and leaves the same if all that is said about who listens is taken out.
-/

set_option autoImplicit false

namespace SpecLexicon.Registry

inductive Answer where
  | done
  | changed (change : Change)
  | found (partition : Option Partition)
  | text (text : Option String)
  | picked (uri : Option String)

/-- The work of an operation, with what it gives. -/
def Operation.answering : Operation → Action Answer
  | apply inLoop settings => do return .changed (← applySettings inLoop settings)
  | load read path => do return .found (some (← loadDatabase read path))
  | endLoad location outcome => do return .found (some (← finishLoad location outcome))
  | operation => do
    operation.action
    return .done

/-- An operation, or a change of the configuration that comes with new settings, whether or not it
says how they differ. -/
inductive Call where
  | operate (operation : Operation)
  | reconfigure (inLoop : Bool) (change : Change) (settings : Settings)

namespace Call

def answering : Call → Action Answer
  | operate operation => operation.answering
  | reconfigure inLoop change settings => do
    configurationChanged inLoop change (some settings)
    return .done

def after (call : Call) (registry : Registry) : Registry :=
  (outcome call.answering registry).2

def isListening : Call → Bool
  | operate operation => operation.isListening
  | reconfigure _ _ _ => false

end Call

def runCalls (calls : List Call) (registry : Registry) : Registry :=
  calls.foldl (fun reached call => call.after reached) registry

def unlistened (calls : List Call) : List Call :=
  calls.filter fun call => !call.isListening

/-- Something that is asked of a registry. What happens during a sleep is given for each sleep. -/
inductive Request where
  | invoke (call : Call)
  | look (uri : String)
  | document (uri : String) (cancelled : Bool)
  | wait (meanwhile : Nat → List Call) (uri : String) (attempts : Option Count)
      (interval : Option Delay)
  | openManual (meanwhile : Nat → List Call)

namespace Request

def action : Request → Action Answer
  | invoke call => call.answering
  | look uri => do return .found ((← getThe Registry).store.get? uri)
  | document uri cancelled => do
    return .text (← MonadExcept.ofExcept ((← getThe Registry).documentText uri cancelled))
  | wait meanwhile uri attempts interval => do
    return .found (some (← waitForPartition (fun slept => runCalls (meanwhile slept)) uri attempts
      interval))
  | openManual meanwhile => do
    return .picked (← Registry.openManual fun slept => runCalls (meanwhile slept))

def after (request : Request) (registry : Registry) : Registry :=
  (outcome request.action registry).2

/-- The call may happen in the request. -/
def Includes (call : Call) : Request → Prop
  | invoke other => other = call
  | look _ => False
  | document _ _ => False
  | wait meanwhile _ _ _ => ∃ slept, call ∈ meanwhile slept
  | openManual meanwhile => ∃ slept, call ∈ meanwhile slept

def isListening : Request → Bool
  | invoke call => call.isListening
  | _ => false

def unheard : Request → Request
  | wait meanwhile uri attempts interval =>
    wait (fun slept => unlistened (meanwhile slept)) uri attempts interval
  | openManual meanwhile => openManual fun slept => unlistened (meanwhile slept)
  | request => request

end Request

def session (requests : List Request) (registry : Registry) : Registry :=
  requests.foldl (fun reached request => request.after reached) registry

/-- What requests give, one after the other, apart from those that say who listens. -/
def answers : List Request → Registry → List (Except Fault Answer)
  | [], _ => []
  | request :: rest, registry =>
    let others := answers rest (request.after registry)
    if request.isListening then others else (outcome request.action registry).1 :: others

/-- The session without a word about who listens. -/
def unheard (requests : List Request) : List Request :=
  (requests.filter fun request => !request.isListening).map Request.unheard

theorem unheard_cons_of_isListening {request : Request} (listens : request.isListening = true)
    (rest : List Request) : unheard (request :: rest) = unheard rest := by
  simp [unheard, listens]

theorem unheard_cons_of_not_isListening {request : Request}
    (elsewhere : request.isListening = false) (rest : List Request) :
    unheard (request :: rest) = request.unheard :: unheard rest := by
  simp [unheard, elsewhere]

/-!
## Calls
-/

variable {registry left right : Registry}

theorem snd_outcome_return {α β : Type} (action : Action α) (answer : α → β)
    (registry : Registry) :
    (outcome (do return answer (← action)) registry).2 = (outcome action registry).2 := by
  rw [outcome_bind]
  generalize outcome action registry = ran
  obtain ⟨result, changed⟩ := ran
  cases result with
  | ok value => rfl
  | error fault => rfl

theorem after_operate (operation : Operation) (registry : Registry) :
    (Call.operate operation).after registry = operation.after registry := by
  have same {α : Type} (action : Action α) (answer : α → Answer) :
      (outcome (do return answer (← action)) registry).2 =
        (outcome (do let _ ← action) registry).2 :=
    (snd_outcome_return action answer registry).trans
      (snd_outcome_return action (fun _ => ()) registry).symm
  have done (action : Action Unit) :
      (outcome (do action; return Answer.done) registry).2 = (outcome action registry).2 :=
    snd_outcome_return action (fun _ => Answer.done) registry
  cases operation with
  | apply inLoop adopted => exact same _ _
  | load read path => exact same _ _
  | endLoad location fetched => exact same _ _
  | react inLoop change => exact done _
  | rebuildMnemonics uri lines => exact done _
  | rebuildSnippets => exact done _
  | activate partition => exact done _
  | listen name listener => exact done _
  | unlisten name => exact done _
  | startup => exact done _
  | step number => exact done _
  | deliver number fetched => exact done _
  | beginShutdown => exact done _
  | endShutdown number => exact done _

theorem after_reconfigure (inLoop : Bool) (change : Change) (settings : Settings)
    (registry : Registry) : (Call.reconfigure inLoop change settings).after registry =
      (outcome (configurationChanged inLoop change (some settings)) registry).2 :=
  snd_outcome_return _ (fun _ => Answer.done) registry

theorem performs_call {call : Call} (elsewhere : call.isListening = false) (registry : Registry) :
    Performs registry (call.after registry) := by
  cases call with
  | operate operation =>
    rw [after_operate]
    exact performs_after elsewhere registry
  | reconfigure inLoop change settings =>
    rw [after_reconfigure]
    exact performs_configurationChanged inLoop change _ registry

theorem Alike.done {action : Action Unit} (performed : Alike SameCore left right action action) :
    Alike SameCore left right (do action; return Answer.done) (do action; return Answer.done) :=
  performed.bind fun _ _ _ same => .pure Answer.done same

section Calm

variable {calm : Registry → Prop}

theorem Matches.answering (fits : Matches calm left right) (isCalm : IsCalm calm) {call : Call}
    (elsewhere : call.isListening = false) :
    Alike SameCore left right call.answering call.answering := by
  have same := fits.same
  cases call with
  | reconfigure inLoop change settings =>
    exact .done (same.configurationChanged inLoop change (some settings))
  | operate operation =>
    cases operation with
    | apply inLoop adopted =>
      exact (same.applySettings inLoop adopted).bind fun _ _ _ changed => .pure _ changed
    | load read path =>
      exact (fits.loadDatabase isCalm read path).bind fun _ _ _ changed => .pure _ changed
    | endLoad location fetched =>
      exact (fits.finishLoad isCalm location fetched).bind fun _ _ _ changed => .pure _ changed
    | react inLoop change => exact .done (same.configurationChanged inLoop change none)
    | rebuildMnemonics uri lines => exact .done (same.requestMnemonics uri lines)
    | rebuildSnippets => exact .done same.requestSnippets
    | activate partition => exact .done (.perform (fits.setActiveDocument isCalm partition))
    | listen name listener => cases elsewhere
    | unlisten name => cases elsewhere
    | startup => exact .done (.perform (same.of_commutes core_scheduleLoad))
    | step number => exact .done (.perform (fits.stepLoad isCalm number))
    | deliver number fetched => exact .done (.perform (same.of_commutes fun _ => rfl))
    | beginShutdown => exact .done (.perform (same.of_commutes core_beginShutdown))
    | endShutdown number =>
      exact .done (.perform (same.of_commutes (core_endShutdown number)))

/-- What says who listens leaves a registry that holds the same. -/
theorem core_of_isListening {call : Call} (listens : call.isListening = true)
    (registry : Registry) : (call.after registry).core = registry.core := by
  cases call with
  | reconfigure inLoop change settings => cases listens
  | operate operation =>
    cases operation with
    | listen name listener => rfl
    | unlisten name => rfl
    | _ => cases listens

end Calm

/-!
## Waiting
-/

/-- Registries that are so related hold the same, and stay related when both do the same by
themselves. -/
structure IsLikeness (related : Registry → Registry → Prop) : Prop where
  same : ∀ {left right}, related left right → SameCore left right
  emit : ∀ {left right} event, event.isNotice = false → related left right →
    related (left.emit event) (right.emit event)

namespace IsLikeness

variable {related : Registry → Registry → Prop} {during other : Nat → Registry → Registry}

theorem poll (likeness : IsLikeness related)
    (goes : ∀ slept left right, related left right →
      related (during slept left) (other slept right))
    (uri : String) (interval : Delay) (attempts slept : Nat) (held : related left right) :
    (Registry.poll uri interval during attempts slept left).1 =
        (Registry.poll uri interval other attempts slept right).1 ∧
      related (Registry.poll uri interval during attempts slept left).2
        (Registry.poll uri interval other attempts slept right).2 := by
  induction attempts generalizing left right slept with
  | zero =>
    rw [Registry.poll, Registry.poll, store_eq_of_core_eq (likeness.same held)]
    exact ⟨rfl, held⟩
  | succ attempts ih =>
    rw [Registry.poll, Registry.poll, store_eq_of_core_eq (likeness.same held)]
    cases right.store.get? uri with
    | some partition => exact ⟨rfl, held⟩
    | none => exact ih (slept + 1) (goes slept _ _ (likeness.emit (.slept interval) rfl held))

theorem waitForPartition (likeness : IsLikeness related)
    (goes : ∀ slept left right, related left right →
      related (during slept left) (other slept right))
    (uri : String) (attempts : Option Count) (interval : Option Delay)
    (held : related left right) :
    Alike related left right (Registry.waitForPartition during uri attempts interval)
      (Registry.waitForPartition other uri attempts interval) := by
  refine .get_bind ?_
  rw [settings_eq_of_core_eq (likeness.same held)]
  dsimp only
  cases (attempts.getD right.settings.attempts).toInt? with
  | none => exact .throw _ held
  | some count =>
    dsimp only
    split
    · exact .throw _ held
    · obtain ⟨given, changed⟩ :=
        likeness.poll goes uri (interval.getD right.settings.interval) count.toNat 0 held
      rw [Alike, outcome_perform_bind, outcome_perform_bind, given]
      split
      · exact ⟨rfl, changed⟩
      · exact ⟨rfl, changed⟩

/-!
## The manual
-/

theorem useWindow (likeness : IsLikeness related) (window : Window) (call : WindowCall)
    (held : related left right) :
    Alike related left right (Registry.useWindow window call)
      (Registry.useWindow window call) := by
  rw [Alike, outcome_useWindow, outcome_useWindow]
  exact ⟨rfl, likeness.emit (.used call) rfl held⟩

theorem openPicked (likeness : IsLikeness related) (window : Window) (partition : Partition)
    (held : related left right) :
    Alike related left right (Registry.openPicked window partition)
      (Registry.openPicked window partition) := by
  refine (Alike.ofExcept _ held).bind fun items _ _ held => ?_
  refine (likeness.useWindow window _ held).bind fun _ _ _ held => ?_
  cases window.pick (items.map PickItem.key) with
  | none => exact .pure none held
  | some key =>
    refine (Alike.ofExcept _ held).bind fun uri _ _ held => ?_
    refine (likeness.useWindow window _ held).bind fun _ left right held => ?_
    refine .get_bind ?_
    rw [settings_eq_of_core_eq (likeness.same held)]
    split
    · exact (likeness.useWindow window _ held).bind fun _ _ _ held => .pure (some uri) held
    · exact Alike.pure (some uri) held

theorem openManual (likeness : IsLikeness related)
    (goes : ∀ slept left right, related left right →
      related (during slept left) (other slept right))
    (held : related left right) :
    Alike related left right (Registry.openManual during) (Registry.openManual other) := by
  have windows : left.window = right.window := (likeness.same held).view fun _ => rfl
  refine .get_bind ?_
  rw [windows]
  cases right.window with
  | none => exact .throw .noWindow held
  | some window =>
    refine .get_bind ?_
    obtain ⟨given, changed⟩ := likeness.waitForPartition goes Source.builtIn none none held
    simp only [outcome] at given changed
    generalize (Registry.waitForPartition during Source.builtIn none none).run.run left = leftRan
      at given changed ⊢
    generalize (Registry.waitForPartition other Source.builtIn none none).run.run right = rightRan
      at given changed ⊢
    obtain ⟨result, leftLater⟩ := leftRan
    obtain ⟨_, rightLater⟩ := rightRan
    obtain rfl := given
    change related leftLater rightLater at changed
    have goesOn {first second : Registry} (held : related first second) :
        Alike related left right (Registry.perform fun _ => first)
          (Registry.perform fun _ => second) := ⟨rfl, held⟩
    cases result with
    | ok partition =>
      exact (goesOn changed).bind fun _ _ _ held => likeness.openPicked window partition held
    | error fault =>
      cases fault with
      | timeout uri attempts =>
        refine (goesOn (likeness.emit _ rfl changed)).bind fun _ _ _ held => ?_
        exact (likeness.useWindow window _ held).bind fun _ _ _ held => .pure none held
      | _ => exact (goesOn changed).bind fun _ _ _ held => .throw _ held

end IsLikeness

/-!
## Sessions
-/

/-- Registries stay calm by what happens in a request. -/
def Sustains (calm : Registry → Prop) (request : Request) : Prop :=
  ∀ call, request.Includes call → ∀ registry, calm registry → calm (call.after registry)

namespace Matches

variable {calm : Registry → Prop}

theorem isLikeness (isCalm : IsCalm calm) : IsLikeness (Matches calm) := by
  refine ⟨fun fits => fits.same, fun event plain fits => ?_⟩
  exact ⟨fits.same, isCalm.emit plain fits.left, isCalm.emit plain fits.right⟩

theorem call (fits : Matches calm left right) (isCalm : IsCalm calm) {call : Call}
    (sustained : ∀ registry, calm registry → calm (call.after registry))
    (elsewhere : call.isListening = false) :
    Alike (Matches calm) left right call.answering call.answering := by
  obtain ⟨given, changed⟩ := fits.answering isCalm elsewhere
  exact ⟨given, changed, sustained left fits.left, sustained right fits.right⟩

theorem listening (fits : Matches calm left right) {call : Call}
    (sustained : ∀ registry, calm registry → calm (call.after registry))
    (listens : call.isListening = true) : Matches calm (call.after left) right :=
  ⟨(core_of_isListening listens left).trans fits.same, sustained left fits.left, fits.right⟩

theorem runCalls (fits : Matches calm left right) (isCalm : IsCalm calm) {calls : List Call}
    (sustained : ∀ call ∈ calls, ∀ registry, calm registry → calm (call.after registry)) :
    Matches calm (Registry.runCalls calls left) (Registry.runCalls (unlistened calls) right) := by
  induction calls generalizing left right with
  | nil => exact fits
  | cons call rest ih =>
    obtain ⟨first, others⟩ := List.forall_mem_cons.mp sustained
    cases listens : call.isListening with
    | true =>
      rw [unlistened, List.filter_cons_of_neg (by simp [listens])]
      exact ih (fits.listening first listens) others
    | false =>
      rw [unlistened, List.filter_cons_of_pos (by simp [listens])]
      exact ih (fits.call isCalm first listens).2 others

theorem request (fits : Matches calm left right) (isCalm : IsCalm calm) {request : Request}
    (sustained : Sustains calm request) (elsewhere : request.isListening = false) :
    Alike (Matches calm) left right request.action request.unheard.action := by
  have likeness := isLikeness isCalm
  have store := store_eq_of_core_eq fits.same
  cases request with
  | invoke call => exact fits.call isCalm (sustained call rfl) elsewhere
  | look uri =>
    refine .get_bind ?_
    rw [store]
    exact .pure _ fits
  | document uri cancelled =>
    refine .get_bind ?_
    rw [documentText, documentText, store]
    exact (Alike.ofExcept _ fits).bind fun _ _ _ fits => .pure _ fits
  | wait meanwhile uri attempts interval =>
    refine (likeness.waitForPartition (fun slept _ _ fits => ?_) uri attempts interval
      fits).bind fun _ _ _ fits => .pure _ fits
    exact fits.runCalls isCalm fun call member => sustained call ⟨slept, member⟩
  | openManual meanwhile =>
    refine (likeness.openManual (fun slept _ _ fits => ?_) fits).bind
      fun _ _ _ fits => .pure _ fits
    exact fits.runCalls isCalm fun call member => sustained call ⟨slept, member⟩

/-- Whoever listens, a session gives and leaves what it does where nobody is heard of. -/
theorem session (fits : Matches calm left right) (isCalm : IsCalm calm) {requests : List Request}
    (sustained : ∀ request ∈ requests, Sustains calm request) :
    answers requests left = answers (unheard requests) right ∧
      SameCore (Registry.session requests left) (Registry.session (unheard requests) right) := by
  induction requests generalizing left right with
  | nil => exact ⟨rfl, fits.same⟩
  | cons request rest ih =>
    obtain ⟨first, others⟩ := List.forall_mem_cons.mp sustained
    -- Only the left run makes a request about listeners; the right one waits for it.
    cases listens : request.isListening with
    | true =>
      have changed : Matches calm (request.after left) right := by
        cases request with
        | invoke call => exact fits.listening (first call rfl) listens
        | _ => cases listens
      rw [unheard_cons_of_isListening listens, answers, if_pos listens]
      exact ih changed others
    | false =>
      have silent : request.unheard.isListening = false := by
        cases request with
        | invoke call => exact listens
        | _ => rfl
      obtain ⟨given, changed⟩ := fits.request isCalm first listens
      obtain ⟨later, left⟩ := ih changed others
      rw [unheard_cons_of_not_isListening listens, answers, answers, listens, silent, given]
      exact ⟨congrArg (List.cons _) later, left⟩

end Matches

end SpecLexicon.Registry
