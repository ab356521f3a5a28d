import SpecLexicon.Proofs.Registry.Listening

/-!
# What listeners are told

An announcement shows the store to every listener that is registered then, each once and in order.
What listeners ask for in turn is a rebuild of the snippets, so all that is announced meanwhile is
the snippets; and where nobody asks, nothing more is announced.
-/

set_option autoImplicit false

namespace SpecLexicon

def Event.told? (uri : String) : Event → Option String
  | called listener other => if other = uri then some listener else none
  | _ => none

/-- Something that happens during a rebuild of the snippets. -/
def Event.IsNested : Event → Prop
  | announced uri _ => uri = Source.snippet
  | called _ uri => uri = Source.snippet
  | recorded _ => True
  | slept _ => False
  | used _ => False

namespace Registry

/-- The later registry did something more, and all of that has a property. -/
def Adds (property : Event → Prop) (earlier later : Registry) : Prop :=
  ∃ added, later.events = earlier.events ++ added ∧ ∀ event ∈ added, property event

namespace Adds

variable {property other : Event → Prop} {first second third : Registry}

theorem of_events_eq (same : second.events = first.events) : Adds property first second :=
  ⟨[], by simpa using same, by simp⟩

theorem trans (early : Adds property first second) (late : Adds property second third) :
    Adds property first third := by
  obtain ⟨before, earlyEvents, earlyAll⟩ := early
  obtain ⟨behind, lateEvents, lateAll⟩ := late
  refine ⟨before ++ behind, by rw [lateEvents, earlyEvents, List.append_assoc], ?_⟩
  intro event member
  rcases List.mem_append.mp member with present | present
  · exact earlyAll event present
  · exact lateAll event present

theorem emit {event : Event} (holds : property event) (registry : Registry) :
    Adds property registry (registry.emit event) :=
  ⟨[event], rfl, by simpa using holds⟩

theorem recordAll (recorded : ∀ record, property (.recorded record)) (records : List Record)
    (registry : Registry) : Adds property registry (registry.recordAll records) := by
  refine ⟨records.map .recorded, rfl, ?_⟩
  intro event member
  obtain ⟨record, _, rfl⟩ := List.mem_map.mp member
  exact recorded record

end Adds

variable {rebuild : Registry → Registry} {property : Event → Prop}

/-- The record of a listener that failed. -/
def failureRecord (uri : String) (reason : LooseText) : Record :=
  ⟨.error, .registry, "Stale listener failed for " ++ uri ++ ": " ++ reason⟩

/-- The registry that has just called a listener, before the listener did anything. -/
def calling (name uri : String) (registry : Registry) : Registry :=
  { registry.emit (.called name uri) with calls := registry.calls + 1 }

theorem callListener_adds {uri name : String} {registry : Registry}
    (recorded : ∀ reason, property (.recorded (failureRecord uri reason)))
    (rebuilt : Adds property (registry.calling name uri) (rebuild (registry.calling name uri))) :
    Adds property (registry.emit (.called name uri)) (callListener rebuild uri registry name) := by
  have entered : Adds property (registry.emit (.called name uri)) (registry.calling name uri) :=
    .of_events_eq rfl
  simp only [callListener]
  split
  case h_1 => exact entered
  case h_2 => exact entered.trans (.emit (recorded _) _)
  case h_3 => exact .of_events_eq rfl
  case h_4 => exact .of_events_eq rfl
  case h_5 =>
    split
    · exact entered.trans rebuilt
    · exact (entered.trans rebuilt).trans (.emit (recorded _) _)

/-- What listeners add that are called one after the other, where something holds of the registry
all the time. -/
theorem foldl_callListener_adds {uri : String} (invariant : Registry → Prop)
    (recorded : ∀ reason, property (.recorded (failureRecord uri reason)))
    (called : ∀ name, property (.called name uri))
    (entered : ∀ registry name, invariant registry → invariant (registry.calling name uri))
    (rebuilds : ∀ registry, invariant registry → Adds property registry (rebuild registry))
    (kept : ∀ registry name, invariant registry →
      invariant (callListener rebuild uri registry name))
    (names : List String) {registry : Registry} (holds : invariant registry) :
    Adds property registry (names.foldl (callListener rebuild uri) registry) := by
  induction names generalizing registry with
  | nil => exact .of_events_eq rfl
  | cons name rest ih =>
    have told : Adds property registry (registry.emit (.called name uri)) :=
      .emit (called name) registry
    have answered := callListener_adds recorded (rebuilds _ (entered registry name holds))
    exact (told.trans answered).trans (ih (kept registry name holds))

/-- Listeners that are called one after the other are told once each, in their order. -/
theorem events_foldl_callListener {uri : String}
    (recorded : ∀ reason, property (.recorded (failureRecord uri reason)))
    (rebuilds : ∀ registry, Adds property registry (rebuild registry))
    (silent : ∀ event, property event → event.told? uri = none)
    (names : List String) (registry : Registry) :
    ∃ added, (names.foldl (callListener rebuild uri) registry).events = registry.events ++ added ∧
      added.filterMap (Event.told? uri) = names ∧
      ∀ event ∈ added, property event ∨ ∃ name, event = .called name uri := by
  induction names generalizing registry with
  | nil => exact ⟨[], by simp, rfl, by simp⟩
  | cons name rest ih =>
    obtain ⟨asked, askedEvents, askedAll⟩ :=
      callListener_adds recorded (rebuilds (registry.calling name uri))
    obtain ⟨later, laterEvents, laterTold, laterAll⟩ := ih (callListener rebuild uri registry name)
    refine ⟨.called name uri :: (asked ++ later), ?_, ?_, ?_⟩
    · rw [List.foldl_cons, laterEvents, askedEvents]
      simp [emit]
    · have untold : asked.filterMap (Event.told? uri) = [] :=
        List.filterMap_eq_nil_iff.mpr fun event member => silent event (askedAll event member)
      simp [Event.told?, untold, laterTold]
    · intro event member
      rcases List.mem_cons.mp member with rfl | present
      · exact .inr ⟨name, rfl⟩
      · rcases List.mem_append.mp present with early | late
        · exact .inl (askedAll event early)
        · exact laterAll event late

theorem notifyWith_adds (rebuilds : ∀ registry, Adds Event.IsNested registry (rebuild registry))
    (registry : Registry) :
    Adds Event.IsNested registry (notifyWith rebuild Source.snippet registry) := by
  have announced : Adds Event.IsNested registry
      (registry.emit (.announced Source.snippet registry.store)) := .emit (by rfl) registry
  refine announced.trans (foldl_callListener_adds (fun _ => True) (fun _ => trivial) (fun _ => ?_)
    (fun _ _ => id) (fun start _ => rebuilds start) (fun _ _ => id) registry.listeners trivial)
  rfl

theorem updateSnippetsWithin_adds (depth : Nat) (registry : Registry) :
    Adds Event.IsNested registry (updateSnippetsWithin depth registry) := by
  induction depth generalizing registry with
  | zero => exact .of_events_eq rfl
  | succ depth ih =>
    rw [updateSnippetsWithin]
    split
    · exact .of_events_eq rfl
    · split
      · have stored : Adds Event.IsNested registry
            (registry.recordAll (registry.compileSnippets ‹_›).journal) :=
          .recordAll (fun _ => trivial) _ _
        dsimp only
        split
        · exact stored.trans (.of_events_eq rfl)
        · exact stored.trans (.trans (.emit trivial _) (notifyWith_adds ih _))
      · exact .of_events_eq rfl

theorem updateSnippets_adds (registry : Registry) :
    Adds Event.IsNested registry (updateSnippets registry) :=
  updateSnippetsWithin_adds (nestingLimit + 1) registry

/-!
## Announcements where nobody asks for a rebuild
-/

/-- No listener asks for a rebuild of the snippets. -/
def IsPassive (registry : Registry) : Prop :=
  ∀ name calls uri, ((registry.known.get? name).getD .silent) calls uri ≠ .rebuild

theorem IsPassive.know {registry : Registry} (passive : registry.IsPassive) (name : String) :
    (registry.know name .silent).IsPassive := by
  intro other calls uri
  rw [Registry.know, OrderedMap.get?_insertIfNew]
  split
  case isTrue same =>
    subst same
    cases found : registry.known.get? name with
    | none => simp [Listener.silent]
    | some listener => simpa [found] using passive name calls uri
  case isFalse => exact passive other calls uri

theorem IsPassive.callListener {registry : Registry} (passive : registry.IsPassive)
    (rebuild : Registry → Registry) (uri name : String) :
    Registry.callListener rebuild uri registry name = Registry.callListener id uri registry name ∧
      (Registry.callListener id uri registry name).IsPassive := by
  have asked := passive name registry.calls uri
  simp only [Registry.callListener]
  generalize ((registry.known.get? name).getD .silent) registry.calls uri = reaction at asked
  cases reaction with
  | quiet => exact ⟨rfl, passive⟩
  | fail reason => exact ⟨rfl, passive⟩
  | addListener other => exact ⟨rfl, IsPassive.know passive other⟩
  | removeListener other => exact ⟨rfl, IsPassive.know passive other⟩
  | rebuild => exact absurd rfl asked

theorem IsPassive.foldl_callListener {registry : Registry} (passive : registry.IsPassive)
    (rebuild : Registry → Registry) (uri : String) (names : List String) :
    names.foldl (Registry.callListener rebuild uri) registry =
      names.foldl (Registry.callListener id uri) registry := by
  induction names generalizing registry with
  | nil => rfl
  | cons name rest ih =>
    obtain ⟨same, stays⟩ := passive.callListener rebuild uri name
    rw [List.foldl_cons, same, ih stays, List.foldl_cons]

/-- The later registry announced one source, once and with the store as it then was. Records came
before it; behind it every listener was told, and all else is about the snippets. -/
structure Announcement (uri : String) (shown : Store) (earlier later : Registry)
    (records : List Record) (added : List Event) : Prop where
  events : later.events =
    earlier.events ++ (records.map Event.recorded ++ .announced uri shown :: added)
  told : added.filterMap (Event.told? uri) = earlier.listeners
  others : ∀ event ∈ added, event.IsNested ∨ ∃ name, event = .called name uri
  passive : earlier.IsPassive → ∀ event ∈ added,
    (∃ record, event = .recorded record) ∨ ∃ name, event = .called name uri

theorem exists_announcement_notify {uri : String} (different : uri ≠ Source.snippet)
    (registry : Registry) :
    ∃ added, Announcement uri registry.store registry (registry.notify uri) [] added := by
  have untold : ∀ event : Event, event.IsNested → event.told? uri = none := by
    intro event nested
    cases event with
    | called name other =>
      change other = Source.snippet at nested
      rw [Event.told?, if_neg (fun same => different (same.symm.trans nested))]
    | announced other shown => rfl
    | recorded record => rfl
    | slept delay => rfl
    | used call => rfl
  obtain ⟨added, events, told, others⟩ := events_foldl_callListener (fun _ => trivial)
    updateSnippets_adds untold registry.listeners (registry.emit (.announced uri registry.store))
  refine ⟨added, ?_, told, others, ?_⟩
  · rw [notify, notifyWith, events]
    simp [emit]
  · intro passive
    have entered : (registry.emit (.announced uri registry.store)).IsPassive := passive
    have recorded : ∀ event : Event, (∃ record, event = .recorded record) →
        event.told? uri = none := by
      rintro event ⟨record, rfl⟩
      rfl
    obtain ⟨plain, plainEvents, _, plainOthers⟩ :=
      events_foldl_callListener (fun reason => ⟨failureRecord uri reason, rfl⟩)
        (fun start => (.of_events_eq rfl : Adds _ start (id start))) recorded registry.listeners
        (registry.emit (.announced uri registry.store))
    rw [entered.foldl_callListener updateSnippets, plainEvents] at events
    obtain rfl : plain = added := List.append_cancel_left events
    exact plainOthers

end Registry

end SpecLexicon
