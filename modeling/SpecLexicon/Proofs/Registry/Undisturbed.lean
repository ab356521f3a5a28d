import SpecLexicon.Proofs.Registry.Notices
import SpecLexicon.Proofs.Registry.Requests

/-!
# Listeners disturb nothing

A session gives and leaves what it would where nobody listens, if no listener asks for a rebuild of
the snippets; and even then, if all settings come with how they differ, for the snippets are up to
date. Where listeners do no more than fail, every announcement calls whoever is registered at that
moment, once for each registration and in the order of registration.
-/

set_option autoImplicit false

namespace SpecLexicon

namespace Registry

variable {registry : Registry} {names : List String} {call : Call}

namespace Call

/-- The listener that a call registers, if it does. -/
def brings? : Call → Option Listener
  | operate (.listen _ listener) => some listener
  | _ => none

/-- Who is registered after a call, where listeners themselves do not change it. -/
def registered (names : List String) : Call → List String
  | operate (.listen name _) => names ++ [name]
  | operate (.unlisten name) => names.erase name
  | _ => names

/-- The lines that a call brings are lists of texts, and its settings come with how they differ. -/
def IsOrdinary : Call → Prop
  | operate (.apply _ settings) => settings.IsProper
  | operate (.rebuildMnemonics _ lines) => lines.IsProper
  | operate _ => True
  | reconfigure _ _ _ => False

theorem exists_of_isListening (listens : call.isListening = true) :
    (∃ name listener, call = .operate (.listen name listener)) ∨
      ∃ name, call = .operate (.unlisten name) := by
  cases call with
  | reconfigure inLoop change settings => cases listens
  | operate operation =>
    cases operation with
    | listen name listener => exact .inl ⟨name, listener, rfl⟩
    | unlisten name => exact .inr ⟨name, rfl⟩
    | _ => cases listens

theorem registered_of_not_isListening (elsewhere : call.isListening = false)
    (names : List String) : call.registered names = names := by
  cases call with
  | reconfigure inLoop change settings => rfl
  | operate operation =>
    cases operation with
    | listen name listener => cases elsewhere
    | unlisten name => cases elsewhere
    | _ => rfl

theorem brings?_of_not_isListening (elsewhere : call.isListening = false) :
    call.brings? = none := by
  cases call with
  | reconfigure inLoop change settings => rfl
  | operate operation =>
    cases operation with
    | listen name listener => cases elsewhere
    | _ => rfl

end Call

def Request.Brings (property : Listener → Prop) (request : Request) : Prop :=
  ∀ call, request.Includes call → ∀ listener ∈ call.brings?, property listener

def Request.IsOrdinary (request : Request) : Prop :=
  ∀ call, request.Includes call → call.IsOrdinary

/-!
## Calm registries
-/

theorem get?_known_know (name other : String) (listener : Listener) :
    ((registry.know name listener).known.get? other).getD .silent =
      if other = name ∧ registry.known.get? other = none then listener
      else (registry.known.get? other).getD .silent := by
  rw [Registry.know, OrderedMap.get?_insertIfNew]
  by_cases same : other = name
  · subst same
    cases found : registry.known.get? other with
    | none => simp
    | some known => simp
  · simp [same, Ne.symm same]

theorem IsPassive.know_passive (passive : registry.IsPassive) {listener : Listener}
    (brings : listener.IsPassive) (name : String) : (registry.know name listener).IsPassive := by
  intro other calls uri
  rw [get?_known_know]
  split
  · exact brings calls uri
  · exact passive other calls uri

theorem IsHarmless.know (harmless : registry.IsHarmless) {listener : Listener}
    (brings : listener.IsHarmless) (name : String) : (registry.know name listener).IsHarmless := by
  intro other
  rw [get?_known_know]
  split
  · exact brings
  · exact harmless other

theorem IsPassive.after_call (passive : registry.IsPassive)
    (brings : ∀ listener ∈ call.brings?, listener.IsPassive) : (call.after registry).IsPassive := by
  cases listens : call.isListening with
  | true =>
    rcases Call.exists_of_isListening listens with ⟨name, listener, rfl⟩ | ⟨name, rfl⟩
    · exact (passive.know_passive (brings listener rfl) name).know name
    · exact passive.know name
  | false =>
    obtain ⟨deeds, performed⟩ := performs_call listens registry
    exact (performed.counts passive).1

/-- A rebuild from lines leaves a settled registry behind, whatever source they are for. -/
theorem Settled.updateMnemonics {settings : Settings} {symbols : String → ItemMap}
    (settled : Settled settings symbols registry) (uri : String) {lines : Lines}
    (proper : lines.IsProper) :
    ∃ held, Settled settings held (Registry.updateMnemonics uri lines registry) := by
  obtain ⟨texts, rfl⟩ := proper
  cases found : registry.store.map? uri .member with
  | none =>
    refine ⟨symbols, ?_⟩
    rwa [Registry.updateMnemonics, found]
  | some target =>
    have left : (Registry.updateMnemonics uri (.texts texts) registry).core =
        (registry.withMnemonics uri texts).withSnippets.core :=
      core_updateMnemonics (Option.isSome_of_eq_some found) texts
    have same := settings_eq_of_core_eq left
    have store := store_eq_of_core_eq left
    have rebuilt := settled.holds.withMnemonics uri texts
    refine ⟨_, same.trans settled.same, settled.proper, rebuilt.withSnippets.congr store, ?_⟩
    exact (rebuilt.snippetsCurrent settled.settingsProper.isRow).congr (by rw [same]) store

theorem IsSettled.after_call (settled : IsSettled registry) (ordinary : call.IsOrdinary) :
    IsSettled (call.after registry) := by
  obtain ⟨settings, symbols, settled⟩ := settled
  cases call with
  | reconfigure inLoop change adopted => exact ordinary.elim
  | operate operation =>
    rw [after_operate]
    cases operation with
    | rebuildMnemonics uri lines =>
      rw [Operation.after, Operation.action, requestMnemonics, outcome_attempt]
      exact ⟨settings, settled.updateMnemonics uri ordinary⟩
    | apply inLoop adopted =>
      exact settled.after (show (Operation.apply inLoop adopted).IsProper from ordinary)
    | _ => exact settled.after trivial

/-!
## Moments
-/

/-- A moment of a session at which a call can happen, and who is registered then. Before it came
calls, and what the registry does by itself as it sleeps in a request or uses the window. -/
inductive Moment : List String → Registry → Prop where
  | create {settings : Settings} {window : Option Window} {registry : Registry} :
      createChecked settings window = .ok registry → Moment [] registry
  | call {names : List String} {registry : Registry} {call : Call} : Moment names registry →
      (∀ listener ∈ call.brings?, listener.IsHarmless) →
      Moment (call.registered names) (call.after registry)
  | act {names : List String} {registry : Registry} {event : Event} :
      Moment names registry → event.isNotice = false → Moment names (registry.emit event)

/-- These names are registered, and no known listener does more than fail. -/
structure Attended (names : List String) (registry : Registry) : Prop where
  listeners : registry.listeners = names
  harmless : registry.IsHarmless

theorem attended_create (settings : Settings) (window : Option Window) :
    Attended [] (create settings window) := by
  obtain ⟨notices, heard⟩ := heard_create settings window
  exact ⟨heard.listeners, isHarmless_create settings window⟩

theorem Attended.after_call (attended : Attended names registry)
    (brings : ∀ listener ∈ call.brings?, listener.IsHarmless) :
    Attended (call.registered names) (call.after registry) := by
  obtain ⟨rfl, harmless⟩ := attended
  cases listens : call.isListening with
  | true =>
    rcases Call.exists_of_isListening listens with ⟨name, listener, rfl⟩ | ⟨name, rfl⟩
    · exact ⟨rfl, (harmless.know (brings listener rfl) name).know Listener.isHarmless_silent name⟩
    · exact ⟨rfl, harmless.know Listener.isHarmless_silent name⟩
  | false =>
    obtain ⟨deeds, performed⟩ := performs_call listens registry
    have heard := performed.heard harmless
    rw [Call.registered_of_not_isListening listens]
    exact ⟨heard.listeners, heard.isHarmless harmless⟩

theorem Moment.attended (moment : Moment names registry) : Attended names registry := by
  induction moment with
  | @create settings window registry created =>
    obtain rfl := eq_create_of_createChecked created
    exact attended_create settings window
  | call _ brings ih => exact ih.after_call brings
  | act _ _ ih => exact ⟨ih.listeners, ih.harmless⟩

/-- An invariant of calls and of what the registry does by itself is one of requests. -/
theorem Request.preserves (invariant : Registry → Prop) {request : Request}
    (acts : ∀ event registry, event.isNotice = false → invariant registry →
      invariant (registry.emit event))
    (sustained : Sustains invariant request) (holds : invariant registry) :
    invariant (request.after registry) := by
  -- A run that is alike to itself carries the invariant along, polls and sleeps included.
  have likeness : IsLikeness fun left right => left = right ∧ invariant left := by
    constructor
    · rintro left right ⟨rfl, _⟩
      rfl
    · rintro left right event plain ⟨rfl, held⟩
      exact ⟨rfl, acts event left plain held⟩
  have runs {calls : List Call} (included : ∀ call ∈ calls, request.Includes call) :
      ∀ left right, left = right ∧ invariant left →
        runCalls calls left = runCalls calls right ∧ invariant (runCalls calls left) := by
    rintro left right ⟨rfl, held⟩
    refine ⟨rfl, ?_⟩
    induction calls generalizing left with
    | nil => exact held
    | cons call rest ih =>
      obtain ⟨first, others⟩ := List.forall_mem_cons.mp included
      exact ih others _ (sustained call first left held)
  cases request with
  | invoke call => exact sustained call rfl registry holds
  | look uri => exact holds
  | document uri cancelled =>
    have read := (Alike.ofExcept (registry.documentText uri cancelled) ⟨rfl, holds⟩ :
      Alike (fun left right => left = right ∧ invariant left) registry registry _ _)
    exact (read.bind fun text _ _ held => .pure (Answer.text text) held).2.2
  | wait meanwhile uri attempts interval =>
    have waited := likeness.waitForPartition
      (fun slept => runs fun call member => ⟨slept, member⟩) uri attempts interval ⟨rfl, holds⟩
    exact (waited.bind fun found _ _ held => .pure (Answer.found (some found)) held).2.2
  | openManual meanwhile =>
    have opened := likeness.openManual
      (fun slept => runs fun call member => ⟨slept, member⟩) ⟨rfl, holds⟩
    exact (opened.bind fun picked _ _ held => .pure (Answer.picked picked) held).2.2

theorem exists_moment_session {requests : List Request}
    (harmless : ∀ request ∈ requests, request.Brings Listener.IsHarmless)
    (held : ∃ names, Moment names registry) :
    ∃ names, Moment names (session requests registry) := by
  induction requests generalizing registry with
  | nil => exact held
  | cons request rest ih =>
    obtain ⟨first, others⟩ := List.forall_mem_cons.mp harmless
    refine ih others (Request.preserves (fun later => ∃ names, Moment names later) ?_ ?_ held)
    · rintro event later plain ⟨names, moment⟩
      exact ⟨names, moment.act plain⟩
    · rintro call included later ⟨names, moment⟩
      exact ⟨_, moment.call (first call included)⟩

theorem Request.isListening_of_includes_unheard {request : Request}
    (elsewhere : request.isListening = false) (included : request.unheard.Includes call) :
    call.isListening = false := by
  have silent {calls : List Call} (member : call ∈ unlistened calls) :
      call.isListening = false := by
    simpa using (List.mem_filter.mp member).2
  cases request with
  | invoke other =>
    obtain rfl : other = call := included
    exact elsewhere
  | look uri => exact included.elim
  | document uri cancelled => exact included.elim
  | wait meanwhile uri attempts interval =>
    obtain ⟨slept, member⟩ := included
    exact silent member
  | openManual meanwhile =>
    obtain ⟨slept, member⟩ := included
    exact silent member

/-- In a session in which nobody is heard of the same are registered at every moment. -/
theorem Moment.session_unheard (moment : Moment names registry) (requests : List Request) :
    Moment names (session (unheard requests) registry) := by
  induction requests generalizing registry with
  | nil => exact moment
  | cons request rest ih =>
    cases listens : request.isListening with
    | true =>
      rw [unheard_cons_of_isListening listens]
      exact ih moment
    | false =>
      rw [unheard_cons_of_not_isListening listens]
      refine ih (Request.preserves (Moment names) ?_ ?_ moment)
      · exact fun event later plain moment => moment.act plain
      · intro call included later moment
        have silent := Request.isListening_of_includes_unheard listens included
        have none_brought : ∀ listener ∈ call.brings?, listener.IsHarmless := by
          simp [Call.brings?_of_not_isListening silent]
        have called := moment.call none_brought
        rwa [Call.registered_of_not_isListening silent] at called

/-!
## The whole of it
-/

/-- Every announcement of the call is followed by one call for each registration of a name, in the
order of registration and with the source that is announced. An operation of a registry that is up
to date announces its sources. -/
def CallsEach (names : List String) (call : Call) (registry : Registry) : Prop :=
  ∃ (announcements : List (String × Store)) (added : List Event),
    (call.after registry).events = registry.events ++ added ∧
      added.filter Event.isNotice = announcements.flatMap (callsOf names) ∧
      ∀ operation, call = .operate operation → operation.IsProper → IsSettled registry →
        announcements.map Prod.fst = operation.sources registry

theorem exists_performed (elsewhere : call.isListening = false) (registry : Registry) :
    ∃ deeds, Performed deeds registry (call.after registry) ∧
      ∀ operation, call = .operate operation → operation.IsProper → IsSettled registry →
        sourcesOf deeds = operation.sources registry := by
  by_cases known : ∃ operation, call = .operate operation ∧ operation.IsProper ∧ IsSettled registry
  · obtain ⟨operation, rfl, proper, settings, symbols, settled⟩ := known
    obtain ⟨deeds, performed, sources, _⟩ := settled.announces proper elsewhere
    refine ⟨deeds, by rwa [after_operate], ?_⟩
    rintro other ⟨⟩ _ _
    exact sources
  · obtain ⟨deeds, performed⟩ := performs_call elsewhere registry
    exact ⟨deeds, performed, fun operation same proper settled =>
      absurd ⟨operation, same, proper, settled⟩ known⟩

theorem Moment.callsEach (moment : Moment names registry) (elsewhere : call.isListening = false) :
    CallsEach names call registry := by
  obtain ⟨rfl, harmless⟩ := moment.attended
  obtain ⟨deeds, performed, sources⟩ := exists_performed elsewhere registry
  obtain ⟨added, events, notices⟩ := (performed.heard harmless).events
  exact ⟨announcementsOf deeds, added, events, notices, sources⟩

theorem count_listeners_listen_unlisten (name other : String) (listener : Listener)
    (registry : Registry) :
    ((Operation.unlisten name).after ((Operation.listen name listener).after
      registry)).listeners.count other = registry.listeners.count other := by
  change ((registry.listeners ++ [name]).erase name).count other = registry.listeners.count other
  by_cases same : other = name
  · subst same
    rw [List.count_erase_self, List.count_append, List.count_singleton_self]
    exact Nat.add_sub_cancel _ _
  · rw [List.count_erase_of_ne same, List.count_append,
      List.count_singleton, if_neg (by simpa using Ne.symm same), Nat.add_zero]

/-- No listener asks for a rebuild; or listeners may, but the calls keep the snippets up to date. -/
def AreHeldOff (settings : Settings) (requests : List Request) : Prop :=
  (∀ request ∈ requests, request.Brings Listener.IsPassive) ∨
    settings.IsProper ∧ ∀ request ∈ requests, request.IsOrdinary

theorem session_eq_of_areHeldOff {settings : Settings} {requests : List Request}
    (heldOff : AreHeldOff settings requests) (window : Option Window) :
    answers requests (create settings window) =
        answers (unheard requests) (create settings window) ∧
      SameCore (session requests (create settings window))
        (session (unheard requests) (create settings window)) := by
  rcases heldOff with passive | ⟨proper, ordinary⟩
  · have quiet := (isHarmless_create settings window).isPassive
    exact (Matches.mk rfl quiet quiet).session isCalm_isPassive
      fun request member call included _ quiet =>
        quiet.after_call (passive request member call included)
  · have settled : IsSettled (create settings window) :=
      ⟨settings, settings.symbols, settled_create proper window⟩
    exact (Matches.mk rfl settled settled).session isCalm_isSettled
      fun request member call included _ settled =>
        settled.after_call (ordinary request member call included)

/-- Listeners disturb neither a session nor each other. Whoever listens, a session gives and leaves
what it does without a word about listeners. Where they do no more than fail, those that are
registered at a moment are all called; and one that came and went leaves all others as they were. -/
theorem undisturbed_by_listeners {settings : Settings} {window : Option Window} {start : Registry}
    (created : createChecked settings window = .ok start) :
    (∀ requests, AreHeldOff settings requests →
      answers requests start = answers (unheard requests) start ∧
        (session requests start).core = (session (unheard requests) start).core ∧
        (session (unheard requests) start).listeners = []) ∧
    (∀ requests, (∀ request ∈ requests, request.Brings Listener.IsHarmless) →
      ∃ names, Moment names (session requests start)) ∧
    (∀ names registry call, Moment names registry → call.isListening = false →
      registry.listeners = names ∧ CallsEach names call registry) ∧
    ∀ name other listener registry,
      ((Operation.unlisten name).after ((Operation.listen name listener).after
        registry)).listeners.count other = registry.listeners.count other := by
  have begins : Moment [] start := .create created
  obtain rfl := eq_create_of_createChecked created
  refine ⟨?_, ?_, ?_, count_listeners_listen_unlisten⟩
  · intro requests heldOff
    obtain ⟨given, same⟩ := session_eq_of_areHeldOff heldOff window
    exact ⟨given, same, (begins.session_unheard requests).attended.listeners⟩
  · exact fun requests harmless => exists_moment_session harmless ⟨[], begins⟩
  · intro names registry call moment elsewhere
    exact ⟨moment.attended.listeners, moment.callsEach elsewhere⟩

/-- A listener that always fails is registered, and behind it one that does nothing. -/
def failingFirst : List Request :=
  [.invoke (.operate (.listen "failing" fun _ _ => .fail "listener broke")),
    .invoke (.operate (.listen "other" .silent))]

def motorsAnew : Call :=
  .operate (.rebuildMnemonics Source.motor (.texts [.text "th"]))

theorem undisturbed_by_failingFirst :
    createChecked .standard none = .ok (create .standard none) ∧
      (session (failingFirst ++ [.invoke motorsAnew]) (create .standard none)).core =
        (motorsAnew.after (create .standard none)).core ∧
      (session failingFirst (create .standard none)).listeners = ["failing", "other"] ∧
      CallsEach ["failing", "other"] motorsAnew (session failingFirst (create .standard none)) := by
  have created : createChecked .standard none = .ok (create .standard none) := rfl
  have undisturbed := undisturbed_by_listeners created
  have harmless : ∀ request ∈ failingFirst ++ [.invoke motorsAnew],
      request.Brings Listener.IsHarmless := by
    intro request member
    simp only [failingFirst, List.cons_append, List.nil_append, List.mem_cons, List.not_mem_nil,
      or_false] at member
    rcases member with rfl | rfl | rfl
    · rintro call ⟨⟩ listener ⟨⟩
      exact fun _ _ => .inr ⟨_, rfl⟩
    · rintro call ⟨⟩ listener ⟨⟩
      exact Listener.isHarmless_silent
    · rintro call ⟨⟩ listener ⟨⟩
  have heldOff : AreHeldOff .standard (failingFirst ++ [.invoke motorsAnew]) :=
    .inl fun request member call included listener brought =>
      (harmless request member call included listener brought).isPassive
  obtain ⟨names, moment⟩ := undisturbed.2.1 failingFirst fun request member =>
    harmless request (List.mem_append_left _ member)
  obtain ⟨listeners, calls⟩ := undisturbed.2.2.1 names _ motorsAnew moment rfl
  have registered : (session failingFirst (create .standard none)).listeners =
      ["failing", "other"] := by
    change ((create .standard none).listeners ++ ["failing"]) ++ ["other"] = _
    rw [(attended_create .standard none).listeners]
    rfl
  obtain rfl : names = ["failing", "other"] := listeners.symm.trans registered
  exact ⟨created, (undisturbed.1 _ heldOff).2.1, listeners, calls⟩

end Registry

end SpecLexicon
