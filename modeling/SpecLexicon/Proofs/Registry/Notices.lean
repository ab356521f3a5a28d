import SpecLexicon.Proofs.Registry.Performing

/-!
# What becomes of announcements

The events that deeds lead to, by what listeners do. Whoever listens, nothing but the snippets is
announced besides the sources of the deeds. Where no listener asks for a rebuild, not even those
are; and where no listener does more than fail, an announcement is followed by exactly one call for
each registration, in the order of registration.
-/

set_option autoImplicit false

namespace SpecLexicon

def Event.announces (uri : String) : Event → Bool
  | announced other _ => other == uri
  | _ => false

/-- A source is announced among the events. -/
def IsAnnounced (uri : String) (events : List Event) : Prop :=
  ∃ shown, .announced uri shown ∈ events

theorem isAnnounced_append {uri : String} {front behind : List Event} :
    IsAnnounced uri (front ++ behind) ↔ IsAnnounced uri front ∨ IsAnnounced uri behind := by
  simp [IsAnnounced, exists_or]

theorem isAnnounced_cons {uri : String} {event : Event} {rest : List Event} :
    IsAnnounced uri (event :: rest) ↔
      (∃ shown, event = .announced uri shown) ∨ IsAnnounced uri rest := by
  simp [IsAnnounced, exists_or, eq_comm]

theorem isAnnounced_iff_countP_pos {uri : String} {events : List Event} :
    IsAnnounced uri events ↔ 0 < events.countP (·.announces uri) := by
  rw [List.countP_pos_iff]
  constructor
  · rintro ⟨shown, member⟩
    exact ⟨_, member, by simp [Event.announces]⟩
  · rintro ⟨event, member, announces⟩
    cases event with
    | announced other shown =>
      obtain rfl : other = uri := by simpa [Event.announces] using announces
      exact ⟨shown, member⟩
    | called name other => cases announces
    | recorded record => cases announces
    | slept delay => cases announces
    | used call => cases announces

theorem Event.ne_announced {event : Event} (plain : event.isNotice = false) (uri : String)
    (shown : Store) : event ≠ .announced uri shown := by
  rintro rfl
  cases plain

/-- The event announces nothing but the snippets. -/
def Event.IsIncidental (event : Event) : Prop :=
  ∀ uri shown, event = .announced uri shown → uri = Source.snippet

/-- The listener does nothing when it is called, or fails. -/
def Listener.IsHarmless (listener : Listener) : Prop :=
  ∀ calls uri, listener calls uri = .quiet ∨ ∃ reason, listener calls uri = .fail reason

/-- The listener never asks for a rebuild of the snippets. -/
def Listener.IsPassive (listener : Listener) : Prop :=
  ∀ calls uri, listener calls uri ≠ .rebuild

theorem Listener.IsHarmless.isPassive {listener : Listener} (harmless : listener.IsHarmless) :
    listener.IsPassive := by
  intro calls uri
  rcases harmless calls uri with quiet | ⟨reason, failing⟩
  · simp [quiet]
  · simp [failing]

theorem Listener.isHarmless_silent : Listener.silent.IsHarmless := fun _ _ => .inl rfl

namespace Registry

variable {deeds : List Deed} {earlier later registry : Registry}

theorem Adds.mono {property other : Event → Prop} (adds : Adds property earlier later)
    (implies : ∀ event, property event → other event) : Adds other earlier later := by
  obtain ⟨added, events, all⟩ := adds
  exact ⟨added, events, fun event member => implies event (all event member)⟩

/-- Listeners that are called bring about announcements of the snippets only. -/
theorem notifyWith_announces (depth : Nat) (uri : String) (registry : Registry) :
    ∃ nested, (notifyWith (updateSnippetsWithin depth) uri registry).events =
        registry.events ++ (.announced uri registry.store :: nested) ∧
      ∀ other, IsAnnounced other nested → other = Source.snippet := by
  have rebuilds (start : Registry) :
      Adds Event.IsIncidental start (updateSnippetsWithin depth start) := by
    refine (updateSnippetsWithin_adds depth start).mono ?_
    rintro event nested other shown rfl
    exact nested
  have called : Adds Event.IsIncidental (registry.emit (.announced uri registry.store))
      (notifyWith (updateSnippetsWithin depth) uri registry) := by
    refine foldl_callListener_adds (fun _ => True) ?_ ?_ (fun _ _ => id)
      (fun start _ => rebuilds start) (fun _ _ => id) registry.listeners trivial
    · rintro reason other shown ⟨⟩
    · rintro name other shown ⟨⟩
  obtain ⟨nested, events, all⟩ := called
  refine ⟨nested, ?_, ?_⟩
  · rw [events]
    simp [emit]
  · rintro other ⟨shown, member⟩
    exact all _ member other shown rfl

/-- The sources of the deeds are announced, and nothing else but the snippets. -/
theorem Performed.announces (performed : Performed deeds earlier later) :
    ∃ added, later.events = earlier.events ++ added ∧
      (∀ uri ∈ sourcesOf deeds, IsAnnounced uri added) ∧
      ∀ uri, IsAnnounced uri added →
        uri ∈ sourcesOf deeds ∨ uri = Source.snippet ∧ sourcesOf deeds ≠ [] := by
  induction performed with
  | @nil earlier later kept =>
    have same := events_eq_of_outward_eq kept
    exact ⟨[], by simpa using same, by simp [sourcesOf, announcementsOf], by simp [IsAnnounced]⟩
  | @acted event deeds earlier middle later plain emitted _ ih =>
    obtain ⟨added, events, own, others⟩ := ih
    have same : middle.events = earlier.events ++ [event] := events_eq_of_outward_eq emitted
    have sources : sourcesOf (.acted event :: deeds) = sourcesOf deeds := rfl
    refine ⟨event :: added, by rw [events, same, List.append_assoc]; rfl, ?_, ?_⟩
    · intro uri member
      exact isAnnounced_cons.mpr (.inr (own uri member))
    · intro uri announced
      rcases isAnnounced_cons.mp announced with ⟨shown, first⟩ | announced
      · exact absurd first (event.ne_announced plain uri shown)
      · exact others uri announced
  | @announced uri depth deeds earlier middle later kept _ ih =>
    obtain ⟨added, events, own, others⟩ := ih
    obtain ⟨nested, told, snippets⟩ := notifyWith_announces depth uri middle
    have same := events_eq_of_outward_eq kept
    have sources : sourcesOf (.announced uri middle.store middle.listeners :: deeds) =
        uri :: sourcesOf deeds := rfl
    rw [sources]
    refine ⟨.announced uri middle.store :: (nested ++ added), ?_, ?_, ?_⟩
    · rw [events, told, same]
      simp
    · intro other member
      rw [isAnnounced_cons, isAnnounced_append]
      rcases List.mem_cons.mp member with rfl | later
      · exact .inl ⟨middle.store, rfl⟩
      · exact .inr (.inr (own other later))
    · intro other announced
      rw [isAnnounced_cons, isAnnounced_append] at announced
      rcases announced with ⟨shown, first⟩ | inside | behind
      · cases first
        exact .inl List.mem_cons_self
      · exact .inr ⟨snippets other inside, by simp⟩
      · exact (others other behind).imp (List.mem_cons_of_mem uri) (.imp_right (by simp))

/-!
## Listeners that ask for nothing
-/

theorem IsPassive.foldl {uri : String} {names : List String} (passive : registry.IsPassive) :
    (names.foldl (Registry.callListener id uri) registry).IsPassive := by
  induction names generalizing registry with
  | nil => exact passive
  | cons name rest ih => exact ih (passive.callListener id uri name).2

theorem IsPassive.of_known_eq (passive : earlier.IsPassive) (same : later.known = earlier.known) :
    later.IsPassive := by
  rw [IsPassive, same]
  exact passive

/-- Passive listeners leave nothing behind but calls and failures. -/
theorem IsPassive.notifyWith (passive : registry.IsPassive) (rebuild : Registry → Registry)
    (uri : String) :
    (Registry.notifyWith rebuild uri registry).IsPassive ∧
      ∃ told, (Registry.notifyWith rebuild uri registry).events =
          registry.events ++ (.announced uri registry.store :: told) ∧
        ∀ event ∈ told, (∀ other, event.announces other = false) ∧ event.isCompilation = false := by
  have entered : (registry.emit (.announced uri registry.store)).IsPassive := passive
  have called : Adds
      (fun event => (∀ other, event.announces other = false) ∧ event.isCompilation = false)
      (registry.emit (.announced uri registry.store))
      (registry.listeners.foldl (Registry.callListener id uri)
        (registry.emit (.announced uri registry.store))) := by
    refine foldl_callListener_adds IsPassive (fun _ => ⟨fun _ => rfl, rfl⟩)
      (fun _ => ⟨fun _ => rfl, rfl⟩) (fun _ _ holds => holds) (fun _ _ => .of_events_eq rfl)
      (fun start name holds => (holds.callListener id uri name).2) _ entered
  rw [Registry.notifyWith, entered.foldl_callListener rebuild]
  obtain ⟨told, events, all⟩ := called
  refine ⟨entered.foldl, told, ?_, all⟩
  rw [events]
  simp [emit]

/-- Where no listener asks for a rebuild, each source is announced as often as the deeds say, and
the snippets are compiled as often. -/
theorem Performed.counts (performed : Performed deeds earlier later)
    (passive : earlier.IsPassive) :
    later.IsPassive ∧ ∃ added, later.events = earlier.events ++ added ∧
      (∀ uri, added.countP (·.announces uri) = (sourcesOf deeds).count uri) ∧
      added.countP Event.isCompilation = compilationsOf deeds := by
  induction performed with
  | nil kept =>
    have same := events_eq_of_outward_eq kept
    exact ⟨passive.of_known_eq (known_eq_of_outward_eq kept), [], by simpa using same,
      by simp [sourcesOf, announcementsOf], rfl⟩
  | @acted event deeds earlier middle later plain emitted _ ih =>
    have known := known_eq_of_outward_eq emitted
    have same : middle.events = earlier.events ++ [event] := events_eq_of_outward_eq emitted
    have entered : (earlier.emit event).IsPassive := passive
    obtain ⟨stays, added, events, sources, compilations⟩ := ih (entered.of_known_eq known)
    refine ⟨stays, event :: added, by rw [events, same, List.append_assoc]; rfl, ?_, ?_⟩
    · intro uri
      have silent : event.announces uri = false := by
        cases event with
        | announced other shown => cases plain
        | called name other => rfl
        | recorded record => rfl
        | slept delay => rfl
        | used call => rfl
      rw [List.countP_cons_of_neg (by simp [silent]), sources uri]
      rfl
    · rw [compilationsOf, List.countP_cons, List.countP_cons, compilations]
      rfl
  | @announced uri depth deeds earlier middle later kept _ ih =>
    have known := known_eq_of_outward_eq kept
    have same := events_eq_of_outward_eq kept
    obtain ⟨still, told, toldEvents, quiet⟩ :=
      (passive.of_known_eq known).notifyWith (updateSnippetsWithin depth) uri
    obtain ⟨stays, added, events, sources, compilations⟩ := ih still
    refine ⟨stays, .announced uri middle.store :: (told ++ added), ?_, ?_, ?_⟩
    · rw [events, toldEvents, same]
      simp
    · intro other
      have none_told : told.countP (·.announces other) = 0 :=
        List.countP_eq_zero.mpr fun event member => by simp [(quiet event member).1 other]
      have first : sourcesOf (.announced uri middle.store middle.listeners :: deeds) =
          uri :: sourcesOf deeds := rfl
      rw [List.countP_cons, List.countP_append, none_told, sources other, first, List.count_cons,
        Nat.zero_add]
      rfl
    · have none_told : told.countP Event.isCompilation = 0 :=
        List.countP_eq_zero.mpr fun event member => by simp [(quiet event member).2]
      have first : compilationsOf (.announced uri middle.store middle.listeners :: deeds) =
          compilationsOf deeds := by simp [compilationsOf, Deed.isCompilation]
      rw [first, List.countP_cons_of_neg (by simp [Event.isCompilation]), List.countP_append,
        none_told, compilations, Nat.zero_add]

/-!
## Listeners that fail at most
-/

/-- No listener does more than fail. -/
def IsHarmless (registry : Registry) : Prop :=
  ∀ name, ((registry.known.get? name).getD .silent).IsHarmless

/-- An announcement, and one call for each of the registered listeners. -/
def callsOf (listeners : List String) (announcement : String × Store) : List Event :=
  .announced announcement.1 announcement.2 ::
    listeners.map fun name => .called name announcement.1

/-- The later registry has the listeners of the earlier one, and these were its notices since. -/
structure Heard (notices : List Event) (earlier later : Registry) : Prop where
  listeners : later.listeners = earlier.listeners
  known : later.known = earlier.known
  events : ∃ added, later.events = earlier.events ++ added ∧
    added.filter Event.isNotice = notices

namespace Heard

variable {front behind : List Event} {middle : Registry}

theorem of_outward_eq (same : later.outward = earlier.outward) : Heard [] earlier later :=
  ⟨listeners_eq_of_outward_eq same, known_eq_of_outward_eq same, [],
    by simpa using events_eq_of_outward_eq same, rfl⟩

theorem trans (early : Heard front earlier middle) (late : Heard behind middle later) :
    Heard (front ++ behind) earlier later := by
  obtain ⟨before, earlyEvents, rfl⟩ := early.events
  obtain ⟨added, lateEvents, rfl⟩ := late.events
  refine ⟨late.listeners.trans early.listeners, late.known.trans early.known, before ++ added, ?_,
    List.filter_append before added⟩
  rw [lateEvents, earlyEvents, List.append_assoc]

theorem emit (event : Event) (registry : Registry) :
    Heard ([event].filter Event.isNotice) registry (registry.emit event) :=
  ⟨rfl, rfl, [event], rfl, rfl⟩

theorem isHarmless (heard : Heard front earlier later) (harmless : earlier.IsHarmless) :
    later.IsHarmless := by
  rw [IsHarmless, heard.known]
  exact harmless

end Heard

theorem IsHarmless.callListener (harmless : registry.IsHarmless) (rebuild : Registry → Registry)
    (uri name : String) :
    Heard [.called name uri] registry (Registry.callListener rebuild uri registry name) := by
  have entered : Heard [.called name uri] registry (registry.calling name uri) :=
    ⟨rfl, rfl, [.called name uri], rfl, rfl⟩
  rcases harmless name registry.calls uri with quiet | ⟨reason, failing⟩
  · simp only [Registry.callListener, quiet]
    exact entered
  · simp only [Registry.callListener, failing]
    exact entered.trans (.emit (.recorded (failureRecord uri reason)) _)

theorem IsHarmless.foldl_callListener (harmless : registry.IsHarmless)
    (rebuild : Registry → Registry) (uri : String) (names : List String) :
    Heard (names.map fun name => .called name uri) registry
      (names.foldl (Registry.callListener rebuild uri) registry) := by
  induction names generalizing registry with
  | nil => exact .of_outward_eq rfl
  | cons name rest ih =>
    have called := harmless.callListener rebuild uri name
    exact called.trans (ih (called.isHarmless harmless))

theorem IsHarmless.notifyWith (harmless : registry.IsHarmless) (rebuild : Registry → Registry)
    (uri : String) :
    Heard (callsOf registry.listeners (uri, registry.store)) registry
      (Registry.notifyWith rebuild uri registry) := by
  have announced : Heard [.announced uri registry.store] registry
      (registry.emit (.announced uri registry.store)) :=
    .emit (.announced uri registry.store) registry
  exact announced.trans
    ((announced.isHarmless harmless).foldl_callListener rebuild uri registry.listeners)

/-- Each announcement of the deeds is followed by one call for each registration. -/
theorem Performed.heard (performed : Performed deeds earlier later)
    (harmless : earlier.IsHarmless) :
    Heard ((announcementsOf deeds).flatMap (callsOf earlier.listeners)) earlier later := by
  induction performed with
  | nil kept => exact .of_outward_eq kept
  | @acted event deeds earlier middle later plain emitted _ ih =>
    have silent : Heard [] earlier (earlier.emit event) := by
      have emits := Heard.emit event earlier
      rwa [List.filter_cons_of_neg (by simp [plain]), List.filter_nil] at emits
    have early := silent.trans (.of_outward_eq emitted)
    have late := ih (early.isHarmless harmless)
    rw [early.listeners] at late
    exact early.trans late
  | @announced uri depth deeds earlier middle later kept _ ih =>
    have same : Heard [] earlier middle := .of_outward_eq kept
    have told := (same.isHarmless harmless).notifyWith (updateSnippetsWithin depth) uri
    have early := same.trans told
    have late := ih (early.isHarmless harmless)
    rw [early.listeners] at late
    rw [same.listeners] at early
    exact early.trans late

/-- Nobody listens to a new registry, and it knows no listener. -/
theorem heard_create (settings : Settings) (window : Option Window) :
    ∃ notices, Heard notices (bare settings window) (create settings window) := by
  have harmless : (bare settings window).IsHarmless := fun _ _ _ => .inl rfl
  obtain ⟨deeds, performed⟩ := performs_create settings window
  exact ⟨_, performed.heard harmless⟩

theorem isHarmless_create (settings : Settings) (window : Option Window) :
    (create settings window).IsHarmless := by
  obtain ⟨notices, heard⟩ := heard_create settings window
  exact heard.isHarmless fun _ _ _ => .inl rfl

theorem IsHarmless.isPassive (harmless : registry.IsHarmless) : registry.IsPassive :=
  fun name => (harmless name).isPassive

end Registry

end SpecLexicon
