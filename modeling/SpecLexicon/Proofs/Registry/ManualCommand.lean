import Mathlib.Data.List.Forall2
import Mathlib.Data.List.Nodup
import SpecLexicon.Proofs.Registry.Layout
import SpecLexicon.Proofs.Registry.Waiting

/-!
# The command that opens the manual

The command offers one entry for the whole manual and one for each kind, and opens the URI of the
entry that is picked. What a request for this URI gives is the whole manual or the section of the
kind, since a label comes through a URI unchanged and belongs to no other kind.
-/

set_option autoImplicit false

namespace SpecLexicon

/-!
## Uses of a window
-/

namespace Window

def fails (window : Window) (call : WindowCall) : Bool :=
  window.failing.contains call.name

/-- The calls up to the first one that fails, which is made like the others. -/
def performed (window : Window) : List WindowCall → List WindowCall
  | [] => []
  | call :: rest => if window.fails call then [call] else call :: performed window rest

def fault? (window : Window) (calls : List WindowCall) : Option Registry.Fault :=
  (calls.find? window.fails).map fun call => .windowFailed call.name

/-- What work gives, and leaves behind, that ends with these calls. -/
def used {α : Type} (window : Window) (calls : List WindowCall) (given : α) (registry : Registry) :
    Except Registry.Fault α × Registry :=
  (match window.fault? calls with
    | none => .ok given
    | some fault => .error fault,
    { registry with events := registry.events ++ (window.performed calls).map .used })

end Window

namespace Registry

section Calls

variable {α : Type} {window : Window} {given : α} {registry : Registry}

theorem used_nil : window.used [] given registry = (.ok given, registry) := by
  simp [Window.used, Window.fault?, Window.performed]

theorem used_cons (call : WindowCall) (calls : List WindowCall) :
    window.used (call :: calls) given registry =
      if window.fails call then (.error (.windowFailed call.name), registry.emit (.used call))
      else window.used calls given (registry.emit (.used call)) := by
  cases failing : window.fails call with
  | true => simp [Window.used, Window.fault?, Window.performed, failing, emit]
  | false => simp [Window.used, Window.fault?, Window.performed, failing, emit]

theorem outcome_useWindow_bind {call : WindowCall} {calls : List WindowCall}
    {next : Unit → Action α}
    (goes : outcome (next ()) (registry.emit (.used call)) =
      window.used calls given (registry.emit (.used call))) :
    outcome (useWindow window call >>= next) registry =
      window.used (call :: calls) given registry := by
  rw [outcome_bind, outcome_useWindow, used_cons, Window.fails]
  cases window.failing.contains call.name with
  | true => rfl
  | false => exact goes

end Calls

/-!
## Entries
-/

/-- The entry of a kind has its label as the key, and shows its icon and its label. -/
structure ShowsKind (kind : Kind) (item : PickItem) : Prop where
  key : kind.label? = some item.key
  label : ∃ icon, kind.icon? = some icon ∧ item.label = "$(" ++ icon ++ ") " ++ item.key

def allItem : PickItem := ⟨allKey, "$(references) all"⟩

/-- The entries are that of the whole manual and those of the kinds in order, and no two of them
have the same key. -/
structure Offers (partition : Partition) (items : List PickItem) : Prop where
  entries : ∃ shown, items = allItem :: shown ∧
    List.Forall₂ ShowsKind (OrderedMap.keys partition) shown
  distinct : (items.map PickItem.key).Nodup

def pickItem (kind : Kind) : Except Kind.Unlisted PickItem := do
  let label ← kind.label
  let icon ← kind.icon
  pure ⟨label, "$(" ++ icon ++ ") " ++ label⟩

theorem pickItems_eq (partition : Partition) :
    pickItems partition =
      (OrderedMap.keys partition).mapM pickItem >>= fun shown => pure (allItem :: shown) := rfl

theorem exists_pickItem {kind : Kind} (listed : kind.label? ≠ none) :
    ∃ item, pickItem kind = .ok item ∧ ShowsKind kind item := by
  cases kind with
  | unlisted code fresh => exact absurd rfl listed
  | _ => exact ⟨_, rfl, rfl, _, rfl, rfl⟩

theorem exists_pickItems {kinds : List Kind} (listed : ∀ kind ∈ kinds, kind.label? ≠ none) :
    ∃ shown, kinds.mapM pickItem = .ok shown ∧ List.Forall₂ ShowsKind kinds shown := by
  induction kinds with
  | nil => exact ⟨[], rfl, .nil⟩
  | cons kind rest ih =>
    obtain ⟨item, first, shows⟩ := exists_pickItem (listed kind List.mem_cons_self)
    obtain ⟨shown, others, shownOthers⟩ :=
      ih fun other member => listed other (List.mem_cons_of_mem kind member)
    refine ⟨item :: shown, ?_, .cons shows shownOthers⟩
    rw [List.mapM_cons, first, others]
    rfl

theorem exists_unlisted {kinds : List Kind} (unlisted : ∃ kind ∈ kinds, kind.label? = none) :
    ∃ failure, kinds.mapM pickItem = .error failure := by
  induction kinds with
  | nil => simp at unlisted
  | cons kind rest ih =>
    rw [List.mapM_cons]
    cases found : kind.label? with
    | none =>
      have failed : pickItem kind = .error ⟨kind.code⟩ := by
        simp [pickItem, Kind.label, found, bind, Except.bind]
      rw [failed]
      exact ⟨_, rfl⟩
    | some label =>
      obtain ⟨item, first, _⟩ := exists_pickItem (show kind.label? ≠ none by simp [found])
      have later : ∃ other ∈ rest, other.label? = none := by
        obtain ⟨other, member, missing⟩ := unlisted
        cases List.mem_cons.mp member with
        | inl same =>
          rw [same, found] at missing
          cases missing
        | inr behind => exact ⟨other, behind, missing⟩
      obtain ⟨failure, failed⟩ := ih later
      rw [first, failed]
      exact ⟨failure, rfl⟩

theorem exists_kind_of_mem {kinds : List Kind} {shown : List PickItem}
    (shows : List.Forall₂ ShowsKind kinds shown) {item : PickItem} (member : item ∈ shown) :
    ∃ kind ∈ kinds, ShowsKind kind item := by
  induction shows with
  | nil => cases member
  | @cons kind first kinds shown showsFirst _ ih =>
    cases List.mem_cons.mp member with
    | inl same => exact ⟨kind, List.mem_cons_self, same ▸ showsFirst⟩
    | inr later =>
      obtain ⟨other, listed, showsOther⟩ := ih later
      exact ⟨other, List.mem_cons_of_mem kind listed, showsOther⟩

theorem nodup_keys_of_shows {kinds : List Kind} {shown : List PickItem}
    (shows : List.Forall₂ ShowsKind kinds shown) (distinct : kinds.Nodup) :
    (shown.map PickItem.key).Nodup := by
  induction shows with
  | nil => exact List.nodup_nil
  | @cons kind item kinds shown showsItem others ih =>
    obtain ⟨absent, distinct⟩ := List.nodup_cons.mp distinct
    refine List.nodup_cons.mpr ⟨?_, ih distinct⟩
    intro member
    obtain ⟨other, listed, same⟩ := List.mem_map.mp member
    obtain ⟨otherKind, otherListed, showsOther⟩ := exists_kind_of_mem others listed
    have sameKind := Kind.label?_injective showsItem.key (same ▸ showsOther.key)
    exact absent (sameKind ▸ otherListed)

theorem label?_ne_allKey (kind : Kind) : kind.label? ≠ some allKey := by
  cases kind with
  | unlisted code fresh => nofun
  | _ => decide

theorem exists_offers {partition : Partition} (listed : partition.IsListed) :
    ∃ items, pickItems partition = .ok items ∧ Offers partition items := by
  obtain ⟨shown, offered, shows⟩ := exists_pickItems listed
  refine ⟨allItem :: shown, ?_, ⟨shown, rfl, shows⟩, ?_⟩
  · rw [pickItems_eq, offered]
    rfl
  · refine List.nodup_cons.mpr ⟨?_, nodup_keys_of_shows shows partition.keys_nodup⟩
    intro member
    obtain ⟨item, offered, same⟩ := List.mem_map.mp member
    obtain ⟨kind, _, showsItem⟩ := exists_kind_of_mem shows offered
    have key : item.key = allKey := same
    exact label?_ne_allKey kind (key ▸ showsItem.key)

theorem pickItems_of_not_isListed {partition : Partition} (unlisted : ¬partition.IsListed) :
    ∃ failure, pickItems partition = .error failure := by
  have missing : ∃ kind ∈ OrderedMap.keys partition, kind.label? = none := by
    simpa [Partition.IsListed] using unlisted
  obtain ⟨failure, failed⟩ := exists_unlisted missing
  rw [pickItems_eq, failed]
  exact ⟨failure, rfl⟩

/-!
## Texts
-/

/-- What belongs to an entry: the whole manual, or the section of its kind out of it, with the same
title and citation. -/
inductive IsTextOf (partition : Partition) : PickItem → String → Prop
  | all : IsTextOf partition allItem (Manual.document none partition)
  | kind {kind : Kind} {item : PickItem} {items : ItemMap} {before after : List (Kind × ItemMap)}
      {front behind : String} :
      ShowsKind kind item → partition.toList = before ++ (kind, items) :: after →
      Manual.sections none before = .ok front → Manual.sections none after = .ok behind →
      Manual.document none partition = Manual.header ++ Manual.citation ++
        (front ++ (Manual.kindSection item.key items ++ behind)) →
      IsTextOf partition item
        (Manual.header ++ Manual.citation ++ Manual.kindSection item.key items)

theorem label_ne_empty {kind : Kind} {label : String} (labeled : kind.label? = some label) :
    label ≠ "" := by
  intro empty
  subst empty
  cases kind with
  | unlisted code fresh => cases labeled
  | _ => exact absurd labeled (by decide)

section Section

variable {partition : Partition} {kind : Kind} {label : String} {items : ItemMap}
  {before after : List (Kind × ItemMap)} (labeled : kind.label? = some label)
  (whole : partition.toList = before ++ (kind, items) :: after)

include labeled whole

theorem exists_document_around (listed : partition.IsListed) :
    ∃ front behind, Manual.sections none before = .ok front ∧
      Manual.sections none after = .ok behind ∧
      Manual.document none partition = Manual.header ++ Manual.citation ++
        (front ++ (Manual.kindSection label items ++ behind)) := by
  have listedEntry (entry : Kind × ItemMap) (member : entry ∈ partition.toList) :
      entry.1.label? ≠ none := listed entry.1 (List.mem_map_of_mem member)
  rw [whole] at listedEntry
  have first := Manual.sections_of_listed none fun entry member =>
    listedEntry entry (List.mem_append_left _ member)
  have last := Manual.sections_of_listed none fun entry member =>
    listedEntry entry (List.mem_append_right _ (List.mem_cons_of_mem _ member))
  have middle : Manual.sections none [(kind, items)] = .ok (Manual.kindSection label items) := by
    simp [Manual.sections, Manual.label_eq_ok labeled, Manual.selects, filled?, bind, Except.bind,
      pure, Except.pure]
  have all := Manual.sections_append first (Manual.sections_append middle last)
  rw [List.singleton_append, ← whole] at all
  have rendered := Manual.render_of_isListed listed none
  unfold Manual.render at rendered
  rw [all] at rendered
  exact ⟨_, _, first, last, (Except.ok.inj rendered).symm⟩

theorem filter_label :
    (partition.toList.filter fun entry => entry.1.label? = some label) = [(kind, items)] := by
  have distinct := partition.keys_nodup
  rw [whole, List.map_append, List.map_cons, List.nodup_middle, List.nodup_cons,
    ← List.map_append] at distinct
  have others : (before ++ after).filter (fun entry => entry.1.label? = some label) = [] := by
    rw [List.filter_eq_nil_iff]
    intro entry member named
    have same := Kind.label?_injective (of_decide_eq_true named) labeled
    have listed : entry.1 ∈ (before ++ after).map Prod.fst := List.mem_map_of_mem member
    exact distinct.1 (same ▸ listed)
  rw [List.filter_append, List.append_eq_nil_iff] at others
  rw [whole, List.filter_append, others.1, List.filter_cons_of_pos (by simp [labeled]), others.2]
  rfl

end Section

theorem isTextOf_kind {partition : Partition} {kind : Kind} {item : PickItem} {items : ItemMap}
    (listed : partition.IsListed) (shows : ShowsKind kind item)
    (member : (kind, items) ∈ partition.toList) :
    IsTextOf partition item (Manual.document (some item.key) partition) := by
  obtain ⟨before, after, whole⟩ := List.append_of_mem member
  obtain ⟨front, behind, first, last, around⟩ := exists_document_around shows.key whole listed
  have text : Manual.document (some item.key) partition =
      Manual.header ++ Manual.citation ++ Manual.kindSection item.key items := by
    rw [Manual.document_some (label_ne_empty shows.key), filter_label shows.key whole]
    simp
  rw [text]
  exact .kind shows whole first last around

/-- The URI that an entry opens asks for the text of the entry. -/
theorem exists_manualUri {registry : Registry} {partition : Partition} {items : List PickItem}
    {item : PickItem} (stored : registry.store.get? Source.builtIn = some partition)
    (listed : partition.IsListed) (offers : Offers partition items) (member : item ∈ items) :
    ∃ uri text, manualUri item.key = .ok uri ∧ IsTextOf partition item text ∧
      registry.documentText uri false = .ok (some text) := by
  have system : Source.builtIn ∈ systemSources := by decide
  obtain ⟨⟨shown, rfl, shows⟩, _⟩ := offers
  cases List.mem_cons.mp member with
  | inl first =>
    subst first
    refine ⟨Source.builtIn, _, rfl, .all, ?_⟩
    rw [documentText_source system stored, shown_of_isListed listed]
  | inr later =>
    obtain ⟨kind, kindListed, showsItem⟩ := exists_kind_of_mem shows later
    obtain ⟨⟨_, items⟩, entry, rfl⟩ := List.mem_map.mp kindListed
    obtain ⟨uri, written, text⟩ := documentText_withQuery system stored (some item.key)
    have different : item.key ≠ allKey := fun same => label?_ne_allKey _ (same ▸ showsItem.key)
    refine ⟨uri, _, ?_, isTextOf_kind listed showsItem entry, ?_⟩
    · rw [manualUri, if_neg different, written]
      rfl
    · rw [text, Option.map_some, keptText_eq_self_iff.mpr (comesThrough_label showsItem.key),
        shown_of_isListed listed]

/-!
## The command
-/

/-- The calls that open a URI. -/
def opening (settings : Settings) (uri : String) : List WindowCall :=
  .textDocument uri false ::
    if settings.preview.isOn then [.command "markdown.showPreview"] else []

section Picked

variable {registry : Registry} {window : Window} {partition : Partition} {items : List PickItem}
  (offered : pickItems partition = .ok items)

include offered

theorem outcome_openPicked_of_none (dismissed : window.pick (items.map PickItem.key) = none) :
    outcome (openPicked window partition) registry =
      window.used [.quickPick items] none registry := by
  unfold openPicked
  rw [offered]
  refine outcome_useWindow_bind ?_
  rw [dismissed, used_nil]
  rfl

theorem outcome_openPicked_of_some {key uri : String}
    (picked : window.pick (items.map PickItem.key) = some key)
    (written : manualUri key = .ok uri) :
    outcome (openPicked window partition) registry =
      window.used (.quickPick items :: opening registry.settings uri) (some uri) registry := by
  unfold openPicked
  rw [offered]
  refine outcome_useWindow_bind ?_
  rw [picked]
  dsimp only
  rw [written]
  refine outcome_useWindow_bind ?_
  rw [outcome_get_bind]
  have settings : (((registry.emit (.used (.quickPick items))).emit
      (.used (.textDocument uri false))).settings) = registry.settings := rfl
  rw [settings]
  by_cases shown : registry.settings.preview.isOn = true
  · rw [if_pos shown, if_pos shown]
    refine outcome_useWindow_bind ?_
    rw [used_nil]
    rfl
  · rw [if_neg shown, if_neg shown, used_nil]
    rfl

end Picked

theorem outcome_openManual_of_none {during : Nat → Registry → Registry} {registry : Registry}
    (alone : registry.window = none) :
    outcome (openManual during) registry = (.error .noWindow, registry) := by
  unfold openManual
  rw [outcome_get_bind, alone]
  rfl

section Command

variable {during : Nat → Registry → Registry} {registry : Registry} {window : Window}
  (attached : registry.window = some window)

include attached

/-- The command goes on with what its wait gives. -/
theorem outcome_openManual :
    outcome (openManual during) registry =
      match outcome (waitForPartition during Source.builtIn none none) registry with
      | (.ok partition, changed) => outcome (openPicked window partition) changed
      | (.error (.timeout _ _), changed) =>
        window.used [.errorMessage notLoadedMessage] none
          (changed.record .warning "Reference manual requested before the database loaded")
      | (.error fault, changed) => (.error fault, changed) := by
  unfold openManual
  rw [outcome_get_bind, attached]
  dsimp only
  rw [outcome_get_bind]
  change outcome (match outcome (waitForPartition during Source.builtIn none none) registry with
    | (.ok partition, changed) => _
    | (.error (.timeout _ _), changed) => _
    | (.error fault, changed) => _) registry = _
  generalize outcome (waitForPartition during Source.builtIn none none) registry = waited
  obtain ⟨given, changed⟩ := waited
  cases given with
  | ok partition => rfl
  | error fault =>
    cases fault with
    | timeout uri attempts =>
      dsimp only
      rw [outcome_perform_bind]
      refine outcome_useWindow_bind ?_
      rw [used_nil]
      rfl
    | _ => rfl

variable {count : Int} (counted : registry.settings.attempts.toInt? = some count)

include counted

theorem outcome_openManual_of_found {number : Nat} {partition : Partition}
    (first : FirstFound Source.builtIn
      (afterSleeps registry.settings.interval during registry) number partition)
    (inTime : number < checks count) :
    outcome (openManual during) registry = outcome (openPicked window partition)
      (afterSleeps registry.settings.interval during registry number) := by
  have asked : ((none : Option Count).getD registry.settings.attempts).toInt? = some count :=
    counted
  have waited : outcome (waitForPartition during Source.builtIn none none) registry = _ :=
    outcome_wait_of_found asked (Option.getD_none) first inTime
  rw [outcome_openManual attached, waited]

theorem outcome_openManual_of_missing
    (missing : ∀ number < checks count, (afterSleeps registry.settings.interval during registry
      number).store.get? Source.builtIn = none) :
    outcome (openManual during) registry =
      window.used [.errorMessage notLoadedMessage] none
        ((afterSleeps registry.settings.interval during registry count.toNat).record .warning
          "Reference manual requested before the database loaded") := by
  have asked : ((none : Option Count).getD registry.settings.attempts).toInt? = some count :=
    counted
  have waited : outcome (waitForPartition during Source.builtIn none none) registry = _ :=
    outcome_wait_of_missing asked (Option.getD_none) missing
  rw [outcome_openManual attached, waited]

end Command

/-- What the command does with a partition that it finds. It offers the entries, and what it opens
and gives is a URI that asks for the text of the picked entry, then as well as before. -/
structure OpensPicked (window : Window) (partition : Partition) (state : Registry)
    (result : Except Fault (Option String) × Registry) : Prop where
  unlisted : ¬partition.IsListed → ∃ failure, result = (.error (.unlistedKind failure), state)
  listed : partition.IsListed → ∃ items, Offers partition items ∧
    (window.pick (items.map PickItem.key) = none →
      result = window.used [.quickPick items] none state) ∧
    ∀ item ∈ items, window.pick (items.map PickItem.key) = some item.key →
      ∃ uri text, IsTextOf partition item text ∧
        result = window.used (.quickPick items :: opening state.settings uri) (some uri) state ∧
        state.documentText uri false = .ok (some text) ∧
        result.2.documentText uri false = .ok (some text)

theorem opensPicked {window : Window} {partition : Partition} {state : Registry}
    (stored : state.store.get? Source.builtIn = some partition) :
    OpensPicked window partition state (outcome (openPicked window partition) state) := by
  refine ⟨?_, ?_⟩
  · intro unlisted
    obtain ⟨failure, failed⟩ := pickItems_of_not_isListed unlisted
    refine ⟨failure, ?_⟩
    unfold openPicked
    rw [failed]
    rfl
  · intro listed
    obtain ⟨items, offered, offers⟩ := exists_offers listed
    refine ⟨items, offers, outcome_openPicked_of_none offered, ?_⟩
    intro item member picked
    obtain ⟨uri, text, written, isText, served⟩ := exists_manualUri stored listed offers member
    have opened : outcome (openPicked window partition) state = _ :=
      outcome_openPicked_of_some offered picked written
    refine ⟨uri, text, isText, opened, served, ?_⟩
    have sameStore : (outcome (openPicked window partition) state).2.store = state.store := by
      rw [opened]
      rfl
    rw [documentText_eq, sameStore, ← documentText_eq]
    exact served

/-- The command opens what was picked. It uses the first partition that a check of its wait finds,
and if none does, it shows one error message and offers nothing. -/
theorem openManual_opensPicked (during : Nat → Registry → Registry) (registry : Registry) :
    let states := afterSleeps registry.settings.interval during registry
    let result := outcome (openManual during) registry
    (registry.window = none → result = (.error .noWindow, registry)) ∧
    ∀ window, registry.window = some window →
      (registry.settings.attempts.toInt? = none →
        ∃ kind, result = (.error (.notNumber kind), registry)) ∧
      ∀ count, registry.settings.attempts.toInt? = some count →
        (∀ number partition, number < checks count →
          FirstFound Source.builtIn states number partition →
            OpensPicked window partition (states number) result) ∧
        ((∀ number < checks count, (states number).store.get? Source.builtIn = none) →
          let warned := (states count.toNat).record .warning
            "Reference manual requested before the database loaded"
          result = window.used [.errorMessage notLoadedMessage] none warned ∧
            result.2 = warned.emit (.used (.errorMessage notLoadedMessage))) := by
  intro states result
  refine ⟨outcome_openManual_of_none, fun window attached => ⟨?_, fun count counted => ⟨?_, ?_⟩⟩⟩
  · intro uncounted
    have asked : ((none : Option Count).getD registry.settings.attempts).toInt? = none := uncounted
    change ∃ kind, outcome (openManual during) registry = (.error (.notNumber kind), registry)
    rw [outcome_openManual attached, outcome_wait_of_uncounted asked]
    exact ⟨_, rfl⟩
  · intro number partition inTime first
    have found := outcome_openManual_of_found attached counted first inTime
    change OpensPicked window partition (states number) (outcome (openManual during) registry)
    rw [found]
    exact opensPicked first.found
  · intro missing warned
    have shown : result = window.used [.errorMessage notLoadedMessage] none warned :=
      outcome_openManual_of_missing attached counted missing
    refine ⟨shown, ?_⟩
    rw [shown, used_cons, used_nil]
    cases window.fails (.errorMessage notLoadedMessage) with
    | true => rfl
    | false => rfl

/-- A registry with the bundled database, and a user who picks the fourth entry. -/
def pickingFourth : Registry :=
  (bare .standard (some ⟨fun keys => keys[3]?, []⟩)).withDatabase Database.bundled

/-- The fourth entry is that of the macros. -/
theorem openManual_of_fourth :
    ∃ item uri text, ShowsKind .macroDef item ∧ IsTextOf Database.bundled item text ∧
      (outcome (openManual fun _ registry => registry) pickingFourth).1 = .ok (some uri) ∧
      pickingFourth.documentText uri false = .ok (some text) := by
  obtain ⟨_, opens⟩ := openManual_opensPicked (fun _ registry => registry) pickingFourth
  obtain ⟨_, opens⟩ := opens _ rfl
  obtain ⟨opens, _⟩ := opens 5 rfl
  have first : FirstFound Source.builtIn (afterSleeps pickingFourth.settings.interval
      (fun _ registry => registry) pickingFourth) 0 Database.bundled :=
    ⟨rfl, fun _ earlier => absurd earlier (Nat.not_lt_zero _)⟩
  obtain ⟨items, ⟨⟨shown, rfl, shows⟩, _⟩, _, picked⟩ :=
    (opens 0 Database.bundled (by decide) first).listed Database.isDatabase_bundled.isListed
  rw [Database.isDatabase_bundled] at shows
  obtain _ | ⟨_, _ | ⟨_, _ | ⟨showsMacros, _⟩⟩⟩ := shows
  obtain ⟨uri, text, isText, opened, served, _⟩ := picked _ (by simp) rfl
  exact ⟨_, uri, text, showsMacros, isText, by rw [opened]; rfl, served⟩

end Registry

end SpecLexicon
