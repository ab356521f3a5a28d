import SpecLexicon.Proofs.Store
import SpecLexicon.Registry.Rebuild

/-!
# What listeners leave behind

A listener may fail, change who listens, or ask for a rebuild of the snippets. Whatever listeners
do, an announcement leaves everything else as it is, except that the snippets may have been rebuilt.
So the store after an operation can be given without a word about listeners.
-/

set_option autoImplicit false

namespace SpecLexicon.Registry

/-- What a registry holds apart from its listeners and from what it did to the outside. -/
def core (registry : Registry) : Registry :=
  { registry with listeners := [], known := .empty, calls := 0, events := [] }

@[simp] theorem core_recordAll (records : List Record) (registry : Registry) :
    (registry.recordAll records).core = registry.core := rfl

theorem settings_eq_of_core_eq {left right : Registry} (same : left.core = right.core) :
    left.settings = right.settings := by
  have projected := congrArg Registry.settings same
  exact projected

theorem store_eq_of_core_eq {left right : Registry} (same : left.core = right.core) :
    left.store = right.store := by
  have projected := congrArg Registry.store same
  exact projected

/-!
## Snippets rebuilt from what is there
-/

def snippetStore (registry : Registry) : Store :=
  if (registry.store.map? Source.snippet .snippet).isSome && registry.settings.templates.isRow then
    registry.store.setMap Source.snippet .snippet (registry.compileSnippets .empty).items
  else registry.store

/-- The registry after a rebuild of the snippets of which nobody is told. -/
def withSnippets (registry : Registry) : Registry :=
  { registry with store := registry.snippetStore }

theorem compileSnippets_eq (registry : Registry) (target : ItemMap) :
    registry.compileSnippets target = registry.compileSnippets .empty := rfl

theorem compileSnippets_congr {left right : Registry} {target : ItemMap}
    (templates : left.settings.templates = right.settings.templates)
    (motors : left.store.map? Source.motor .member = right.store.map? Source.motor .member)
    (counters : left.store.map? Source.counter .member = right.store.map? Source.counter .member) :
    left.compileSnippets target = right.compileSnippets target := by
  rw [compileSnippets, compileSnippets, templateLines, templateLines, templates,
    Store.names_congr motors, Store.names_congr counters]

theorem map?_snippetStore_of_kind_ne {kind : Kind} (different : kind ≠ .snippet)
    (registry : Registry) (uri : String) :
    registry.snippetStore.map? uri kind = registry.store.map? uri kind := by
  rw [snippetStore]
  split
  · exact Store.map?_setMap_of_kind_ne different _ _ _ _
  · rfl

theorem isSome_map?_snippetStore (registry : Registry) :
    (registry.snippetStore.map? Source.snippet .snippet).isSome =
      (registry.store.map? Source.snippet .snippet).isSome := by
  rw [snippetStore]
  split
  · rw [Store.map?_setMap_self, Option.isSome_map]
  · rfl

theorem compileSnippets_withSnippets (registry : Registry) (target : ItemMap) :
    registry.withSnippets.compileSnippets target = registry.compileSnippets target :=
  compileSnippets_congr rfl
    (map?_snippetStore_of_kind_ne (by decide) registry Source.motor)
    (map?_snippetStore_of_kind_ne (by decide) registry Source.counter)

theorem withSnippets_withSnippets (registry : Registry) :
    registry.withSnippets.withSnippets = registry.withSnippets := by
  have settled : registry.withSnippets.snippetStore = registry.snippetStore := by
    rw [snippetStore, compileSnippets_withSnippets]
    change (if (registry.snippetStore.map? Source.snippet .snippet).isSome &&
        registry.settings.templates.isRow then
      registry.snippetStore.setMap Source.snippet .snippet (registry.compileSnippets .empty).items
      else registry.snippetStore) = registry.snippetStore
    rw [isSome_map?_snippetStore]
    by_cases fitting : ((registry.store.map? Source.snippet .snippet).isSome &&
        registry.settings.templates.isRow) = true
    · rw [if_pos fitting, snippetStore, if_pos fitting, Store.setMap_setMap]
    · rw [if_neg fitting]
  rw [withSnippets, settled]
  rfl

@[simp] theorem core_withSnippets (registry : Registry) :
    registry.withSnippets.core = registry.core.withSnippets := rfl

theorem map?_snippetStore {registry : Registry}
    (present : (registry.store.map? Source.snippet .snippet).isSome = true)
    (row : registry.settings.templates.isRow = true) :
    registry.snippetStore.map? Source.snippet .snippet =
      some (registry.compileSnippets .empty).items := by
  rw [snippetStore, if_pos (by rw [present, row]; rfl), Store.map?_setMap_self]
  obtain ⟨items, found⟩ := Option.isSome_iff_exists.mp present
  rw [found]
  rfl

/-!
## Announcements
-/

/-- The later registry holds what the earlier one holds, but for a rebuild of the snippets. -/
def Refreshes (earlier later : Registry) : Prop :=
  later.core = earlier.core ∨ later.core = earlier.core.withSnippets

namespace Refreshes

theorem of_core_eq {earlier later : Registry} (same : later.core = earlier.core) :
    Refreshes earlier later :=
  .inl same

theorem trans {first second third : Registry} (early : Refreshes first second)
    (late : Refreshes second third) : Refreshes first third := by
  rcases early with kept | rebuilt
  · rw [Refreshes, kept] at late
    exact late
  · rw [Refreshes, rebuilt, withSnippets_withSnippets, or_self] at late
    exact .inr late

theorem core_eq {earlier later : Registry} (refreshed : Refreshes earlier later)
    (settled : earlier.core.withSnippets = earlier.core) : later.core = earlier.core := by
  rcases refreshed with kept | rebuilt
  · exact kept
  · rw [rebuilt, settled]

theorem settings_eq {earlier later : Registry} (refreshed : Refreshes earlier later) :
    later.settings = earlier.settings := by
  rcases refreshed with kept | rebuilt
  · exact settings_eq_of_core_eq kept
  · rw [← core_withSnippets] at rebuilt
    have same := settings_eq_of_core_eq rebuilt
    exact same

end Refreshes

variable {rebuild : Registry → Registry}

theorem callListener_refreshes (rebuilds : ∀ registry, Refreshes registry (rebuild registry))
    (uri : String) (registry : Registry) (name : String) :
    Refreshes registry (callListener rebuild uri registry name) := by
  have entered : Refreshes registry
      { registry.emit (.called name uri) with calls := registry.calls + 1 } := .of_core_eq rfl
  have rebuilt := entered.trans (rebuilds _)
  simp only [callListener]
  split
  case h_1 => exact .of_core_eq rfl
  case h_2 => exact .of_core_eq rfl
  case h_3 => exact .of_core_eq rfl
  case h_4 => exact .of_core_eq rfl
  case h_5 =>
    split
    · exact rebuilt
    · exact rebuilt.trans (.of_core_eq rfl)

theorem notifyWith_refreshes (rebuilds : ∀ registry, Refreshes registry (rebuild registry))
    (uri : String) (registry : Registry) :
    Refreshes registry (notifyWith rebuild uri registry) := by
  have called : ∀ (names : List String) (start : Registry),
      Refreshes start (names.foldl (callListener rebuild uri) start) := by
    intro names
    induction names with
    | nil => exact fun start => .of_core_eq rfl
    | cons name rest ih =>
      intro start
      exact (callListener_refreshes rebuilds uri start name).trans (ih _)
  exact .trans (.of_core_eq rfl) (called _ _)

/-- A rebuild of the snippets changes the snippets alone, whatever listeners ask for meanwhile. -/
theorem core_updateSnippetsWithin_succ {depth : Nat}
    (rebuilds : ∀ registry, Refreshes registry (updateSnippetsWithin depth registry))
    (registry : Registry) :
    (updateSnippetsWithin (depth + 1) registry).core = registry.core.withSnippets := by
  rw [updateSnippetsWithin]
  cases found : registry.store.map? Source.snippet .snippet with
  | none =>
    have same : registry.snippetStore = registry.store := by simp [snippetStore, found]
    rw [← core_withSnippets, withSnippets, same]
  | some target =>
    by_cases row : registry.settings.templates.isRow = true
    · have stored : registry.store.setMap Source.snippet .snippet
          (registry.compileSnippets target).items = registry.snippetStore := by
        simp [snippetStore, found, row, compileSnippets_eq registry target]
      simp only [row, if_true, stored]
      split
      · rfl
      · -- A nested rebuild compiles the same snippets, so what was stored stays.
        exact (notifyWith_refreshes rebuilds _ _).core_eq (withSnippets_withSnippets registry.core)
    · have same : registry.snippetStore = registry.store := by simp [snippetStore, row]
      simp only [row, Bool.false_eq_true, if_false]
      rw [← core_withSnippets, withSnippets, same]

theorem updateSnippetsWithin_refreshes (depth : Nat) (registry : Registry) :
    Refreshes registry (updateSnippetsWithin depth registry) := by
  induction depth generalizing registry with
  | zero => exact .of_core_eq rfl
  | succ depth ih => exact .inr (core_updateSnippetsWithin_succ ih registry)

theorem core_updateSnippets (registry : Registry) :
    (updateSnippets registry).core = registry.core.withSnippets :=
  core_updateSnippetsWithin_succ (updateSnippetsWithin_refreshes nestingLimit) registry

theorem updateSnippets_refreshes (registry : Registry) :
    Refreshes registry (updateSnippets registry) :=
  .inr (core_updateSnippets registry)

theorem notify_refreshes (uri : String) (registry : Registry) :
    Refreshes registry (registry.notify uri) :=
  notifyWith_refreshes updateSnippets_refreshes uri registry

/-- The registry after a rebuild of motors or counters of which nobody is told. -/
def withMnemonics (uri : String) (lines : List LooseText) (registry : Registry) : Registry :=
  { registry with
    store := registry.store.setMap uri .member (Mnemonic.rebuild .empty lines).items }

/-- What a rebuild of motors or counters leaves, be their lines flawed or not. -/
theorem core_updateMnemonics_eq (uri : String) (lines : Lines) (registry : Registry) :
    (updateMnemonics uri lines registry).core =
      if (registry.core.store.map? uri .member).isSome then
        if lines.flaw?.isSome then registry.core.withMnemonics uri lines.readable
        else (registry.core.withMnemonics uri lines.readable).withSnippets
      else registry.core := by
  change _ = if (registry.store.map? uri .member).isSome then _ else _
  cases found : registry.store.map? uri .member with
  | none => simp [updateMnemonics, found]
  | some target =>
    cases flaw : lines.flaw? with
    | some fault =>
      simp only [updateMnemonics, found, flaw, rebuildMnemonics, Option.isSome_some, if_true]
      rfl
    | none =>
      have announced : Refreshes (registry.withMnemonics uri lines.readable)
          (registry.rebuildMnemonics uri lines target) := by
        simp only [rebuildMnemonics, flaw]
        exact notify_refreshes uri _
      simp only [updateMnemonics, found, flaw, Option.isSome_some, Option.isSome_none, if_true,
        Bool.false_eq_true, if_false]
      rw [core_updateSnippets]
      -- The snippets that a listener asked for are compiled again behind the members anyway.
      rcases announced with kept | rebuilt
      · rw [kept]
        rfl
      · rw [rebuilt, withSnippets_withSnippets]
        rfl

theorem core_updateMnemonics {uri : String} {registry : Registry}
    (present : (registry.store.map? uri .member).isSome = true) (lines : List LooseText) :
    (updateMnemonics uri (.texts lines) registry).core =
      (registry.core.withMnemonics uri lines).withSnippets := by
  have held : (registry.core.store.map? uri .member).isSome = true := present
  rw [core_updateMnemonics_eq, if_pos held, Lines.flaw?_texts, Lines.readable_texts]
  exact if_neg Bool.false_ne_true

end SpecLexicon.Registry
