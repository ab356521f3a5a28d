import SpecLexicon.Proofs.Registry.Listening
import SpecLexicon.Proofs.Registry.Operation

/-!
# Derived symbols

Motors and counters are built from their lines, and the snippets from the templates and the names of
both. Each of the three has its place in the store and shares it with no other source. So a rebuild
of one source replaces the symbols of that source, rebuilds the snippets, and leaves the other
source as it is; loading a database or a document touches none of them.
-/

set_option autoImplicit false

namespace SpecLexicon

/-- The symbols that lines of motors or counters stand for. -/
def Mnemonic.symbols (lines : Lines) : ItemMap :=
  (rebuild .empty lines.readable).items

def Settings.linesOf (settings : Settings) (uri : String) : Lines :=
  if uri = Source.motor then settings.motors else settings.counters

def Settings.symbols (settings : Settings) (uri : String) : ItemMap :=
  Mnemonic.symbols (settings.linesOf uri)

theorem Settings.IsProper.linesOf {settings : Settings} (proper : settings.IsProper)
    (uri : String) : (settings.linesOf uri).IsProper := by
  rw [Settings.linesOf]
  split
  · exact proper.motors
  · exact proper.counters

namespace Registry

def mnemonicSources : List String := [Source.motor, Source.counter]

theorem mem_mnemonicSources {uri : String} :
    uri ∈ mnemonicSources ↔ uri = Source.motor ∨ uri = Source.counter := by
  simp [mnemonicSources]

/-- Motors and counters hold given symbols, the snippets have their place, and nothing is shared. -/
structure Holds (symbols : String → ItemMap) (registry : Registry) : Prop where
  unshared : registry.store.shares = .empty
  mnemonics : ∀ uri ∈ mnemonicSources, registry.store.map? uri .member = some (symbols uri)
  place : (registry.store.map? Source.snippet .snippet).isSome = true

/-- The snippets are those of the present templates, motors and counters. -/
def SnippetsCurrent (registry : Registry) : Prop :=
  registry.store.map? Source.snippet .snippet = some (registry.compileSnippets .empty).items

theorem SnippetsCurrent.congr {left right : Registry} (current : SnippetsCurrent left)
    (templates : right.settings.templates = left.settings.templates)
    (store : right.store = left.store) : SnippetsCurrent right := by
  rw [SnippetsCurrent, store, compileSnippets_congr templates (by rw [store]) (by rw [store])]
  exact current

namespace Holds

variable {symbols : String → ItemMap} {registry : Registry}

theorem congr {other : Registry} (holds : Holds symbols registry)
    (store : other.store = registry.store) : Holds symbols other := by
  refine ⟨?_, ?_, ?_⟩
  · rw [store]
    exact holds.unshared
  · rw [store]
    exact holds.mnemonics
  · rw [store]
    exact holds.place

theorem isSome_map? {uri : String} (holds : Holds symbols registry)
    (member : uri ∈ mnemonicSources) : (registry.store.map? uri .member).isSome = true := by
  rw [holds.mnemonics uri member]
  rfl

theorem withSnippets (holds : Holds symbols registry) : Holds symbols registry.withSnippets := by
  refine ⟨?_, ?_, ?_⟩
  · change registry.snippetStore.shares = .empty
    rw [snippetStore]
    split
    · exact holds.unshared
    · exact holds.unshared
  · intro uri member
    exact (map?_snippetStore_of_kind_ne (by decide) registry uri).trans
      (holds.mnemonics uri member)
  · exact (isSome_map?_snippetStore registry).trans holds.place

theorem of_refreshes {later : Registry} (holds : Holds symbols registry)
    (refreshed : Refreshes registry later) : Holds symbols later := by
  rcases refreshed with kept | rebuilt
  · exact holds.congr (store_eq_of_core_eq kept)
  · rw [← core_withSnippets] at rebuilt
    exact holds.withSnippets.congr (store_eq_of_core_eq rebuilt)

theorem snippetsCurrent (holds : Holds symbols registry)
    (row : registry.settings.templates.isRow = true) : SnippetsCurrent registry.withSnippets := by
  rw [SnippetsCurrent, compileSnippets_withSnippets]
  exact map?_snippetStore holds.place row

theorem withSnippets_eq_self (holds : Holds symbols registry)
    (current : SnippetsCurrent registry) : registry.withSnippets = registry := by
  have same : registry.snippetStore = registry.store := by
    rw [snippetStore]
    split
    · exact Store.setMap_eq_self holds.unshared current
    · rfl
  rw [Registry.withSnippets, same]

/-- Whatever listeners do to current snippets, the registry holds what it held. -/
theorem core_eq_of_refreshes {later : Registry} (holds : Holds symbols registry)
    (current : SnippetsCurrent registry) (refreshed : Refreshes registry later) :
    later.core = registry.core := by
  apply refreshed.core_eq
  rw [← core_withSnippets, holds.withSnippets_eq_self current]

theorem withMnemonics (holds : Holds symbols registry) (uri : String) (lines : List LooseText) :
    Holds (fun other => if other = uri then Mnemonic.symbols (.texts lines) else symbols other)
      (registry.withMnemonics uri lines) := by
  refine ⟨holds.unshared, ?_, ?_⟩
  · intro other member
    change (registry.store.setMap uri .member _).map? other .member = _
    rw [Store.map?_setMap holds.unshared, holds.mnemonics other member]
    by_cases same : other = uri
    · simp [same, Mnemonic.symbols]
    · simp [same, Ne.symm same]
  · change ((registry.store.setMap uri .member _).map? Source.snippet .snippet).isSome = true
    rw [Store.map?_setMap_of_kind_ne (by decide)]
    exact holds.place

theorem install {uri : String} (holds : Holds symbols registry)
    (elsewhere : uri ∉ Source.snippet :: mnemonicSources) (partition : Partition) :
    Holds symbols { registry with store := registry.store.install uri partition } := by
  refine ⟨Store.shares_install holds.unshared uri partition, ?_, ?_⟩
  · intro other member
    have different : uri ≠ other := by
      rintro rfl
      exact elsewhere (List.mem_cons_of_mem _ member)
    exact (Store.map?_install_of_ne different _ _ _).trans (holds.mnemonics other member)
  · have different : uri ≠ Source.snippet := by
      rintro rfl
      exact elsewhere List.mem_cons_self
    change ((registry.store.install uri partition).map? Source.snippet .snippet).isSome = true
    rw [Store.map?_install_of_ne different]
    exact holds.place

end Holds

theorem SnippetsCurrent.install {registry : Registry} {uri : String}
    (current : SnippetsCurrent registry)
    (elsewhere : uri ∉ Source.snippet :: mnemonicSources) (partition : Partition) :
    SnippetsCurrent { registry with store := registry.store.install uri partition } := by
  have kept : ∀ (other : String) (kind : Kind), other ∈ Source.snippet :: mnemonicSources →
      (registry.store.install uri partition).map? other kind = registry.store.map? other kind := by
    intro other kind member
    apply Store.map?_install_of_ne
    rintro rfl
    exact elsewhere member
  have compiled : compileSnippets { registry with
      store := registry.store.install uri partition } .empty = registry.compileSnippets .empty :=
    compileSnippets_congr rfl (kept Source.motor .member (by decide))
      (kept Source.counter .member (by decide))
  rw [SnippetsCurrent, compiled]
  exact (kept Source.snippet .snippet (by decide)).trans current

end Registry

end SpecLexicon
