import SpecLexicon.Proofs.Registry.Rebuilding

/-!
# What rebuilds leave alone

A rebuild replaces the symbols of one kind of one source, then those of the snippets, and tells
whoever listens. A view of a registry that shows none of this is steady: it is the same after every
reaction to a change of the configuration, be it stopped or not.
-/

set_option autoImplicit false

namespace SpecLexicon.Registry

variable {α β γ : Type} {view : Registry → γ}

/-- The action leaves a view of the registry as it is, even when it is refused. -/
def Keeps (view : Registry → γ) (action : Action α) : Prop :=
  ∀ registry, view (outcome action registry).2 = view registry

namespace Keeps

theorem bind {first : Action α} {next : α → Action β} (early : Keeps view first)
    (late : ∀ value, Keeps view (next value)) : Keeps view (first >>= next) := by
  intro registry
  have kept := early registry
  rw [outcome_bind]
  generalize outcome first registry = result at kept
  obtain ⟨given, changed⟩ := result
  cases given with
  | ok value => exact (late value changed).trans kept
  | error fault => exact kept

theorem attempt {fault? : Registry → Option Fault} {change : Registry → Registry}
    (keeps : ∀ registry, view (change registry) = view registry) :
    Keeps view (attempt fault? change) := by
  intro registry
  rw [outcome_attempt]
  exact keeps registry

end Keeps

/-- The view shows nothing of listeners, events, and replaced symbols. -/
structure IsSteady (view : Registry → γ) : Prop where
  refreshed : ∀ {earlier later : Registry}, Refreshes earlier later → view later = view earlier
  replaced : ∀ (registry : Registry) (uri : String) (items : ItemMap),
    view { registry with store := registry.store.setMap uri .member items } = view registry

/-- A view of the store is steady if no replaced symbols show in it. -/
theorem isSteady_of_setMap (look : Store → γ)
    (same : ∀ store uri kind items, look (store.setMap uri kind items) = look store) :
    IsSteady fun registry => look registry.store where
  refreshed := by
    intro earlier later refreshed
    rcases refreshed with kept | rebuilt
    · exact congrArg look (store_eq_of_core_eq kept)
    · rw [← core_withSnippets] at rebuilt
      refine (congrArg look (store_eq_of_core_eq rebuilt)).trans ?_
      change look earlier.snippetStore = look earlier.store
      rw [snippetStore]
      split
      · exact same _ _ _ _
      · rfl
  replaced := fun registry uri items => same registry.store uri .member items

namespace IsSteady

theorem notify (steady : IsSteady view) (uri : String) (registry : Registry) :
    view (registry.notify uri) = view registry :=
  steady.refreshed (notify_refreshes uri registry)

theorem updateSnippets (steady : IsSteady view) (registry : Registry) :
    view (Registry.updateSnippets registry) = view registry :=
  steady.refreshed (updateSnippets_refreshes registry)

theorem recordAll (steady : IsSteady view) (records : List Record) (registry : Registry) :
    view (registry.recordAll records) = view registry :=
  steady.refreshed (.of_core_eq (core_recordAll records registry))

theorem updateMnemonics (steady : IsSteady view) (uri : String) (lines : Lines)
    (registry : Registry) : view (Registry.updateMnemonics uri lines registry) = view registry := by
  rw [Registry.updateMnemonics]
  split
  · rfl
  · rename_i target _
    have stored := (steady.replaced (registry.recordAll (Mnemonic.rebuild target
      lines.readable).journal) uri (Mnemonic.rebuild target lines.readable).items).trans
        (steady.recordAll _ registry)
    have rebuilt : view (registry.rebuildMnemonics uri lines target) = view registry := by
      simp only [rebuildMnemonics]
      split
      · exact stored
      · exact (steady.notify uri _).trans ((steady.recordAll [_] _).trans stored)
    dsimp only
    split
    · exact rebuilt
    · exact (steady.updateSnippets _).trans rebuilt

theorem requestSnippets (steady : IsSteady view) : Keeps view Registry.requestSnippets :=
  .attempt steady.updateSnippets

theorem requestMnemonics (steady : IsSteady view) (uri : String) (lines : Lines) :
    Keeps view (Registry.requestMnemonics uri lines) :=
  .attempt (steady.updateMnemonics uri lines)

theorem mnemonicsWhen (steady : IsSteady view) (affected : Bool) (uri : String) :
    Keeps view (Registry.mnemonicsWhen affected uri) := by
  intro registry
  rw [outcome_mnemonicsWhen]
  split
  · exact steady.updateMnemonics uri _ registry
  · rfl

theorem rebuildAffected (steady : IsSteady view) (change : Change) :
    Keeps view (Registry.rebuildAffected change) := by
  rw [rebuildAffected_eq]
  refine (steady.mnemonicsWhen _ _).bind fun _ => (steady.mnemonicsWhen _ _).bind fun _ => ?_
  split
  · exact steady.requestSnippets
  · exact fun _ => rfl

end IsSteady

end SpecLexicon.Registry
