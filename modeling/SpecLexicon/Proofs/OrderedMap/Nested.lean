import Mathlib.Data.List.Nodup
import SpecLexicon.Proofs.OrderedMap

/-!
# Lists under keys

A map whose values stand for lists falls apart into the elements of these lists, each with the key
that it stands under. One key selects its own list, and writing under a key keeps all elements under
the other keys.
-/

set_option autoImplicit false

namespace SpecLexicon.OrderedMap

variable {α β γ : Type}

/-- The elements of the lists under the keys of a map, each with its key, in order. -/
def elements (list : β → List γ) (map : OrderedMap α β) : List (α × γ) :=
  map.toList.flatMap fun (key, value) => (list value).map fun element => (key, element)

theorem nodup_elements {list : β → List γ} {map : OrderedMap α β}
    (distinct : ∀ entry ∈ map.toList, (list entry.2).Nodup) : (elements list map).Nodup := by
  rw [elements, List.nodup_flatMap]
  constructor
  · intro entry member
    exact (distinct entry member).map fun _ _ same => (Prod.mk.inj same).2
  · refine (List.pairwise_map.mp map.keys_nodup).imp fun different element here there => ?_
    obtain ⟨_, _, rfl⟩ := List.mem_map.mp here
    obtain ⟨_, _, same⟩ := List.mem_map.mp there
    exact different (Prod.mk.inj same).1.symm

theorem filter_elements (chosen : α → Bool) (list : β → List γ) (map : OrderedMap α β) :
    (elements list map).filter (fun element => chosen element.1) =
      (map.toList.filter fun entry => chosen entry.1).flatMap fun (key, value) =>
        (list value).map fun element => (key, element) := by
  unfold elements
  induction map.toList with
  | nil => rfl
  | cons entry rest ih =>
    rw [List.flatMap_cons, List.filter_append, ih, List.filter_map]
    by_cases selected : chosen entry.1 = true
    · simp [selected, Function.comp_def]
    · simp [selected, Function.comp_def]

theorem map_elements {δ : Type} (change : γ → δ) (list : β → List γ) (map : OrderedMap α β) :
    ((elements list map).map fun (key, element) => (key, change element)) =
      elements (fun value => (list value).map change) map := by
  simp [elements, List.map_flatMap, Function.comp_def]

variable [DecidableEq α]

theorem mem_elements_iff {list : β → List γ} {map : OrderedMap α β} {key : α} {element : γ} :
    (key, element) ∈ elements list map ↔
      ∃ value, map.get? key = some value ∧ element ∈ list value := by
  simp only [get?_eq_some_iff]
  constructor
  · intro member
    obtain ⟨⟨_, value⟩, stored, shown⟩ := List.mem_flatMap.mp member
    obtain ⟨_, listed, same⟩ := List.mem_map.mp shown
    cases same
    exact ⟨value, stored, listed⟩
  · rintro ⟨value, stored, listed⟩
    exact List.mem_flatMap.mpr ⟨_, stored, List.mem_map.mpr ⟨_, listed, rfl⟩⟩

/-- A key selects its own list. -/
theorem filterMap_elements (list : β → List γ) (map : OrderedMap α β) (key : α) :
    ((elements list map).filterMap fun (other, element) =>
      if other = key then some element else none) = ((map.get? key).map list).getD [] := by
  have distinct := map.keys_nodup
  unfold get? elements
  generalize map.toList = entries at distinct
  induction entries with
  | nil => rfl
  | cons entry rest ih =>
    obtain ⟨other, value⟩ := entry
    obtain ⟨absent, others⟩ := List.nodup_cons.mp distinct
    rw [List.flatMap_cons, List.filterMap_append, ih others]
    by_cases same : other = key
    · subst same
      simp [lookup, lookup_eq_none_iff.mpr absent, List.filterMap_map]
    · simp [lookup, same, List.filterMap_map]

/-- Writing a longer list under a key loses no element and moves none past another. -/
theorem elements_sublist_insert {list : β → List γ} {map : OrderedMap α β} {key : α} {value : β}
    (longer : (((map.get? key).map list).getD []).Sublist (list value)) :
    (elements list map).Sublist (elements list (map.insert key value)) := by
  unfold get? at longer
  unfold elements insert
  dsimp only
  generalize map.toList = entries at longer ⊢
  induction entries with
  | nil => exact List.nil_sublist _
  | cons entry rest ih =>
    obtain ⟨other, previous⟩ := entry
    by_cases same : other = key
    · subst same
      simp only [lookup, if_true, Option.map_some, Option.getD_some] at longer
      rw [write, if_pos rfl, List.flatMap_cons, List.flatMap_cons]
      exact (longer.map _).append (List.Sublist.refl _)
    · simp only [lookup, if_neg same] at longer
      rw [write, if_neg same, List.flatMap_cons, List.flatMap_cons]
      exact (List.Sublist.refl _).append (ih longer)

end SpecLexicon.OrderedMap
