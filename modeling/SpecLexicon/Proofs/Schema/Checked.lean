import SpecLexicon.Schema.Item

/-!
# Laws of checks

What a check built from others accepts: a whole is accepted exactly when all of its parts are, and
its value is made of theirs. A list that was written element by element is accepted when its
elements are.
-/

set_option autoImplicit false

namespace SpecLexicon.Schema

variable {α β : Type}

namespace Checked

@[simp] theorem within_valid (step : Step) (value : α) :
    (valid value).within step = .valid value := rfl

@[simp] theorem map_valid (f : α → β) (value : α) : (valid value).map f = .valid (f value) := rfl

@[simp] theorem both_valid (left : α) (right : β) :
    (valid left).both (valid right) = .valid (left, right) := rfl

theorem map_map {γ : Type} (f : α → β) (g : β → γ) (checked : Checked α) :
    (checked.map f).map g = checked.map fun value => g (f value) := by
  cases checked <;> rfl

theorem within_map (f : α → β) (step : Step) (checked : Checked α) :
    (checked.map f).within step = (checked.within step).map f := by
  cases checked <;> rfl

theorem both_map_left {γ : Type} (f : α → γ) (left : Checked α) (right : Checked β) :
    (left.map f).both right = (left.both right).map (Prod.map f id) := by
  cases left <;> cases right <;> rfl

theorem both_map_right {γ : Type} (f : β → γ) (left : Checked α) (right : Checked β) :
    left.both (right.map f) = (left.both right).map (Prod.map id f) := by
  cases left <;> cases right <;> rfl

theorem map_andThen {γ : Type} (f : β → γ) (checked : Checked α) (next : α → Checked β) :
    (checked.andThen next).map f = checked.andThen fun value => (next value).map f := by
  cases checked <;> rfl

/-- Two checks of a list agree up to a change of the results if they do so on its items. -/
theorem all_eq_map {γ : Type} {check : α → Checked β} {other : α → Checked γ} {f : β → γ}
    {items : List α} (same : ∀ item ∈ items, other item = (check item).map f) :
    all other items = (all check items).map (List.map f) := by
  induction items with
  | nil => rfl
  | cons item rest ih =>
    rw [all, all, same item List.mem_cons_self,
      ih fun later member => same later (List.mem_cons_of_mem item member), both_map_left,
      both_map_right]
    simp only [map_map]
    rfl

theorem within_eq_valid_iff {step : Step} {checked : Checked α} {value : α} :
    checked.within step = .valid value ↔ checked = .valid value := by
  cases checked <;> simp [within]

theorem map_eq_valid_iff {f : α → β} {checked : Checked α} {result : β} :
    checked.map f = .valid result ↔ ∃ value, checked = .valid value ∧ f value = result := by
  cases checked <;> simp [map]

theorem andThen_eq_valid_iff {next : α → Checked β} {checked : Checked α} {result : β} :
    checked.andThen next = .valid result ↔
      ∃ value, checked = .valid value ∧ next value = .valid result := by
  cases checked <;> simp [andThen]

theorem both_eq_valid_iff {left : Checked α} {right : Checked β} {pair : α × β} :
    left.both right = .valid pair ↔ left = .valid pair.1 ∧ right = .valid pair.2 := by
  cases left <;> cases right <;> simp [both, Prod.ext_iff]

theorem all_map_eq_valid {γ : Type} {check : β → Checked γ} {write : α → β} (read : α → γ)
    (items : List α) (accepted : ∀ item ∈ items, check (write item) = .valid (read item)) :
    all check (items.map write) = .valid (items.map read) := by
  induction items with
  | nil => rfl
  | cons item rest ih =>
    rw [List.map_cons, all, accepted item List.mem_cons_self,
      ih fun other member => accepted other (List.mem_cons_of_mem _ member)]
    rfl

/-- Whatever stands in an accepted list was accepted. -/
theorem exists_of_mem_all {check : α → Checked β} {items : List α} {found : List β}
    (accepted : all check items = .valid found) :
    ∀ result ∈ found, ∃ item ∈ items, check item = .valid result := by
  induction items generalizing found with
  | nil =>
    cases accepted
    exact fun _ member => absurd member List.not_mem_nil
  | cons item rest ih =>
    obtain ⟨⟨first, others⟩, parts, rfl⟩ := map_eq_valid_iff.mp accepted
    obtain ⟨firstAccepted, othersAccepted⟩ := both_eq_valid_iff.mp parts
    intro result member
    rcases List.mem_cons.mp member with rfl | later
    · exact ⟨item, List.mem_cons_self, firstAccepted⟩
    · obtain ⟨other, otherMember, otherAccepted⟩ := ih othersAccepted result later
      exact ⟨other, List.mem_cons_of_mem _ otherMember, otherAccepted⟩

/-- What is accepted of a list tells its items, if what is accepted of one item does. -/
theorem map_eq_of_all {γ : Type} {check : α → Checked β} {part : α → γ} {write : β → γ}
    (tells : ∀ item result, check item = .valid result → part item = write result)
    {items : List α} {found : List β} (accepted : all check items = .valid found) :
    items.map part = found.map write := by
  induction items generalizing found with
  | nil =>
    cases accepted
    rfl
  | cons item rest ih =>
    obtain ⟨⟨first, others⟩, parts, rfl⟩ := map_eq_valid_iff.mp accepted
    obtain ⟨firstAccepted, othersAccepted⟩ := both_eq_valid_iff.mp parts
    rw [List.map_cons, List.map_cons, tells item first firstAccepted, ih othersAccepted]

end Checked

theorem required_of_field? {name : String} {check : Json → Checked α} {json : Json} {value : α}
    {fields : List (LooseText × Json)} (found : Json.field? name fields = some json)
    (accepted : check json = .valid value) : required name check fields = .valid value := by
  simp [required, found, accepted]

theorem defaulted_of_field? {name : String} {absent : α} {check : Json → Checked α} {json : Json}
    {value : α} {fields : List (LooseText × Json)} (found : Json.field? name fields = some json)
    (accepted : check json = .valid value) : defaulted name absent check fields = .valid value := by
  simp [defaulted, found, accepted]

theorem optional_of_field? {name : String} {check : Json → Checked α} {json : Json}
    {value : Option α} {fields : List (LooseText × Json)}
    (found : Json.field? name fields = some json) (accepted : nullable check json = .valid value) :
    Schema.optional name check fields = .valid value :=
  defaulted_of_field? found accepted

theorem listOf_map {check : Json → Checked α} {write : α → Json}
    (accepted : ∀ item, check (write item) = .valid item) (items : List α) :
    listOf check (.list (items.map write)) = .valid items := by
  have read : Checked.all (fun item : Json × Nat => (check item.1).within (.index item.2))
      (items.zipIdx.map (Prod.map write id)) = .valid (items.zipIdx.map Prod.fst) :=
    Checked.all_map_eq_valid Prod.fst items.zipIdx fun item _ => by
      rw [Prod.map_fst, accepted, Checked.within]
  rw [listOf, List.zipIdx_map, read, List.zipIdx_map_fst]

theorem nullable_of_valid {check : Json → Checked α} {json : Json} {value : α}
    (present : json ≠ .null) (accepted : check json = .valid value) :
    nullable check json = .valid (some value) := by
  cases json with
  | null => exact absurd rfl present
  | bool | integer | real | string | list | object => simp only [nullable, accepted, Checked.map]

theorem model_eq_valid_iff {check : List (LooseText × Json) → Checked α} {json : Json} {value : α} :
    model check json = .valid value ↔
      ∃ fields, json = .object fields ∧ check fields = .valid value := by
  cases json <;> simp [model, Checked.fault]

theorem required_eq_valid_iff {name : String} {check : Json → Checked α}
    {fields : List (LooseText × Json)} {value : α} :
    required name check fields = .valid value ↔
      ∃ json, Json.field? name fields = some json ∧ check json = .valid value := by
  cases found : Json.field? name fields with
  | none => simp [required, found, Checked.fault, Checked.within]
  | some json => simp [required, found, Checked.within_eq_valid_iff]

theorem defaulted_eq_valid {name : String} {absent : α} {check : Json → Checked α}
    {fields : List (LooseText × Json)} {value : α}
    (accepted : defaulted name absent check fields = .valid value) :
    value = absent ∨ ∃ json, Json.field? name fields = some json ∧ check json = .valid value := by
  cases found : Json.field? name fields with
  | none =>
    rw [defaulted, found] at accepted
    cases accepted
    exact .inl rfl
  | some json =>
    rw [defaulted, found] at accepted
    exact .inr ⟨json, rfl, Checked.within_eq_valid_iff.mp accepted⟩

theorem nullable_eq_valid_some {check : Json → Checked α} {json : Json} {value : α}
    (accepted : nullable check json = .valid (some value)) : check json = .valid value := by
  cases json with
  | null => cases accepted
  | bool | integer | real | string | list | object =>
    obtain ⟨found, checked, same⟩ := Checked.map_eq_valid_iff.mp accepted
    cases same
    exact checked

theorem optional_eq_valid_some {name : String} {check : Json → Checked α}
    {fields : List (LooseText × Json)} {value : α}
    (accepted : Schema.optional name check fields = .valid (some value)) :
    ∃ json, Json.field? name fields = some json ∧ check json = .valid value := by
  rcases defaulted_eq_valid accepted with absent | ⟨json, found, checked⟩
  · cases absent
  · exact ⟨json, found, nullable_eq_valid_some checked⟩

end SpecLexicon.Schema
