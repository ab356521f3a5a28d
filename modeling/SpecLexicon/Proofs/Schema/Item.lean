import SpecLexicon.Proofs.Schema.Checked

/-!
# Symbols written and read

A symbol, its call forms and its place are accepted in the form in which they are written, and give
what was written. Whatever else is accepted is an object, and each part was read from a field of it.
-/

set_option autoImplicit false

namespace SpecLexicon

namespace Schema

theorem nonEmpty_text {text : String} (filled : text ≠ "") :
    nonEmpty (.string text) = .valid ⟨text, filled⟩ :=
  dif_pos filled

theorem visible_text {text : String} (shown : IsVisible text) :
    visible (.string text) = .valid ⟨text, shown⟩ := by
  have filled : text ≠ "" := by
    rintro rfl
    exact shown (by decide)
  rw [visible, nonEmpty_text filled]
  exact dif_pos shown

theorem string_ofText {τ : Type} [TextForm τ] (text : τ) :
    string (Json.ofText text) = .valid text :=
  TextForm.read_write text

theorem nullable_orNull {α : Type} {check : Json → Checked α} {write : α → Json}
    (present : ∀ value, write value ≠ .null)
    (accepted : ∀ value, check (write value) = .valid value) (value : Option α) :
    nullable check (Json.orNull write value) = .valid value := by
  cases value with
  | none => rfl
  | some value => exact nullable_of_valid (present value) (accepted value)

theorem nullable_ofText {τ : Type} [TextForm τ] (text : Option τ) :
    nullable string (Json.orNull Json.ofText text) = .valid text :=
  nullable_orNull (by simp [Json.ofText]) string_ofText text

theorem integer_integer (value : Int) : integer (.integer value) = .valid value := rfl

theorem integerFrom_natCast {bound value : Nat} (large : bound ≤ value) :
    integerFrom bound (.integer value) = .valid ⟨value, large⟩ :=
  dif_pos ⟨large, Int.natCast_nonneg value⟩

end Schema

open Schema

theorem Position.ofJson_toJson (position : Position) :
    Position.ofJson position.toJson = .valid position := by
  rw [Position.ofJson, Position.toJson, model,
    defaulted_of_field? rfl (integer_integer position.offset),
    required_of_field? rfl (integerFrom_natCast position.one_le_line),
    required_of_field? rfl (integerFrom_natCast position.one_le_column)]
  rfl

theorem Span.ofJson_toJson (span : Span) : Span.ofJson span.toJson = .valid span := by
  rw [Span.ofJson, Span.toJson, model,
    required_of_field? rfl span.start.ofJson_toJson,
    required_of_field? rfl span.finish.ofJson_toJson]
  rfl

section Texts

variable {τ : Type} [TextForm τ]

theorem Overload.ofJson_toJson (overload : Overload τ) :
    Overload.ofJson overload.toJson = .valid overload := by
  rw [Overload.ofJson, Overload.toJson, model,
    required_of_field? rfl (nonEmpty_text overload.signature_ne_empty),
    optional_of_field? rfl (nullable_ofText overload.description)]
  rfl

theorem nullable_location (location : Option Span) :
    nullable Span.ofJson (Json.orNull Span.toJson location) = .valid location :=
  nullable_orNull (by simp [Span.toJson]) Span.ofJson_toJson location

theorem nullable_overloads (overloads : Option (List (Overload τ))) :
    nullable (listOf Overload.ofJson)
        (Json.orNull (fun overloads => .list (overloads.map Overload.toJson)) overloads) =
      .valid overloads :=
  nullable_orNull (by simp) (listOf_map Overload.ofJson_toJson) overloads

theorem Item.ofJson_toJson (item : Item τ) : Item.ofJson item.toJson = .valid item := by
  rw [Item.ofJson, Item.toJson, model,
    required_of_field? rfl (visible_text item.signature_visible),
    optional_of_field? rfl (nullable_ofText item.description),
    optional_of_field? rfl (nullable_ofText item.comments),
    optional_of_field? rfl (nullable_ofText item.snippet),
    optional_of_field? rfl (nullable_location item.location),
    optional_of_field? rfl (nullable_overloads item.overloads)]
  rfl

end Texts

/-!
## What an accepted object says
-/

structure Position.IsReadFrom (position : Position) (fields : List (LooseText × Json)) : Prop where
  offset : defaulted "offset" 0 integer fields = .valid position.offset
  line : required "line" (integerFrom 1) fields = .valid ⟨position.line, position.one_le_line⟩
  column : required "column" (integerFrom 1) fields =
    .valid ⟨position.column, position.one_le_column⟩

structure Span.IsReadFrom (span : Span) (fields : List (LooseText × Json)) : Prop where
  start : required "start" Position.ofJson fields = .valid span.start
  finish : required "end" Position.ofJson fields = .valid span.finish

structure Item.IsReadFrom {τ : Type} [TextForm τ] (item : Item τ)
    (fields : List (LooseText × Json)) : Prop where
  signature : ∃ filled, required "signature" visible fields = .valid ⟨item.signature, filled⟩
  description : Schema.optional "description" string fields = .valid item.description
  comments : Schema.optional "comments" string fields = .valid item.comments
  snippet : Schema.optional "snippet" string fields = .valid item.snippet
  location : Schema.optional "location" Span.ofJson fields = .valid item.location
  overloads : Schema.optional "overloads" (listOf Overload.ofJson) fields = .valid item.overloads

theorem Position.exists_isReadFrom {json : Json} {position : Position}
    (accepted : Position.ofJson json = .valid position) :
    ∃ fields, json = .object fields ∧ position.IsReadFrom fields := by
  obtain ⟨fields, rfl, checked⟩ := model_eq_valid_iff.mp accepted
  obtain ⟨⟨offset, line, column⟩, parts, rfl⟩ := Checked.map_eq_valid_iff.mp checked
  obtain ⟨offsetRead, parts⟩ := Checked.both_eq_valid_iff.mp parts
  obtain ⟨lineRead, columnRead⟩ := Checked.both_eq_valid_iff.mp parts
  exact ⟨fields, rfl, offsetRead, lineRead, columnRead⟩

theorem Span.exists_isReadFrom {json : Json} {span : Span}
    (accepted : Span.ofJson json = .valid span) :
    ∃ fields, json = .object fields ∧ span.IsReadFrom fields := by
  obtain ⟨fields, rfl, checked⟩ := model_eq_valid_iff.mp accepted
  obtain ⟨⟨start, finish⟩, parts, rfl⟩ := Checked.map_eq_valid_iff.mp checked
  obtain ⟨startRead, finishRead⟩ := Checked.both_eq_valid_iff.mp parts
  exact ⟨fields, rfl, startRead, finishRead⟩

theorem Item.exists_isReadFrom {τ : Type} [TextForm τ] {json : Json} {item : Item τ}
    (accepted : Item.ofJson json = .valid item) :
    ∃ fields, json = .object fields ∧ item.IsReadFrom fields := by
  obtain ⟨fields, rfl, checked⟩ := model_eq_valid_iff.mp accepted
  obtain ⟨⟨signature, description, comments, snippet, location, overloads⟩, parts, rfl⟩ :=
    Checked.map_eq_valid_iff.mp checked
  obtain ⟨signatureRead, parts⟩ := Checked.both_eq_valid_iff.mp parts
  obtain ⟨descriptionRead, parts⟩ := Checked.both_eq_valid_iff.mp parts
  obtain ⟨commentsRead, parts⟩ := Checked.both_eq_valid_iff.mp parts
  obtain ⟨snippetRead, parts⟩ := Checked.both_eq_valid_iff.mp parts
  obtain ⟨locationRead, overloadsRead⟩ := Checked.both_eq_valid_iff.mp parts
  exact ⟨fields, rfl, ⟨_, signatureRead⟩, descriptionRead, commentsRead, snippetRead, locationRead,
    overloadsRead⟩

end SpecLexicon
