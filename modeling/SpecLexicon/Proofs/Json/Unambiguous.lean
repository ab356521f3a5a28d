import SpecLexicon.Proofs.Json.Bounds
import SpecLexicon.Proofs.Json.Reading

/-!
# Texts of the grammar are unambiguous

Whatever the bounds of a dialect, a text of the grammar is read as its value or not at all, so a
bound can lead to a refusal and never to another value. A dialect that bounds the digits of every
number reads nothing in which a number has more of them.
-/

set_option autoImplicit false

namespace SpecLexicon.Json

variable {dialect : Dialect} {limit : Nat}

theorem WritesNumber.of_readNumber {text rest : List Char} {numeral : Numeral}
    {found : Json × List Char} (written : WritesNumber limit text numeral) (ends : EndsNumber rest)
    (read : Json.readNumber dialect (text ++ rest) = .ok found) :
    found = (ofNumeral numeral, rest) ∧
      (dialect.boundsReals = true → WritesNumber dialect.digits text numeral) := by
  rw [Json.readNumber, written.takeNumeral ends] at read
  simp only [written.isNumber, Bool.not_true] at read
  split at read
  · contradiction
  · split at read
    · cases read
    · rename_i short
      refine ⟨(Except.ok.inj read).symm, fun bounds => ?_⟩
      cases written with
      | parts sign whole _ point mark =>
        exact .parts sign whole (Nat.not_lt.mp fun long => short ⟨long, .inr bounds⟩) point mark

/-- Whoever reads elements has read a first one. -/
theorem exists_of_readItems {fuel depth : Nat} {text : List Char} {found : List Json × List Char}
    (read : readItems dialect fuel depth text = .ok found) :
    ∃ left first, fuel = left + 1 ∧ readValue dialect left depth text = .ok first := by
  cases fuel with
  | zero => cases read
  | succ fuel =>
    obtain ⟨items, rest⟩ := found
    cases readsItems_of_readItems read with
    | last first _ => exact ⟨fuel, _, rfl, first⟩
    | more first _ _ => exact ⟨fuel, _, rfl, first⟩

mutual

/-- What is read at the start of a text of the grammar is its value, and within the bounds. -/
theorem Writes.of_readValue {text rest : List Char} {value : Json}
    (written : Writes limit text value) (ends : EndsNumber rest) {fuel depth : Nat}
    {found : Json × List Char}
    (read : Json.readValue dialect fuel depth (text ++ rest) = .ok found) :
    found = (value, rest) ∧ (dialect.boundsReals = true → Writes dialect.digits text value) := by
  cases fuel with
  | zero => cases read
  | succ fuel =>
    cases written with
    | word known =>
      rw [readValue_word known] at read
      exact ⟨(Except.ok.inj read).symm, fun _ => .word known⟩
    | number written =>
      rw [written.readValue] at read
      obtain ⟨same, fits⟩ := written.of_readNumber ends read
      exact ⟨same, fun bounds => .number (fits bounds)⟩
    | string written =>
      rw [written.readValue] at read
      exact ⟨(Except.ok.inj read).symm, fun _ => .string written⟩
    | emptyList isLayout =>
      rw [readValue_emptyList isLayout] at read
      split at read
      · cases read
      · exact ⟨(Except.ok.inj read).symm, fun _ => .emptyList isLayout⟩
    | list isLayout written =>
      rw [readValue_list written.opens isLayout] at read
      split at read
      · cases read
      · obtain ⟨inner, innerRead, rfl⟩ := exists_of_map_eq_ok read
        obtain ⟨rfl, fits⟩ := written.of_readItems rest innerRead
        exact ⟨rfl, fun bounds => .list isLayout (fits bounds)⟩
    | emptyObject isLayout =>
      rw [readValue_emptyObject isLayout] at read
      split at read
      · cases read
      · exact ⟨(Except.ok.inj read).symm, fun _ => .emptyObject isLayout⟩
    | object isLayout written =>
      rw [readValue_object written.opens isLayout] at read
      split at read
      · cases read
      · obtain ⟨inner, innerRead, rfl⟩ := exists_of_map_eq_ok read
        obtain ⟨rfl, fits⟩ := written.of_readFields rest innerRead
        exact ⟨rfl, fun bounds => .object isLayout (fits bounds)⟩

theorem WritesItems.of_readItems {text : List Char} {items : List Json}
    (written : WritesItems limit text items) (rest : List Char) {fuel depth : Nat}
    {found : List Json × List Char}
    (read : Json.readItems dialect fuel depth (text ++ rest) = .ok found) :
    found = (items, rest) ∧
      (dialect.boundsReals = true → WritesItems dialect.digits text items) := by
  obtain ⟨fuel, first, rfl, firstRead⟩ := exists_of_readItems read
  cases written with
  | last written isLayout =>
    rw [List.append_assoc, List.append_assoc, List.singleton_append] at firstRead
    obtain ⟨rfl, fits⟩ := written.of_readValue (endsNumber_of_mark (by decide) isLayout) firstRead
    rw [readItems_last isLayout firstRead] at read
    exact ⟨(Except.ok.inj read).symm, fun bounds => .last (fits bounds) isLayout⟩
  | more written isLayout isLayoutBefore others =>
    rw [List.append_assoc, List.append_assoc, List.cons_append, List.append_assoc] at firstRead
    obtain ⟨rfl, fits⟩ := written.of_readValue (endsNumber_of_mark (by decide) isLayout) firstRead
    rw [readItems_more others.opens isLayout isLayoutBefore firstRead] at read
    obtain ⟨inner, innerRead, rfl⟩ := exists_of_map_eq_ok read
    obtain ⟨rfl, othersFit⟩ := others.of_readItems rest innerRead
    exact ⟨rfl, fun bounds => .more (fits bounds) isLayout isLayoutBefore (othersFit bounds)⟩

theorem WritesField.of_readFields {text rest : List Char} {field : LooseText × Json}
    (written : WritesField limit text field) (ends : EndsNumber rest) {fuel depth : Nat}
    {found : List (LooseText × Json) × List Char}
    (read : Json.readFields dialect (fuel + 1) depth (text ++ rest) = .ok found) :
    fieldsBehind dialect fuel depth field rest = .ok found ∧
      (dialect.boundsReals = true → WritesField dialect.digits text field) := by
  cases written with
  | @field name after before text body value key isLayout isLayoutBefore written =>
    rw [readFields_field key written.opens isLayout isLayoutBefore] at read
    cases firstRead : readValue dialect fuel depth (text ++ rest) with
    | error fault =>
      rw [firstRead] at read
      cases read
    | ok first =>
      rw [firstRead] at read
      obtain ⟨rfl, fits⟩ := written.of_readValue ends firstRead
      exact ⟨read, fun bounds => .field key isLayout isLayoutBefore (fits bounds)⟩

theorem WritesFields.of_readFields {text : List Char} {fields : List (LooseText × Json)}
    (written : WritesFields limit text fields) (rest : List Char) {fuel depth : Nat}
    {found : List (LooseText × Json) × List Char}
    (read : Json.readFields dialect fuel depth (text ++ rest) = .ok found) :
    found = (fields, rest) ∧
      (dialect.boundsReals = true → WritesFields dialect.digits text fields) := by
  cases fuel with
  | zero => cases read
  | succ fuel =>
    cases written with
    | @last text after field first isLayout =>
      rw [List.append_assoc, List.append_assoc, List.singleton_append] at read
      obtain ⟨closed, fits⟩ := first.of_readFields (endsNumber_of_mark (by decide) isLayout) read
      rw [fieldsBehind_last isLayout] at closed
      exact ⟨(Except.ok.inj closed).symm, fun bounds => .last (fits bounds) isLayout⟩
    | @more text after before others field fields first isLayout isLayoutBefore written =>
      rw [List.append_assoc, List.append_assoc, List.cons_append, List.append_assoc] at read
      obtain ⟨continued, fits⟩ :=
        first.of_readFields (endsNumber_of_mark (by decide) isLayout) read
      rw [fieldsBehind_more written.opens isLayout isLayoutBefore] at continued
      obtain ⟨inner, othersRead, rfl⟩ := exists_of_map_eq_ok continued
      obtain ⟨rfl, othersFit⟩ := written.of_readFields rest othersRead
      exact ⟨rfl, fun bounds => .more (fits bounds) isLayout isLayoutBefore (othersFit bounds)⟩

end

/-- A document of the grammar is read as its value or refused. -/
theorem IsDocument.of_readText {text : List Char} {value found : Json}
    (written : IsDocument limit text value) (read : Json.readText dialect text = .ok found) :
    found = value ∧ (dialect.boundsReals = true → IsDocument dialect.digits text value) := by
  cases written with
  | around isLayout written isLayoutAfter =>
    rw [Json.readText, written.opens.skipLayout isLayout] at read
    split at read
    · cases read
    · rename_i valueRead
      obtain ⟨same, fits⟩ := written.of_readValue (endsNumber_layout isLayoutAfter) valueRead
      obtain ⟨rfl, rfl⟩ := Prod.mk.inj same
      split at read
      · exact ⟨(Except.ok.inj read).symm, fun bounds =>
          .around isLayout (fits bounds) isLayoutAfter⟩
      · cases read

end SpecLexicon.Json
