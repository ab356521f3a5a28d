import Mathlib.Data.List.Forall2
import SpecLexicon.Outline

/-!
# What an outline shows

The symbols with a place are converted one after the other, and so are the four numbers of each
place. If none of these numbers is too large, every symbol with a place has one entry, in order.
Otherwise the first number that is too large ends the conversion, and there is no outline at all.
-/

set_option autoImplicit false

namespace SpecLexicon.Outline

/-- The failure for a number of a document, which counts from one, unless an editor can show it. -/
def failure? (number : Coordinate × Nat) : Option OutOfRange :=
  if number.2 ≤ largest + 1 then none else some ⟨number.1, number.2 - 1⟩

def positionNumbers (position : Position) : List (Coordinate × Nat) :=
  [(.line, position.line), (.character, position.column)]

def spanNumbers (span : Span) : List (Coordinate × Nat) :=
  positionNumbers span.start ++ positionNumbers span.finish

abbrev Symbol (τ : Type := String) := Kind × τ × Item τ

section Symbols

variable {τ : Type}

/-- The numbers of the places of symbols, in the order in which they are converted. -/
def numbers (symbols : List (Symbol τ)) : List (Coordinate × Nat) :=
  symbols.flatMap fun symbol => symbol.2.2.location.toList.flatMap spanNumbers

def located (symbols : List (Symbol τ)) : List (Symbol τ) :=
  symbols.filter fun symbol => symbol.2.2.location.isSome

/-- A place is one less than the position in both numbers. -/
structure Place.Denotes (place : Place) (position : Position) : Prop where
  line : place.line + 1 = position.line
  character : place.character + 1 = position.column

structure Range.Denotes (range : Range) (span : Span) : Prop where
  start : range.start.Denotes span.start
  finish : range.finish.Denotes span.finish

/-- The entry of a symbol with a place. -/
structure Shows (symbol : Symbol τ) (entry : Entry τ) : Prop where
  name : entry.name = symbol.2.1
  detail : entry.detail = symbol.2.2.description
  kind : entry.kind = symbol.1.symbol
  range : ∃ span, symbol.2.2.location = some span ∧ entry.range.Denotes span
  selection : entry.selection = entry.range

end Symbols

theorem findSome?_failure?_eq_none_iff {numbers : List (Coordinate × Nat)} :
    numbers.findSome? failure? = none ↔ ∀ number ∈ numbers, number.2 ≤ largest + 1 := by
  simp [List.findSome?_eq_none_iff, failure?]

/-!
## Conversions
-/

/-- A conversion gives what is wanted if all of its numbers can be shown, and else it fails with the
first one that cannot. -/
inductive Converts {α : Type} (numbers : List (Coordinate × Nat)) (wanted : α → Prop) :
    Except OutOfRange α → Prop
  | shown {value : α} : numbers.findSome? failure? = none → wanted value →
      Converts numbers wanted (.ok value)
  | failed {failure : OutOfRange} : numbers.findSome? failure? = some failure →
      Converts numbers wanted (.error failure)

namespace Converts

variable {α β : Type} {early late : List (Coordinate × Nat)} {wanted : α → Prop}
  {desired : β → Prop}

theorem pure {value : α} (meets : wanted value) :
    Converts [] wanted (Pure.pure value : Except OutOfRange α) :=
  .shown rfl meets

theorem bind {first : Except OutOfRange α} {next : α → Except OutOfRange β}
    (converts : Converts early wanted first)
    (goesOn : ∀ value, wanted value → Converts late desired (next value)) :
    Converts (early ++ late) desired (first >>= next) := by
  cases converts with
  | @failed failure found =>
    exact .failed (by rw [List.findSome?_append, found, Option.some_or])
  | @shown value none_fails meets =>
    have both : (early ++ late).findSome? failure? = late.findSome? failure? := by
      rw [List.findSome?_append, none_fails, Option.none_or]
    change Converts (early ++ late) desired (next value)
    have later := goesOn value meets
    generalize next value = result at later ⊢
    cases later with
    | failed found => exact .failed (both.trans found)
    | shown none_later meets => exact .shown (both.trans none_later) meets

theorem map {result : Except OutOfRange α} {change : α → β}
    (converts : Converts early wanted result)
    (keeps : ∀ value, wanted value → desired (change value)) :
    Converts early desired (result.map change) := by
  cases converts with
  | failed found => exact .failed found
  | shown none_fails meets => exact .shown none_fails (keeps _ meets)

theorem wanted_of_ok {result : Except OutOfRange α} {value : α}
    (converts : Converts early wanted result) (given : result = .ok value) : wanted value := by
  cases converts with
  | failed _ => cases given
  | shown _ meets =>
    cases given
    exact meets

theorem eq_error_iff {result : Except OutOfRange α} {failure : OutOfRange}
    (converts : Converts early wanted result) :
    result = .error failure ↔ early.findSome? failure? = some failure := by
  cases converts with
  | failed found => simp [found]
  | shown none_fails _ => simp [none_fails]

theorem isOk_iff {result : Except OutOfRange α} (converts : Converts early wanted result) :
    (∃ value, result = .ok value) ↔ ∀ number ∈ early, number.2 ≤ largest + 1 := by
  rw [← findSome?_failure?_eq_none_iff]
  cases converts with
  | failed found => simp [found]
  | shown none_fails _ => simp [none_fails]

end Converts

theorem converts_position (position : Position) :
    Converts (positionNumbers position) (·.Denotes position) (Place.ofPosition position) := by
  have line := position.one_le_line
  have column := position.one_le_column
  unfold Place.ofPosition
  split
  · rename_i line_le
    have line_fits : position.line ≤ largest + 1 := by omega
    split
    · rename_i character_le
      have column_fits : position.column ≤ largest + 1 := by omega
      refine .shown ?_ ⟨Nat.sub_add_cancel line, Nat.sub_add_cancel column⟩
      simp [positionNumbers, failure?, line_fits, column_fits]
    · have column_large : ¬position.column ≤ largest + 1 := by omega
      exact .failed (by simp [positionNumbers, failure?, line_fits, column_large])
  · have line_large : ¬position.line ≤ largest + 1 := by omega
    exact .failed (by simp [positionNumbers, failure?, line_large])

theorem converts_span (span : Span) :
    Converts (spanNumbers span) (·.Denotes span) (Range.ofSpan span) := by
  have converts : Converts (positionNumbers span.start ++ (positionNumbers span.finish ++ []))
      (·.Denotes span) (Range.ofSpan span) := by
    unfold Range.ofSpan
    apply (converts_position span.start).bind
    intro start starts
    apply (converts_position span.finish).bind
    intro finish finishes
    exact .pure ⟨starts, finishes⟩
  rwa [List.append_nil] at converts

theorem converts_item {τ : Type} (symbol : Symbol τ) :
    Converts (symbol.2.2.location.toList.flatMap spanNumbers)
      (fun entry? => List.Forall₂ Shows (located [symbol]) entry?.toList)
      (Entry.ofItem? symbol.1 symbol.2.1 symbol.2.2) := by
  unfold Entry.ofItem?
  cases place : symbol.2.2.location with
  | none =>
    refine .shown rfl ?_
    simp [located, place]
  | some span =>
    have converts := converts_span span
    rw [Option.toList_some, List.flatMap_singleton]
    apply converts.map
    intro range denotes
    simpa [located, place] using ⟨rfl, rfl, rfl, ⟨span, place, denotes⟩, rfl⟩

/-- The entries of symbols, one for each that has a place. -/
theorem converts_entries {τ : Type} (symbols : List (Symbol τ)) :
    Converts (numbers symbols) (List.Forall₂ Shows (located symbols)) (ofEntries symbols) := by
  induction symbols with
  | nil => exact .shown rfl .nil
  | cons symbol rest ih =>
    obtain ⟨kind, name, item⟩ := symbol
    have numbers_cons : numbers ((kind, name, item) :: rest) =
        item.location.toList.flatMap spanNumbers ++ (numbers rest ++ []) := by
      simp [numbers]
    have located_cons : located ((kind, name, item) :: rest) =
        located [(kind, name, item)] ++ located rest :=
      List.filter_append [(kind, name, item)] rest
    unfold ofEntries
    rw [numbers_cons, located_cons]
    apply (converts_item (kind, name, item)).bind
    intro shown shows
    apply ih.bind
    intro others alike
    exact .pure (List.rel_append shows alike)

end SpecLexicon.Outline
