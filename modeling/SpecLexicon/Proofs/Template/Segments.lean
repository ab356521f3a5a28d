import SpecLexicon.Proofs.Template.Typed

/-!
# Segments of templates

A segment is plain text or a placeholder that holds none. Each pass of the signature makes a segment
of it again, whatever stands behind it: the first one gives a label to a typed placeholder, the next
one leaves only a label, and the last one puts a word in the place of choices.
-/

set_option autoImplicit false

namespace SpecLexicon

namespace Placeholder

/-- The word for a name of the kind that a marker stands for. -/
def Marker.word : Marker → List Char
  | motor => "motor".toList
  | counter => "counter".toList

end Placeholder

namespace Template

open Text Placeholder

/-!
## Segments
-/

/-- A text without percent signs and braces. -/
def IsSimple (text : List Char) : Prop :=
  ∀ c ∈ text, c ≠ '%' ∧ isBrace c = false

instance (text : List Char) : Decidable (IsSimple text) :=
  decidable_of_iff (text.all fun c => c != '%' && !isBrace c) (by simp [IsSimple])

theorem IsSimple.percent_not_mem {text : List Char} (simple : IsSimple text) : '%' ∉ text :=
  fun member => (simple _ member).1 rfl

theorem IsSimple.brace_not_mem {text : List Char} {c : Char} (simple : IsSimple text)
    (brace : isBrace c = true) : c ∉ text := by
  intro member
  rw [(simple c member).2] at brace
  cases brace

theorem isSimple_word (kind : Marker) : IsSimple kind.word := by
  cases kind <;> decide

/-- The number of a placeholder: at least one digit, of any script. -/
structure Number where
  digits : List Char
  filled : digits ≠ []
  decimal : ∀ c ∈ digits, isDecimalDigit c = true

def Number.opening (number : Number) : List Char :=
  '$' :: '{' :: number.digits

theorem Number.isNumbered (number : Number) : IsNumbered number.opening :=
  .digits number.filled number.decimal

theorem Number.percent_not_mem_opening (number : Number) : '%' ∉ number.opening :=
  number.isNumbered.not_mem (by decide) (by decide)

theorem Number.not_mem_digits (number : Number) {c : Char} (other : isDecimalDigit c = false) :
    c ∉ number.digits := by
  intro member
  rw [number.decimal c member] at other
  cases other

inductive Segment where
  | plain (text : List Char) (simple : IsSimple text)
  | typed (number : Number) (kind : Marker)
  | labeled (number : Number) (label : List Char) (filled : label ≠ []) (simple : IsSimple label)
  | choice (number : Number) (choices : List Char) (filled : choices ≠ [])
      (simple : IsSimple choices) (unbarred : '|' ∉ choices)

namespace Segment

def source : Segment → List Char
  | plain text _ => text
  | typed number kind => number.opening ++ (kind.text ++ ['}'])
  | labeled number label _ _ => number.opening ++ ':' :: (label ++ ['}'])
  | choice number choices _ _ _ => number.opening ++ '|' :: (choices ++ ['|', '}'])

/-- What a reader of the signature sees of a segment. -/
def shown : Segment → List Char
  | plain text _ => text
  | typed _ kind => kind.word
  | labeled _ label _ _ => label
  | choice .. => "choice".toList

/-- A typed placeholder becomes one with the word for its kind as label. -/
def named : Segment → Segment
  | typed number kind =>
    labeled number kind.word (by cases kind <;> exact List.cons_ne_nil _ _) (isSimple_word kind)
  | other => other

def unlabeled : Segment → Segment
  | labeled _ label _ simple => plain label simple
  | other => other

def chosen : Segment → Segment
  | choice .. => plain "choice".toList (by decide)
  | other => other

/-- No segment goes on with the brace that the dollar sign before it may lack. -/
theorem head?_source_append (segment : Segment) {rest : List Char}
    (boundary : rest.head? ≠ some '{') : (segment.source ++ rest).head? ≠ some '{' := by
  cases segment with
  | plain text simple =>
    cases text with
    | nil => exact boundary
    | cons c text =>
      have inside := simple.brace_not_mem (show isBrace '{' = true by decide)
      rintro ⟨⟩
      exact inside List.mem_cons_self
  | typed | labeled | choice => rintro ⟨⟩

end Segment

/-!
## Passes over segments
-/

section Braces

variable {form? : Recognizer} {rest : List Char}
  (opens : ∀ text, form? text ≠ none → ['$', '{'] <+: text)

include opens

theorem eq_none_of_ne {c : Char} (tail : List Char) (other : c ≠ '$') :
    form? (c :: tail) = none := by
  apply Decidable.byContradiction
  intro found
  exact other (List.cons_prefix_cons.mp (opens _ found)).1.symm

variable (boundary : rest.head? ≠ some '{')

include boundary

theorem substitute_simple {text : List Char} (simple : IsSimple text) :
    substitute form? (text ++ rest) = text ++ substitute form? rest :=
  substitute_append_of_closed opens (simple.brace_not_mem (by decide)) boundary

theorem substitute_unmatched (number : Number) {inner : List Char} (closed : '{' ∉ inner)
    (absent : form? (number.opening ++ (inner ++ rest)) = none) :
    substitute form? (number.opening ++ (inner ++ rest)) =
      number.opening ++ (inner ++ substitute form? rest) := by
  have inside : '{' ∉ number.digits ++ inner := by
    rw [List.mem_append, not_or]
    exact ⟨number.not_mem_digits (by decide), closed⟩
  have whole : number.opening ++ (inner ++ rest) =
      '$' :: '{' :: (number.digits ++ inner ++ rest) := by
    simp [Number.opening]
  rw [whole] at absent ⊢
  rw [substitute_cons_of_none absent, substitute_cons_of_none (eq_none_of_ne opens _ (by decide)),
    substitute_append_of_closed opens inside boundary]
  simp [Number.opening]

end Braces

theorem areNames_nil : ∀ name ∈ ([] : List String), IsMnemonicName name.toList :=
  fun _ member => absurd member List.not_mem_nil

namespace Segment

/-- What is neither a typed placeholder nor part of one holds no percent sign. -/
theorem percent_not_mem_source {segment : Segment} (same : segment.named = segment) :
    '%' ∉ segment.source := by
  cases segment with
  | plain text simple => exact simple.percent_not_mem
  | typed number kind => cases same
  | labeled number label filled simple =>
    simp [source, number.percent_not_mem_opening, simple.percent_not_mem]
  | choice number choices filled simple unbarred =>
    simp [source, number.percent_not_mem_opening, simple.percent_not_mem]

theorem insertable_source_append (segment : Segment) (rest : List Char) :
    insertable [] [] (segment.source ++ rest) =
      segment.named.source ++ insertable [] [] rest := by
  cases segment with
  | typed number kind =>
    have whole : (typed number kind).source ++ rest =
        number.opening ++ (kind.text ++ '}' :: rest) := by simp [source]
    have filled : choices [] [] kind = ':' :: kind.word := by cases kind <;> rfl
    rw [whole,
      insertable_append_of_plain areNames_nil areNames_nil _ number.percent_not_mem_opening,
      insertable_marker areNames_nil areNames_nil,
      insertable_cons areNames_nil areNames_nil fun _ => Marker.not_opens_text (by decide), filled]
    simp [source, named]
  | plain | labeled | choice =>
    exact insertable_append_of_plain areNames_nil areNames_nil rest (percent_not_mem_source rfl)

/-- A segment is simple text or a placeholder, in which no brace opens behind the number. -/
theorem simple_or_numbered (segment : Segment) :
    IsSimple segment.source ∨
      ∃ number inner, '{' ∉ inner ∧ segment.source = Number.opening number ++ inner := by
  cases segment with
  | plain text simple => exact .inl simple
  | typed number kind => exact .inr ⟨number, _, by cases kind <;> decide, rfl⟩
  | labeled number label filled simple =>
    have closed : '{' ∉ label := simple.brace_not_mem (by decide)
    exact .inr ⟨number, _, by simp [closed], rfl⟩
  | choice number choices filled simple unbarred =>
    have closed : '{' ∉ choices := simple.brace_not_mem (by decide)
    exact .inr ⟨number, _, by simp [closed], rfl⟩

/-- What a pass for one form of placeholders makes of a segment: a segment that the form does not
open stays, and a placeholder of the form becomes a plain text. -/
inductive Becomes (form? : Recognizer) : Segment → Segment → Prop where
  | plain (text : List Char) (simple : IsSimple text) :
      Becomes form? (.plain text simple) (.plain text simple)
  | kept {segment : Segment} :
      (∀ rest, form? (segment.source ++ rest) = none) → Becomes form? segment segment
  | taken {segment : Segment} {text : List Char} (simple : IsSimple text) :
      (∀ rest, form? (segment.source ++ rest) = some (text, rest)) →
      Becomes form? segment (.plain text simple)

theorem Becomes.substitute {form? : Recognizer} {segment other : Segment} {rest : List Char}
    (opens : ∀ text, form? text ≠ none → ['$', '{'] <+: text)
    (becomes : Becomes form? segment other) (boundary : rest.head? ≠ some '{') :
    substitute form? (segment.source ++ rest) = other.source ++ substitute form? rest := by
  cases becomes with
  | plain text simple => exact substitute_simple opens boundary simple
  | kept absent =>
    rcases segment.simple_or_numbered with simple | ⟨number, inner, closed, split⟩
    · exact substitute_simple opens boundary simple
    · have absent := absent rest
      rw [split, List.append_assoc] at absent ⊢
      rw [substitute_unmatched opens boundary number closed absent, List.append_assoc]
  | @taken _ text simple found =>
    have opened := opens (segment.source ++ []) (by rw [found]; exact Option.some_ne_none _)
    obtain ⟨tail, whole⟩ := opened
    rw [List.append_nil] at whole
    have found := found rest
    rw [← whole] at found ⊢
    exact substitute_cons_of_some found (by simp; omega)

theorem becomes_unlabeled (segment : Segment) :
    Becomes Placeholder.labeled segment segment.unlabeled := by
  cases segment with
  | plain text simple => exact .plain text simple
  | typed number kind =>
    refine .kept fun rest => ?_
    rw [source, List.append_assoc]
    exact labeled_append_eq_none _ number.isNumbered (by decide) (by decide)
  | labeled number label filled simple =>
    refine .taken simple fun rest => labeled_eq_some_iff.mpr ?_
    exact ⟨number.opening, number.isNumbered, filled, fun c member => (simple c member).2,
      by simp [source]⟩
  | choice number choices filled simple unbarred =>
    refine .kept fun rest => ?_
    rw [source, List.append_assoc]
    exact labeled_append_eq_none _ number.isNumbered (by decide) (by decide)

theorem becomes_chosen (segment : Segment) : Becomes Placeholder.choice segment segment.chosen := by
  cases segment with
  | plain text simple => exact .plain text simple
  | typed number kind =>
    refine .kept fun rest => ?_
    rw [source, List.append_assoc]
    exact choice_append_eq_none _ number.isNumbered (by decide) (by decide)
  | labeled number label filled simple =>
    refine .kept fun rest => ?_
    rw [source, List.append_assoc]
    exact choice_append_eq_none _ number.isNumbered (by decide) (by decide)
  | choice number choices filled simple unbarred =>
    refine .taken _ fun rest => choice_eq_some_iff.mpr ?_
    exact ⟨rfl, number.opening, choices, number.isNumbered, filled, unbarred, by simp [source]⟩

end Segment

end Template

end SpecLexicon
