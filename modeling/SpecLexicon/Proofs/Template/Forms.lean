import SpecLexicon.Proofs.Text.Span
import SpecLexicon.Proofs.Text.Substitution
import SpecLexicon.Template.Placeholder

/-!
# Forms of placeholders

A placeholder starts with a dollar sign, a brace and a number. The mark behind the number tells a
label from choices. Which form stands at the start of a text, and what stands behind it, follows
from the text alone, since no digit is a mark.
-/

set_option autoImplicit false

namespace SpecLexicon.Placeholder

open Text

/-- The opening of a numbered placeholder: a dollar sign, a brace and at least one digit. -/
inductive IsNumbered : List Char → Prop where
  | digits {number : List Char} : number ≠ [] → (∀ c ∈ number, isDecimalDigit c = true) →
      IsNumbered ('$' :: '{' :: number)

inductive IsLabeled : List Char → Prop where
  | label {opening label : List Char} : IsNumbered opening → label ≠ [] →
      (∀ c ∈ label, isBrace c = false) → IsLabeled (opening ++ ':' :: (label ++ ['}']))

inductive IsChoice : List Char → Prop where
  | choices {opening choices : List Char} : IsNumbered opening → choices ≠ [] → '|' ∉ choices →
      IsChoice (opening ++ '|' :: (choices ++ ['|', '}']))

theorem IsNumbered.not_mem {opening : List Char} {c : Char} (numbered : IsNumbered opening)
    (plain : c ∉ ['$', '{']) (other : isDecimalDigit c = false) : c ∉ opening := by
  obtain ⟨_, digits⟩ := numbered
  rintro (_ | ⟨_, _ | ⟨_, member⟩⟩)
  · exact plain List.mem_cons_self
  · exact plain (List.mem_cons_of_mem _ List.mem_cons_self)
  · rw [digits c member] at other
    cases other

theorem IsNumbered.exists_cons {opening : List Char} (numbered : IsNumbered opening) :
    ∃ rest, opening = '$' :: rest := by
  obtain ⟨_, _⟩ := numbered
  exact ⟨_, rfl⟩

theorem IsNumbered.opens {opening : List Char} (numbered : IsNumbered opening)
    (rest : List Char) : ['$', '{'] <+: opening ++ rest := by
  obtain @⟨number, _, _⟩ := numbered
  exact ⟨number ++ rest, rfl⟩

theorem exists_of_isLabeled_or_isChoice {placeholder : List Char}
    (known : IsLabeled placeholder ∨ IsChoice placeholder) :
    ∃ inner, placeholder = '$' :: (inner ++ ['}']) := by
  rcases known with @⟨opening, label, numbered, _, _⟩ | @⟨opening, choices, numbered, _, _⟩
  · obtain ⟨rest, rfl⟩ := numbered.exists_cons
    exact ⟨rest ++ ':' :: label, by simp⟩
  · obtain ⟨rest, rfl⟩ := numbered.exists_cons
    exact ⟨rest ++ '|' :: (choices ++ ['|']), by simp⟩

/-!
## What the recognisers find
-/

theorem behindNumber?_append {opening rest : List Char} {mark c : Char}
    (numbered : IsNumbered opening) (other : isDecimalDigit c = false) :
    behindNumber? mark (opening ++ c :: rest) = if c = mark then some rest else none := by
  obtain @⟨number, filled, digits⟩ := numbered
  have boundary : ∀ d ∈ (c :: rest).head?, isDecimalDigit d = false := by
    rintro d ⟨⟩
    exact other
  obtain ⟨first, others, rfl⟩ := List.exists_cons_of_ne_nil filled
  have opened : stripOpening? ['$', '{'] ('$' :: '{' :: (first :: others) ++ c :: rest) =
      some (first :: others ++ c :: rest) := stripOpening?_eq_some_iff.mpr rfl
  rw [behindNumber?, opened]
  simp only [takeDigits, dropDigits, takeWhile_span digits boundary, dropWhile_span digits boundary]

theorem exists_of_behindNumber? {mark : Char} {text rest : List Char}
    (found : behindNumber? mark text = some rest) :
    ∃ opening, IsNumbered opening ∧ text = opening ++ mark :: rest := by
  unfold behindNumber? at found
  split at found
  · cases found
  · rename_i inner opened
    split at found
    · rename_i first others c behind taken dropped
      split at found
      · rename_i same
        cases found
        cases same
        have digits : ∀ d ∈ first :: others, isDecimalDigit d = true := by
          rw [← taken]
          exact forall_mem_takeWhile isDecimalDigit inner
        have whole : first :: others ++ mark :: rest = inner := by
          rw [← taken, ← dropped]
          exact List.takeWhile_append_dropWhile
        refine ⟨_, .digits (List.cons_ne_nil first others) digits, ?_⟩
        rw [stripOpening?_eq_some_iff.mp opened, ← whole]
        rfl
      · cases found
    · cases found

/-- A labeled placeholder is found exactly where one stands, with its label. -/
theorem labeled_eq_some_iff {text shown rest : List Char} :
    labeled text = some (shown, rest) ↔
      ∃ opening, IsNumbered opening ∧ shown ≠ [] ∧ (∀ c ∈ shown, isBrace c = false) ∧
        text = opening ++ ':' :: (shown ++ '}' :: rest) := by
  constructor
  · intro found
    unfold labeled at found
    split at found
    · cases found
    · rename_i inner numbered
      split at found
      · rename_i first label c behind taken dropped
        split at found
        · rename_i same
          cases found
          cases same
          obtain ⟨opening, isNumbered, rfl⟩ := exists_of_behindNumber? numbered
          refine ⟨opening, isNumbered, List.cons_ne_nil _ _, ?_, ?_⟩
          · intro d member
            rw [← taken] at member
            simpa using forall_mem_takeWhile (!isBrace ·) inner d member
          · rw [← taken, ← dropped, List.takeWhile_append_dropWhile]
        · cases found
      · cases found
  · rintro ⟨opening, numbered, filled, plain, rfl⟩
    have inside : ∀ c ∈ shown, (!isBrace c) = true := fun c member => by rw [plain c member]; rfl
    have boundary : ∀ c ∈ ('}' :: rest).head?, (!isBrace c) = false := by
      rintro c ⟨⟩
      rfl
    obtain ⟨first, others, rfl⟩ := List.exists_cons_of_ne_nil filled
    rw [labeled, behindNumber?_append numbered (by decide), if_pos rfl]
    simp only [takeWhile_span inside boundary, dropWhile_span inside boundary, if_true]

/-- A choice placeholder is found exactly where one stands. -/
theorem choice_eq_some_iff {text shown rest : List Char} :
    choice text = some (shown, rest) ↔
      shown = "choice".toList ∧ ∃ opening choices, IsNumbered opening ∧ choices ≠ [] ∧
        '|' ∉ choices ∧ text = opening ++ '|' :: (choices ++ '|' :: '}' :: rest) := by
  constructor
  · intro found
    unfold choice at found
    split at found
    · cases found
    · rename_i inner numbered
      split at found
      · rename_i first others bar c behind taken dropped
        split at found
        · rename_i same
          cases found
          cases same
          obtain ⟨opening, isNumbered, rfl⟩ := exists_of_behindNumber? numbered
          obtain rfl : bar = '|' := by
            have stopped := head?_dropWhile_eq_false (· != '|') inner bar (by rw [dropped]; rfl)
            simpa using stopped
          refine ⟨rfl, opening, first :: others, isNumbered, List.cons_ne_nil _ _, ?_, ?_⟩
          · intro member
            rw [← taken] at member
            simpa using forall_mem_takeWhile (· != '|') inner '|' member
          · rw [← taken, ← dropped, List.takeWhile_append_dropWhile]
        · cases found
      · cases found
  · rintro ⟨rfl, opening, choices, numbered, filled, plain, rfl⟩
    have inside : ∀ c ∈ choices, (c != '|') = true := fun c member =>
      bne_iff_ne.mpr (ne_of_mem_of_not_mem member plain)
    have boundary : ∀ c ∈ ('|' :: '}' :: rest).head?, (c != '|') = false := by
      rintro c ⟨⟩
      rfl
    obtain ⟨first, others, rfl⟩ := List.exists_cons_of_ne_nil filled
    rw [choice, behindNumber?_append numbered (by decide), if_pos rfl]
    simp only [takeWhile_span inside boundary, dropWhile_span inside boundary, if_true]

theorem opens_of_labeled {text : List Char} (found : labeled text ≠ none) :
    ['$', '{'] <+: text := by
  obtain ⟨⟨label, rest⟩, found⟩ := Option.ne_none_iff_exists'.mp found
  obtain ⟨opening, numbered, _, _, rfl⟩ := labeled_eq_some_iff.mp found
  exact numbered.opens _

theorem opens_of_choice {text : List Char} (found : choice text ≠ none) : ['$', '{'] <+: text := by
  obtain ⟨⟨shown, rest⟩, found⟩ := Option.ne_none_iff_exists'.mp found
  obtain ⟨_, opening, _, numbered, _, _, rfl⟩ := choice_eq_some_iff.mp found
  exact numbered.opens _

/-- A placeholder with another mark than a colon behind its number has no label. -/
theorem labeled_append_eq_none {opening : List Char} {c : Char} (rest : List Char)
    (numbered : IsNumbered opening) (other : isDecimalDigit c = false) (mark : c ≠ ':') :
    labeled (opening ++ c :: rest) = none := by
  rw [labeled, behindNumber?_append numbered other, if_neg mark]

/-- A text with an opening brace before its closing one is no label. -/
theorem labeled_append_eq_none_of_brace {opening front : List Char} (rest : List Char)
    (numbered : IsNumbered opening) (plain : ∀ c ∈ front, isBrace c = false) :
    labeled (opening ++ ':' :: (front ++ '{' :: rest)) = none := by
  have inside : ∀ c ∈ front, (!isBrace c) = true := fun c member => by rw [plain c member]; rfl
  have boundary : ∀ c ∈ ('{' :: rest).head?, (!isBrace c) = false := by
    rintro c ⟨⟩
    rfl
  rw [labeled, behindNumber?_append numbered (by decide), if_pos rfl]
  simp only [takeWhile_span inside boundary, dropWhile_span inside boundary]
  cases front <;> rfl

theorem choice_append_eq_none {opening : List Char} {c : Char} (rest : List Char)
    (numbered : IsNumbered opening) (other : isDecimalDigit c = false) (mark : c ≠ '|') :
    choice (opening ++ c :: rest) = none := by
  rw [choice, behindNumber?_append numbered other, if_neg mark]

theorem finds_labeled : Recognizer.Finds labeled IsLabeled := by
  intro text
  rw [Option.ne_none_iff_exists']
  constructor
  · rintro ⟨⟨label, rest⟩, found⟩
    obtain ⟨opening, numbered, filled, plain, rfl⟩ := labeled_eq_some_iff.mp found
    exact ⟨_, .label numbered filled plain, rest, by simp⟩
  · rintro ⟨_, @⟨opening, label, numbered, filled, plain⟩, rest, rfl⟩
    exact ⟨(label, rest), labeled_eq_some_iff.mpr ⟨opening, numbered, filled, plain, by simp⟩⟩

theorem finds_choice : Recognizer.Finds choice IsChoice := by
  intro text
  rw [Option.ne_none_iff_exists']
  constructor
  · rintro ⟨⟨shown, rest⟩, found⟩
    obtain ⟨_, opening, choices, numbered, filled, plain, rfl⟩ := choice_eq_some_iff.mp found
    exact ⟨_, .choices numbered filled plain, rest, by simp⟩
  · rintro ⟨_, @⟨opening, choices, numbered, filled, plain⟩, rest, rfl⟩
    exact ⟨("choice".toList, rest),
      choice_eq_some_iff.mpr ⟨rfl, opening, choices, numbered, filled, plain, by simp⟩⟩

end SpecLexicon.Placeholder
