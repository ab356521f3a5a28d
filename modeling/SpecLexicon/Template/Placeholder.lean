import SpecLexicon.Text.Digit
import SpecLexicon.Text.Substitution

/-!
# Placeholders

The places of a template that are filled in later. A marker stands for a motor or a counter. A
labeled placeholder is a dollar sign with a number, a colon and a label in braces; a choice
placeholder has a list of choices between bars in the place of colon and label.
-/

set_option autoImplicit false

namespace SpecLexicon.Placeholder

open Text

def motorMarker : List Char := ['%', 'M', 'O', 'T']

def counterMarker : List Char := ['%', 'C', 'N', 'T']

/-- The text behind the opening of a numbered placeholder: a dollar sign, a brace, at least one
digit and a mark. -/
def behindNumber? (mark : Char) (text : List Char) : Option (List Char) :=
  match stripOpening? ['$', '{'] text with
  | none => none
  | some inner =>
    match takeDigits inner, dropDigits inner with
    | _ :: _, c :: rest => if c = mark then some rest else none
    | _, _ => none

def isBrace (c : Char) : Bool :=
  c == '{' || c == '}'

/-- A labeled placeholder gives its label, which holds no brace and is not empty. -/
def labeled : Recognizer := fun text =>
  match behindNumber? ':' text with
  | none => none
  | some inner =>
    match inner.takeWhile (!isBrace ·), inner.dropWhile (!isBrace ·) with
    | first :: label, c :: rest => if c = '}' then some (first :: label, rest) else none
    | _, _ => none

/-- A choice placeholder gives the word that stands for any choice. The choices hold no bar and are
not empty. -/
def choice : Recognizer := fun text =>
  match behindNumber? '|' text with
  | none => none
  | some inner =>
    match inner.takeWhile (· != '|'), inner.dropWhile (· != '|') with
    | _ :: _, _ :: c :: rest => if c = '}' then some ("choice".toList, rest) else none
    | _, _ => none

def isOpening (c : Char) : Bool :=
  c == '$' || c == '%'

theorem literal_motor_eq_none {c : Char} {rest shown : List Char} (plain : isOpening c = false) :
    literal motorMarker shown (c :: rest) = none := by
  simp only [isOpening, Bool.or_eq_false_iff, beq_eq_false_iff_ne] at plain
  simp [literal, motorMarker, stripOpening?, Ne.symm plain.2]

theorem literal_counter_eq_none {c : Char} {rest shown : List Char} (plain : isOpening c = false) :
    literal counterMarker shown (c :: rest) = none := by
  simp only [isOpening, Bool.or_eq_false_iff, beq_eq_false_iff_ne] at plain
  simp [literal, counterMarker, stripOpening?, Ne.symm plain.2]

theorem behindNumber?_eq_none {mark c : Char} {rest : List Char} (plain : isOpening c = false) :
    behindNumber? mark (c :: rest) = none := by
  simp only [isOpening, Bool.or_eq_false_iff, beq_eq_false_iff_ne] at plain
  simp [behindNumber?, stripOpening?, Ne.symm plain.1]

theorem labeled_eq_none {c : Char} {rest : List Char} (plain : isOpening c = false) :
    labeled (c :: rest) = none := by
  simp [labeled, behindNumber?_eq_none plain]

theorem choice_eq_none {c : Char} {rest : List Char} (plain : isOpening c = false) :
    choice (c :: rest) = none := by
  simp [choice, behindNumber?_eq_none plain]

end SpecLexicon.Placeholder
