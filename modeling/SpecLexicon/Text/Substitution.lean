/-!
# One pass of substitution

A pass walks a text from left to right. Where a form starts it writes the replacement and goes on
behind the form; elsewhere it keeps the character. Forms never overlap, and what a pass has written
it does not read again.
-/

set_option autoImplicit false

namespace SpecLexicon.Text

/-- A recogniser looks for a form at the very start of a text. It gives the replacement of the form
and the text behind it. -/
abbrev Recognizer := List Char → Option (List Char × List Char)

/-- Replace every form of a text, once, from left to right. A form that takes up no character is
passed over. -/
def substitute (form? : Recognizer) : List Char → List Char
  | [] => []
  | c :: tail =>
    match form? (c :: tail) with
    | some (shown, rest) =>
      if rest.length ≤ tail.length then shown ++ substitute form? rest
      else c :: substitute form? tail
    | none => c :: substitute form? tail
  termination_by text => text.length

@[simp] theorem substitute_nil (form? : Recognizer) : substitute form? [] = [] := by
  rw [substitute]

theorem substitute_cons_of_none {form? : Recognizer} {c : Char} {tail : List Char}
    (absent : form? (c :: tail) = none) :
    substitute form? (c :: tail) = c :: substitute form? tail := by
  rw [substitute, absent]

theorem substitute_cons_of_some {form? : Recognizer} {c : Char} {tail shown rest : List Char}
    (found : form? (c :: tail) = some (shown, rest)) (shorter : rest.length ≤ tail.length) :
    substitute form? (c :: tail) = shown ++ substitute form? rest := by
  rw [substitute, found]
  simp [shorter]

def stripOpening? : List Char → List Char → Option (List Char)
  | [], text => some text
  | _ :: _, [] => none
  | c :: opening, d :: text => if c = d then stripOpening? opening text else none

/-- An opening is found exactly where the text is that opening and what follows it. -/
theorem stripOpening?_eq_some_iff {opening text rest : List Char} :
    stripOpening? opening text = some rest ↔ text = opening ++ rest := by
  induction opening generalizing text with
  | nil => simp [stripOpening?, eq_comm]
  | cons c opening ih =>
    cases text with
    | nil => simp [stripOpening?]
    | cons d tail =>
      by_cases same : c = d
      · subst same
        simp [stripOpening?, ih]
      · simp [stripOpening?, same, Ne.symm same]

def literal (opening shown : List Char) : Recognizer := fun text =>
  (stripOpening? opening text).map fun rest => (shown, rest)

end SpecLexicon.Text
