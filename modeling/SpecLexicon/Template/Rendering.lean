import SpecLexicon.Template.Placeholder

/-!
# The two texts of a template body

The signature collapses every placeholder to a word and serves for reading. The insertable body
keeps the placeholders and fills the markers with the configured names. Both are built from passes
over the whole text, one after the other.
-/

set_option autoImplicit false

namespace SpecLexicon.Template

open Text Placeholder

/-- What a marker becomes: a colon and a general word while no name is configured, else the names
between bars. -/
def fill (names : List String) (word : List Char) : List Char :=
  match names with
  | [] => ':' :: word
  | _ => '|' :: ((String.intercalate "," names).toList ++ ['|'])

def fillMarkers (motor counter body : List Char) : List Char :=
  substitute (literal counterMarker counter) (substitute (literal motorMarker motor) body)

/-- The signature of a body: markers become words, then labels replace their placeholders, then a
word replaces every choice. -/
def signature (body : List Char) : List Char :=
  substitute choice
    (substitute labeled (fillMarkers (fill [] "motor".toList) (fill [] "counter".toList) body))

def insertable (motors counters : List String) (body : List Char) : List Char :=
  fillMarkers (fill motors "motor".toList) (fill counters "counter".toList) body

/-- A text that starts with a character which opens no placeholder still does so after all passes of
the signature. -/
theorem signature_cons {c : Char} (rest : List Char) (plain : isOpening c = false) :
    ∃ shown, signature (c :: rest) = c :: shown := by
  rw [signature, fillMarkers, substitute_cons_of_none (literal_motor_eq_none plain),
    substitute_cons_of_none (literal_counter_eq_none plain),
    substitute_cons_of_none (labeled_eq_none plain),
    substitute_cons_of_none (choice_eq_none plain)]
  exact ⟨_, rfl⟩

end SpecLexicon.Template
