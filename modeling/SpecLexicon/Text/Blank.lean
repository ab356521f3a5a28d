/-!
# Blank characters

The characters that separate words and may surround a line. The set holds the five ASCII layout
characters, the four ASCII separators, and the spaces and line separators of Unicode. The zero
width characters are not blank.
-/

set_option autoImplicit false

namespace SpecLexicon.Text

/-- A character counts as blank when it is layout, a separator, or a space of some width. -/
def isBlank (c : Char) : Bool :=
  let point := c.toNat
  (0x09 ≤ point && point ≤ 0x0D) || (0x1C ≤ point && point ≤ 0x20) || point == 0x85 ||
    point == 0xA0 || point == 0x1680 || (0x2000 ≤ point && point ≤ 0x200A) ||
    point == 0x2028 || point == 0x2029 || point == 0x202F || point == 0x205F || point == 0x3000

def dropBlank (text : List Char) : List Char :=
  text.dropWhile isBlank

def dropBlankEnd (text : List Char) : List Char :=
  (text.reverse.dropWhile isBlank).reverse

def trim (text : List Char) : List Char :=
  dropBlankEnd (dropBlank text)

/-- A text is blank when every character of it is, so the empty text is blank. -/
def IsBlankText (text : List Char) : Prop :=
  ∀ c ∈ text, isBlank c = true

instance (text : List Char) : Decidable (IsBlankText text) :=
  decidable_of_iff (text.all isBlank = true) List.all_eq_true

/-- A text that is worth keeping: trimmed, and absent when nothing is left. -/
def trimmed? (text : List Char) : Option (List Char) :=
  match trim text with
  | [] => none
  | c :: rest => some (c :: rest)

theorem dropBlank_eq_nil_iff {text : List Char} : dropBlank text = [] ↔ IsBlankText text := by
  induction text with
  | nil => simp [dropBlank, IsBlankText]
  | cons c rest ih =>
    by_cases blank : isBlank c = true
    · have step : dropBlank (c :: rest) = dropBlank rest := List.dropWhile_cons_of_pos blank
      rw [step, ih]
      simp [IsBlankText, blank]
    · simp [dropBlank, IsBlankText, blank]

end SpecLexicon.Text
