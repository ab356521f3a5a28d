/-!
# Splitting at a mark

A text falls into the parts between the occurrences of a mark. A text without the mark is one part,
and marks at the ends or side by side enclose empty parts.
-/

set_option autoImplicit false

namespace SpecLexicon.Text

section Parts

variable {α : Type} [DecidableEq α]

/-- The parts between the occurrences of a mark, in order. There is always at least one. -/
def splitAtMark (mark : α) : List α → List (List α)
  | [] => [[]]
  | c :: rest =>
    if c = mark then [] :: splitAtMark mark rest
    else match splitAtMark mark rest with
      | [] => [[c]]
      | part :: parts => (c :: part) :: parts

theorem splitAtMark_ne_nil (mark : α) (text : List α) : splitAtMark mark text ≠ [] := by
  cases text with
  | nil => simp [splitAtMark]
  | cons c rest =>
    by_cases same : c = mark
    · simp [splitAtMark, same]
    · simp only [splitAtMark, if_neg same]
      split <;> simp

end Parts

/-- The text before the first mark, and the text behind it if there is one. -/
def cutAtMark (mark : Char) (text : List Char) : List Char × Option (List Char) :=
  (text.takeWhile (· != mark), (text.dropWhile (· != mark)).tail?)

/-- The text behind the last mark; the whole text if there is none. -/
def behindLastMark (mark : Char) (text : List Char) : List Char :=
  (text.reverse.takeWhile (· != mark)).reverse

end SpecLexicon.Text
