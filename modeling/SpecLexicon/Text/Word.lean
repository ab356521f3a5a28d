/-!
# Words

The identifiers of the command language: an ASCII letter or underscore, followed by ASCII letters,
digits and underscores. Letters of other scripts never occur in a word.
-/

set_option autoImplicit false

namespace SpecLexicon.Text

def isWordStart (c : Char) : Bool :=
  c.isAlpha || c == '_'

def isWordPart (c : Char) : Bool :=
  c.isAlphanum || c == '_'

def IsWord (text : List Char) : Prop :=
  ∃ first rest, text = first :: rest ∧ isWordStart first = true ∧ ∀ c ∈ rest, isWordPart c = true

/-- The longest word at the start of a text, with what follows it. A text that starts with no word
gives nothing. -/
def leadingWord? : List Char → Option (List Char × List Char)
  | [] => none
  | c :: rest =>
    if isWordStart c then some (c :: rest.takeWhile isWordPart, rest.dropWhile isWordPart) else none

theorem append_of_leadingWord? {text word rest : List Char}
    (split : leadingWord? text = some (word, rest)) : word ++ rest = text := by
  cases text with
  | nil => simp [leadingWord?] at split
  | cons c tail =>
    simp only [leadingWord?] at split
    split at split
    · simp only [Option.some.injEq, Prod.mk.injEq] at split
      obtain ⟨rfl, rfl⟩ := split
      simp
    · simp at split

theorem isWord_of_leadingWord? {text word rest : List Char}
    (split : leadingWord? text = some (word, rest)) : IsWord word := by
  cases text with
  | nil => simp [leadingWord?] at split
  | cons c tail =>
    simp only [leadingWord?] at split
    split at split
    · rename_i start
      simp only [Option.some.injEq, Prod.mk.injEq] at split
      obtain ⟨rfl, rfl⟩ := split
      refine ⟨c, _, rfl, start, ?_⟩
      intro d member
      exact List.all_eq_true.mp (List.all_takeWhile ..) d member
    · simp at split

end SpecLexicon.Text
