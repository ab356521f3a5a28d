import SpecLexicon.Mnemonic
import SpecLexicon.Proofs.Number.Digits
import SpecLexicon.Text.Blank
import SpecLexicon.Text.Word

/-!
# Spans

The longest start of a text whose characters are of one class, where it ends, and the same from the
end of a text. A trimmed text ends with a character that is not blank, and so does every part of it
that reaches to its end.
-/

set_option autoImplicit false

namespace SpecLexicon.Text

variable {test : Char → Bool} {body rest : List Char}

theorem takeWhile_span (inside : ∀ c ∈ body, test c = true)
    (boundary : ∀ c ∈ rest.head?, test c = false) : (body ++ rest).takeWhile test = body := by
  rw [List.takeWhile_append_of_pos inside]
  cases rest with
  | nil => simp
  | cons c tail => simp [boundary c rfl]

theorem dropWhile_span (inside : ∀ c ∈ body, test c = true)
    (boundary : ∀ c ∈ rest.head?, test c = false) : (body ++ rest).dropWhile test = rest := by
  rw [List.dropWhile_append_of_pos inside]
  cases rest with
  | nil => simp
  | cons c tail => simp [boundary c rfl]

theorem head?_dropWhile_eq_false (test : Char → Bool) (text : List Char) :
    ∀ c ∈ (text.dropWhile test).head?, test c = false := by
  intro c found
  have := List.head?_dropWhile_not test text
  rw [Option.mem_def.mp found] at this
  simpa using this

theorem forall_mem_takeWhile (test : Char → Bool) (text : List Char) :
    ∀ c ∈ text.takeWhile test, test c = true :=
  fun c member => List.all_eq_true.mp List.all_takeWhile c member

/-- A word that does not hold a character ends in front of it. -/
theorem prefix_of_prefix_append {c : Char} {word front rest : List Char} (absent : c ∉ word)
    (starts : word <+: front ++ c :: rest) : word <+: front := by
  have whole : front ++ [c] <+: front ++ c :: rest := ⟨rest, by simp⟩
  rcases List.prefix_or_prefix_of_prefix starts whole with shorter | longer
  · rcases List.prefix_concat_iff.mp shorter with same | inside
    · exact absurd (same ▸ List.mem_append_right front List.mem_cons_self) absent
    · exact inside
  · exact absurd (longer.subset (List.mem_append_right front List.mem_cons_self)) absent

/-- The last character of a text, if there is one, is not blank. -/
def EndsVisibly (text : List Char) : Prop :=
  ∀ c ∈ text.getLast?, isBlank c = false

theorem EndsVisibly.of_append {front tail : List Char} (visible : EndsVisibly (front ++ tail)) :
    EndsVisibly tail := by
  intro c found
  apply visible
  rw [List.getLast?_append, Option.mem_def.mp found]
  rfl

theorem EndsVisibly.drop {text : List Char} (visible : EndsVisibly text) (length : Nat) :
    EndsVisibly (text.drop length) := by
  have whole : EndsVisibly (text.take length ++ text.drop length) := by
    rwa [List.take_append_drop]
  exact whole.of_append

/-- A blank text that ends with a character that is not blank is empty. -/
theorem EndsVisibly.eq_nil {text : List Char} (visible : EndsVisibly text)
    (blank : IsBlankText text) : text = [] := by
  cases found : text.getLast? with
  | none => exact List.getLast?_eq_none_iff.mp found
  | some c =>
    have shown := visible c found
    rw [blank c (List.mem_of_getLast? found)] at shown
    cases shown

theorem EndsVisibly.not_isBlankText_drop {text : List Char} (visible : EndsVisibly text)
    (tail : List Char) {length : Nat} (shorter : length < text.length) :
    ¬IsBlankText ((text ++ tail).drop length) := by
  intro blank
  rw [List.drop_append_of_le_length (Nat.le_of_lt shorter)] at blank
  have empty := (visible.drop length).eq_nil fun c member =>
    blank c (List.mem_append_left _ member)
  exact absurd (List.drop_eq_nil_iff.mp empty) (Nat.not_le_of_lt shorter)

theorem endsVisibly_dropBlankEnd (text : List Char) : EndsVisibly (dropBlankEnd text) := by
  intro c found
  rw [dropBlankEnd, List.getLast?_reverse] at found
  exact head?_dropWhile_eq_false isBlank text.reverse c found

theorem endsVisibly_trim (text : List Char) : EndsVisibly (trim text) :=
  endsVisibly_dropBlankEnd _

/-- What is dropped at the end of a text is blank. -/
theorem exists_dropBlankEnd_append (text : List Char) :
    ∃ tail, dropBlankEnd text ++ tail = text ∧ IsBlankText tail := by
  refine ⟨(text.reverse.takeWhile isBlank).reverse, ?_, ?_⟩
  · rw [dropBlankEnd, ← List.reverse_append, List.takeWhile_append_dropWhile, List.reverse_reverse]
  · intro c member
    exact forall_mem_takeWhile isBlank text.reverse c (List.mem_reverse.mp member)

theorem dropBlankEnd_append {front tail : List Char} (visible : EndsVisibly front)
    (blank : IsBlankText tail) : dropBlankEnd (front ++ tail) = front := by
  have boundary : ∀ c ∈ front.reverse.head?, isBlank c = false := by
    intro c found
    rw [List.head?_reverse] at found
    exact visible c found
  have inside : ∀ c ∈ tail.reverse, isBlank c = true := fun c member =>
    blank c (List.mem_reverse.mp member)
  rw [dropBlankEnd, List.reverse_append, dropWhile_span inside boundary, List.reverse_reverse]

theorem EndsVisibly.append {text : List Char} (visible : EndsVisibly text) (shown : text ≠ [])
    (front : List Char) : EndsVisibly (front ++ text) := by
  intro c found
  rw [List.getLast?_append] at found
  cases last : text.getLast? with
  | none => exact absurd (List.getLast?_eq_none_iff.mp last) shown
  | some d =>
    rw [last, Option.some_or, Option.mem_def, Option.some.injEq] at found
    exact found ▸ visible d last

/-- Blanks are dropped at the end of a text only behind its last part that shows something. -/
theorem dropBlankEnd_append_of_ne_nil (front : List Char) {text : List Char}
    (shown : dropBlankEnd text ≠ []) :
    dropBlankEnd (front ++ text) = front ++ dropBlankEnd text := by
  obtain ⟨tail, whole, blank⟩ := exists_dropBlankEnd_append text
  calc
    dropBlankEnd (front ++ text) = dropBlankEnd (front ++ dropBlankEnd text ++ tail) := by
      rw [List.append_assoc, whole]
    _ = front ++ dropBlankEnd text :=
      dropBlankEnd_append ((endsVisibly_dropBlankEnd text).append shown front) blank

theorem dropBlankEnd_ne_nil {text : List Char} {c : Char} {rest : List Char}
    (starts : text = c :: rest) (shown : isBlank c = false) : dropBlankEnd text ≠ [] := by
  intro empty
  obtain ⟨tail, whole, blank⟩ := exists_dropBlankEnd_append text
  rw [empty, List.nil_append] at whole
  rw [blank c (by simp [whole, starts])] at shown
  cases shown

theorem mem_of_mem_dropBlankEnd {text : List Char} {c : Char} (member : c ∈ dropBlankEnd text) :
    c ∈ text := by
  obtain ⟨tail, whole, _⟩ := exists_dropBlankEnd_append text
  rw [← whole]
  exact List.mem_append_left tail member

theorem dropBlank_eq_self {text : List Char} (visible : ∀ c ∈ text.head?, isBlank c = false) :
    dropBlank text = text := by
  cases text with
  | nil => rfl
  | cons c rest => exact List.dropWhile_cons_of_neg (by simp [visible c rfl])

theorem dropBlankEnd_eq_self {text : List Char} (visible : EndsVisibly text) :
    dropBlankEnd text = text := by
  have blank : IsBlankText [] := by simp [IsBlankText]
  have same := dropBlankEnd_append visible blank
  rwa [List.append_nil] at same

theorem head?_dropBlankEnd {text : List Char} (visible : ∀ c ∈ text.head?, isBlank c = false) :
    ∀ c ∈ (dropBlankEnd text).head?, isBlank c = false := by
  intro c found
  obtain ⟨tail, whole, _⟩ := exists_dropBlankEnd_append text
  obtain ⟨rest, starts⟩ := List.head?_eq_some_iff.mp found
  apply visible c
  rw [← whole, starts]
  rfl

theorem trim_trim (text : List Char) : trim (trim text) = trim text := by
  have starts : ∀ c ∈ (trim text).head?, isBlank c = false :=
    head?_dropBlankEnd (head?_dropWhile_eq_false isBlank text)
  rw [trim, dropBlank_eq_self starts, dropBlankEnd_eq_self (endsVisibly_trim text)]

theorem IsWord.isWordPart {word : List Char} (isWord : IsWord word) :
    ∀ c ∈ word, isWordPart c = true := by
  obtain ⟨first, rest, rfl, start, inside⟩ := isWord
  intro c member
  rcases List.mem_cons.mp member with rfl | later
  · rw [isWordStart, Bool.or_eq_true] at start
    rw [Text.isWordPart, Char.isAlphanum, Bool.or_eq_true, Bool.or_eq_true]
    exact start.imp_left .inl
  · exact inside c later

theorem isBlank_of_isWordPart {c : Char} (part : isWordPart c = true) : isBlank c = false := by
  by_cases start : isWordStart c = true
  · exact Mnemonic.isBlank_of_isWordStart start
  · have digit : c.isDigit = true := by
      rw [isWordStart, Bool.or_eq_true, not_or] at start
      rw [isWordPart, Char.isAlphanum, Bool.or_eq_true, Bool.or_eq_true] at part
      rcases part with (letter | digit) | underscore
      · exact absurd letter start.1
      · exact digit
      · exact absurd underscore start.2
    have bounds := toNat_of_isDigit digit
    simp only [isBlank, Bool.or_eq_false_iff, Bool.and_eq_false_iff, decide_eq_false_iff_not,
      beq_eq_false_iff_ne, ne_eq]
    omega

end SpecLexicon.Text
