import SpecLexicon.Proofs.Text.Pattern
import SpecLexicon.Proofs.Text.Span
import SpecLexicon.Snippet

/-!
# The language of templates

Which lines are templates, said in two ways that do not mention the reader: by the parts into which
a line falls, and by a pattern with three groups. The reader agrees with both. A line of any other
form is recorded as it was given.
-/

set_option autoImplicit false

namespace SpecLexicon.Template

open Text

/-- The text of a remark with its hash. -/
def hashed (remark : Option (List Char)) : List Char :=
  (remark.map ('#' :: ·)).getD []

/-- A line falls into the longest word at its start, the longest run of blanks behind it, what
follows up to the first hash, and what stands behind that hash. -/
structure Parts (line key blanks words : List Char) (remark : Option (List Char)) : Prop where
  whole : line = key ++ (blanks ++ words) ++ hashed remark
  key_isWord : IsWord key
  key_longest : ∀ c ∈ (blanks ++ words).head?, isWordPart c = false
  blanks_blank : IsBlankText blanks
  blanks_ne_nil : blanks ≠ []
  blanks_longest : ∀ c ∈ words.head?, isBlank c = false
  words_plain : '#' ∉ words

/-- A remark has no line feed but among the blanks at its start. -/
def IsOneLine (remark : Option (List Char)) : Prop :=
  ∀ shown ∈ remark, '\n' ∉ dropBlank shown

/-- The parts make up a template: something stands behind the blanks, or else a remark behind at
least two of them. -/
structure Accepted (blanks words : List Char) (remark : Option (List Char)) : Prop where
  filled : words ≠ [] ∨ remark.isSome ∧ 2 ≤ blanks.length
  oneLine : IsOneLine remark

/-- The body of a template ends with a character that is not blank, unless it has only a key. -/
def bodyOf (key blanks words : List Char) : List Char :=
  if words = [] then key ++ (blanks ++ words) else dropBlankEnd (key ++ (blanks ++ words))

def commentOf (remark : Option (List Char)) : Option String :=
  (remark.bind trimmed?).map String.ofList

/-!
## The parts of a line
-/

theorem eq_hash_of_head?_hashed {remark : Option (List Char)} {c : Char}
    (found : c ∈ (hashed remark).head?) : c = '#' := by
  cases remark with
  | none => cases found
  | some shown => simpa [hashed, eq_comm] using found

section Front

variable {front : List Char} (plain : '#' ∉ front) (remark : Option (List Char))

include plain

/-- What stands in front of a remark reaches up to its hash. -/
theorem span_hashed : (front ++ hashed remark).takeWhile (· != '#') = front ∧
    (front ++ hashed remark).dropWhile (· != '#') = hashed remark := by
  have inside : ∀ c ∈ front, (c != '#') = true := by
    intro c member
    rw [bne_iff_ne]
    rintro rfl
    exact plain member
  have boundary : ∀ c ∈ (hashed remark).head?, (c != '#') = false := by
    intro c found
    rw [eq_hash_of_head?_hashed found]
    rfl
  exact ⟨takeWhile_span inside boundary, dropWhile_span inside boundary⟩

theorem splitHash_hashed : splitHash (front ++ hashed remark) = (front, remark) := by
  rw [splitHash, (span_hashed plain remark).1, (span_hashed plain remark).2]
  cases remark <;> rfl

end Front

theorem leadingWord?_append {word rest : List Char} (isWord : IsWord word)
    (boundary : ∀ c ∈ rest.head?, isWordPart c = false) :
    leadingWord? (word ++ rest) = some (word, rest) := by
  obtain ⟨first, part, rfl, start, inside⟩ := isWord
  rw [List.cons_append, leadingWord?, if_pos start, takeWhile_span inside boundary,
    dropWhile_span inside boundary]

theorem boundary_of_leadingWord? {text word rest : List Char}
    (split : leadingWord? text = some (word, rest)) : ∀ c ∈ rest.head?, isWordPart c = false := by
  cases text with
  | nil => cases split
  | cons c tail =>
    rw [leadingWord?] at split
    split at split
    · simp only [Option.some.injEq, Prod.mk.injEq] at split
      rw [← split.2]
      exact head?_dropWhile_eq_false isWordPart tail
    · cases split

namespace Parts

variable {line key blanks words : List Char} {remark : Option (List Char)}

theorem front_plain (parts : Parts line key blanks words remark) :
    '#' ∉ key ++ (blanks ++ words) := by
  rw [List.mem_append, List.mem_append]
  rintro (member | member | member)
  · obtain ⟨first, rest, rfl, start, inside⟩ := parts.key_isWord
    rcases List.mem_cons.mp member with rfl | later
    · exact absurd start (by decide)
    · exact absurd (inside _ later) (by decide)
  · exact absurd (parts.blanks_blank _ member) (by decide)
  · exact parts.words_plain member

theorem splitHash_eq (parts : Parts line key blanks words remark) :
    splitHash line = (key ++ (blanks ++ words), remark) := by
  rw [parts.whole, splitHash_hashed parts.front_plain]

theorem splitBlank_eq (parts : Parts line key blanks words remark) :
    splitBlank (blanks ++ words) = (blanks, words) := by
  rw [splitBlank, dropBlank, takeWhile_span parts.blanks_blank parts.blanks_longest,
    dropWhile_span parts.blanks_blank parts.blanks_longest]

end Parts

/-- A line in which blanks follow the word at its start falls into parts. -/
theorem exists_parts {line key rest : List Char}
    (split : leadingWord? (splitHash line).1 = some (key, rest))
    (blank : (splitBlank rest).1 ≠ []) :
    Parts line key (splitBlank rest).1 (splitBlank rest).2 (splitHash line).2 := by
  have front : key ++ rest = (splitHash line).1 := append_of_leadingWord? split
  have rest_eq := append_splitBlank rest
  refine ⟨?_, isWord_of_leadingWord? split, ?_, forall_mem_takeWhile isBlank rest, blank,
    head?_dropWhile_eq_false isBlank rest, ?_⟩
  · rw [rest_eq, front]
    exact (append_splitHash line).symm
  · rw [rest_eq]
    exact boundary_of_leadingWord? split
  · intro member
    have inFront : '#' ∈ (splitHash line).1 := by
      rw [← front, ← rest_eq]
      exact List.mem_append_right _ (List.mem_append_right _ member)
    have := forall_mem_takeWhile (· != '#') line _ inFront
    exact absurd this (by decide)

/-!
## The reader and the parts
-/

theorem bodyTail?_eq_some_iff {blanks words tail : List Char} {remark : Bool} :
    bodyTail? blanks words remark = some tail ↔
      blanks ≠ [] ∧ (words ≠ [] ∨ remark = true ∧ 2 ≤ blanks.length) ∧
        tail = if words = [] then blanks else dropBlankEnd (blanks ++ words) := by
  cases blanks with
  | nil => simp [bodyTail?]
  | cons blank others =>
    cases words with
    | cons first rest => simp [bodyTail?, eq_comm]
    | nil =>
      cases others with
      | nil => simp [bodyTail?]
      | cons second rest =>
        cases remark with
        | false => simp [bodyTail?]
        | true => simp [bodyTail?, eq_comm]

theorem trimmed?_dropBlank (text : List Char) : trimmed? (dropBlank text) = trimmed? text := by
  have same : dropBlank (dropBlank text) = dropBlank text := by
    have twice : ([] ++ text.dropWhile isBlank).dropWhile isBlank = text.dropWhile isBlank :=
      dropWhile_span (fun _ member => absurd member List.not_mem_nil)
        (head?_dropWhile_eq_false isBlank text)
    exact twice
  rw [trimmed?, trimmed?, trim, trim, same]

theorem readRemark_eq_some_iff {remark : Option (List Char)} {comment : Option (List Char)} :
    (remark.map readRemark?).getD (some none) = some comment ↔
      IsOneLine remark ∧ comment = remark.bind trimmed? := by
  cases remark with
  | none => simp [IsOneLine, eq_comm]
  | some shown =>
    by_cases feed : '\n' ∈ dropBlank shown
    · simp [IsOneLine, readRemark?, feed]
    · simp [IsOneLine, readRemark?, feed, trimmed?_dropBlank, eq_comm]

theorem bodyOf_eq {blanks words : List Char} (key : List Char)
    (boundary : ∀ c ∈ words.head?, isBlank c = false) :
    key ++ (if words = [] then blanks else dropBlankEnd (blanks ++ words)) =
      bodyOf key blanks words := by
  cases words with
  | nil => simp [bodyOf]
  | cons first rest =>
    have shown : dropBlankEnd (blanks ++ first :: rest) ≠ [] := by
      rw [dropBlankEnd_append_of_ne_nil blanks
        (dropBlankEnd_ne_nil rfl (boundary first rfl))]
      exact List.append_ne_nil_of_right_ne_nil _ (dropBlankEnd_ne_nil rfl (boundary first rfl))
    rw [if_neg (by simp), bodyOf, if_neg (by simp), dropBlankEnd_append_of_ne_nil key shown]

theorem parseTrimmed?_eq_some_iff {line : List Char} {template : Template} :
    parseTrimmed? line = some template ↔
      ∃ blanks words remark, Parts line template.key blanks words remark ∧
        Accepted blanks words remark ∧ template.body = bodyOf template.key blanks words ∧
        template.comment = commentOf remark := by
  constructor
  · intro parsed
    unfold parseTrimmed? at parsed
    dsimp only at parsed
    split at parsed
    · cases parsed
    · rename_i key rest split
      split at parsed
      · rename_i tail comment tailFound commentFound
        obtain ⟨blanksFound, filled, rfl⟩ := bodyTail?_eq_some_iff.mp tailFound
        obtain ⟨oneLine, rfl⟩ := readRemark_eq_some_iff.mp commentFound
        have parts := exists_parts split blanksFound
        cases parsed
        exact ⟨_, _, _, parts, ⟨filled, oneLine⟩, bodyOf_eq key parts.blanks_longest, rfl⟩
      · cases parsed
  · rintro ⟨blanks, words, remark, parts, accepted, body, comment⟩
    have leading := leadingWord?_append parts.key_isWord parts.key_longest
    have tailFound : bodyTail? blanks words remark.isSome =
        some (if words = [] then blanks else dropBlankEnd (blanks ++ words)) :=
      bodyTail?_eq_some_iff.mpr ⟨parts.blanks_ne_nil, accepted.filled, rfl⟩
    have commentFound : (remark.map readRemark?).getD (some none) = some (remark.bind trimmed?) :=
      readRemark_eq_some_iff.mpr ⟨accepted.oneLine, rfl⟩
    unfold parseTrimmed?
    dsimp only
    split
    · rename_i absent
      rw [parts.splitHash_eq, leading] at absent
      cases absent
    · rename_i key rest split
      rw [parts.splitHash_eq, leading, Option.some.injEq, Prod.mk.injEq] at split
      obtain ⟨sameKey, rfl⟩ := split
      have remarkFound : (splitHash line).2 = remark := congrArg Prod.snd parts.splitHash_eq
      simp only [parts.splitBlank_eq, remarkFound, tailFound, commentFound]
      obtain ⟨templateKey, templateBody, templateComment, _, _⟩ := template
      dsimp only at sameKey body comment
      subst sameKey body comment
      rw [Option.some.injEq, Template.mk.injEq]
      exact ⟨rfl, bodyOf_eq _ parts.blanks_longest, rfl⟩

end SpecLexicon.Template
