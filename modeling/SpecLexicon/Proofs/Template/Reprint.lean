import SpecLexicon.Proofs.Mnemonic.Grammar
import SpecLexicon.Proofs.Template.Pattern
import SpecLexicon.Proofs.Template.Plain

/-!
# Templates printed again

A template is printed as its body with its comment behind a hash. What is printed is read as the
same template, unless the body is made of blanks. A line that has only a word in front of its hash
gives such a body if at least two blanks stand between them.
-/

set_option autoImplicit false

namespace SpecLexicon.Template

open Text

/-- Nothing but blanks follows the word at the start of the line, up to the first hash if there is
one. -/
def IsBare (line : List Char) : Prop :=
  ∃ word blanks remark, IsWord word ∧ IsBlankText blanks ∧
    line = word ++ (blanks ++ hashed remark)

/-- What stands between the body and the hash of a template that is printed. -/
def margin (template : Template) : List Char :=
  if template.comment.isSome then [' '] else []

/-- What stands behind that hash. -/
def printedRemark (template : Template) : Option (List Char) :=
  template.comment.map fun comment => ' ' :: comment.toList

/-- The template as a line of text. -/
def reprint (template : Template) : String :=
  String.ofList (template.body ++ template.margin ++ hashed template.printedRemark)

/-!
## Bare lines
-/

section Bare

variable {word blanks : List Char} {remark : Option (List Char)} (isWord : IsWord word)
  (blank : IsBlankText blanks)

include isWord blank

/-- A bare line falls into its word, its blanks, no words and its remark. -/
theorem Parts.of_bare {key front words : List Char} {found : Option (List Char)}
    (parts : Parts (word ++ (blanks ++ hashed remark)) key front words found) :
    key = word ∧ front = blanks ∧ words = [] ∧ found = remark := by
  have split := parts.splitHash_eq
  rw [Mnemonic.splitHash_line isWord blank, Prod.mk.injEq] at split
  obtain ⟨whole, rfl⟩ := split
  have leading := leadingWord?_append parts.key_isWord parts.key_longest
  have bare := Mnemonic.leadingWord?_line isWord blank none
  rw [hashed, Option.map_none, Option.getD_none, List.append_nil, whole, leading, Option.some.injEq,
    Prod.mk.injEq] at bare
  obtain ⟨rfl, rest⟩ := bare
  have blanks_split := parts.splitBlank_eq
  rw [rest, splitBlank, dropBlank_eq_nil_iff.mpr blank, Prod.mk.injEq] at blanks_split
  obtain ⟨-, rfl⟩ := blanks_split
  rw [List.append_nil] at rest
  exact ⟨rfl, rest, rfl, rfl⟩

theorem parts_of_bare (separated : blanks ≠ []) :
    Parts (word ++ (blanks ++ hashed remark)) word blanks [] remark where
  whole := by rw [List.append_nil, List.append_assoc]
  key_isWord := isWord
  key_longest := by simpa [hashed] using Mnemonic.boundary_blanks_hashed blank none
  blanks_blank := blank
  blanks_ne_nil := separated
  blanks_longest := by simp
  words_plain := List.not_mem_nil

/-- A bare line is read as a template exactly if a remark stands behind two blanks or more. -/
theorem isSome_parseTrimmed?_of_bare :
    (parseTrimmed? (word ++ (blanks ++ hashed remark))).isSome = true ↔
      remark.isSome = true ∧ 2 ≤ blanks.length ∧ IsOneLine remark := by
  constructor
  · intro found
    obtain ⟨template, parsed⟩ := Option.isSome_iff_exists.mp found
    obtain ⟨front, words, found, parts, accepted, -⟩ := parseTrimmed?_eq_some_iff.mp parsed
    obtain ⟨-, rfl, rfl, rfl⟩ := parts.of_bare isWord blank
    rcases accepted.filled with absent | ⟨remarked, two⟩
    · exact absurd rfl absent
    · exact ⟨remarked, two, accepted.oneLine⟩
  · rintro ⟨remarked, two, oneLine⟩
    have separated : blanks ≠ [] := by
      rintro rfl
      simp at two
    obtain ⟨template, parsed⟩ := exists_parseTrimmed?_eq_some
      (parts_of_bare isWord blank separated) ⟨.inr ⟨remarked, two⟩, oneLine⟩
    rw [parsed]
    rfl

end Bare

section Body

variable {line key blanks words : List Char} {remark : Option (List Char)}

theorem Parts.isBare_iff (parts : Parts line key blanks words remark) :
    IsBare line ↔ words = [] := by
  constructor
  · rintro ⟨word, front, found, isWord, blank, rfl⟩
    exact (parts.of_bare isWord blank).2.2.1
  · rintro rfl
    refine ⟨key, blanks, remark, parts.key_isWord, parts.blanks_blank, ?_⟩
    rw [parts.whole, List.append_nil, List.append_assoc]

/-- The words of a body that is not bare, without the blanks at their end. -/
theorem Parts.words_visible (parts : Parts line key blanks words remark) (filled : words ≠ []) :
    dropBlankEnd words ≠ [] ∧ (∀ c ∈ (dropBlankEnd words).head?, isBlank c = false) ∧
      bodyOf key blanks words = key ++ (blanks ++ dropBlankEnd words) := by
  have visible : dropBlankEnd words ≠ [] := by
    cases starts : words with
    | nil => exact absurd starts filled
    | cons c rest => exact dropBlankEnd_ne_nil rfl (parts.blanks_longest c (by rw [starts]; rfl))
  refine ⟨visible, head?_dropBlankEnd parts.blanks_longest, ?_⟩
  have behind := dropBlankEnd_append_of_ne_nil blanks visible
  rw [bodyOf, if_neg filled, dropBlankEnd_append_of_ne_nil key, behind]
  rw [behind]
  exact List.append_ne_nil_of_right_ne_nil _ visible

theorem endsVisibly_bodyOf (filled : words ≠ []) : EndsVisibly (bodyOf key blanks words) := by
  rw [bodyOf, if_neg filled]
  exact endsVisibly_dropBlankEnd _

end Body

/-!
## Printed lines
-/

theorem endsVisibly_of_isWord {word : List Char} (isWord : IsWord word) : EndsVisibly word :=
  fun c found => isBlank_of_isWordPart (isWord.isWordPart c (List.mem_of_getLast? found))

/-- A line that starts with a word has no blanks in front. -/
theorem trim_word_append {word : List Char} (isWord : IsWord word) (rest : List Char) :
    trim (word ++ rest) = dropBlankEnd (word ++ rest) := by
  obtain ⟨first, part, rfl, start, -⟩ := isWord
  have visible := Mnemonic.isBlank_of_isWordStart start
  rw [trim, dropBlank_eq_self]
  simpa using visible

theorem trimmed?_eq_self {text : List Char} (shown : text ≠ []) (trimmed : trim text = text) :
    trimmed? text = some text := by
  rw [trimmed?, trimmed]
  cases text with
  | nil => exact absurd rfl shown
  | cons c rest => rfl

theorem isBlankText_margin (template : Template) : IsBlankText template.margin := by
  rw [margin]
  split <;> simp [IsBlankText, isBlank]

/-- What stands behind the hash of a line that is printed with a remark. -/
def spaced (remark : Option String) : Option (List Char) :=
  remark.map fun shown => ' ' :: shown.toList

section Spaced

variable {remark : Option String} (remarks : ∀ shown ∈ remark, IsRemark shown)

include remarks

theorem spaced_reads : IsOneLine (spaced remark) ∧ commentOf (spaced remark) = remark := by
  cases found : remark with
  | none => simp [spaced, IsOneLine, commentOf]
  | some shown =>
    obtain ⟨visible, trimmed, plain⟩ := remarks shown found
    have behind : dropBlank (' ' :: shown.toList) = dropBlank shown.toList :=
      List.dropWhile_cons_of_pos (by decide)
    rw [spaced, Option.map_some]
    constructor
    · rintro text ⟨⟩ feed
      rw [behind] at feed
      exact plain ((List.dropWhile_suffix _).subset feed)
    · have kept : trimmed? (' ' :: shown.toList) = some shown.toList := by
        rw [← trimmed?_dropBlank, behind, trimmed?_dropBlank]
        exact trimmed?_eq_self (by simpa using visible) trimmed
      simp [commentOf, kept]

theorem endsVisibly_spaced (present : remark.isSome = true) (front : List Char) :
    EndsVisibly (front ++ hashed (spaced remark)) := by
  obtain ⟨shown, found⟩ := Option.isSome_iff_exists.mp present
  obtain ⟨visible, trimmed, -⟩ := remarks shown found
  have ends : EndsVisibly shown.toList := trimmed ▸ endsVisibly_trim shown.toList
  have whole := ends.append (by simpa using visible) (front ++ ['#', ' '])
  simpa [spaced, found, hashed] using whole

end Spaced

section Printed

variable {text : String} {template : Template} (parsed : parse? text = some template)

include parsed

theorem printedRemark_reads :
    IsOneLine template.printedRemark ∧ commentOf template.printedRemark = template.comment :=
  spaced_reads (isRemark_of_parse? parsed)

theorem endsVisibly_reprint (commented : template.comment.isSome = true) (front : List Char) :
    EndsVisibly (front ++ hashed template.printedRemark) :=
  endsVisibly_spaced (isRemark_of_parse? parsed) commented front

variable {line blanks words : List Char} {remark : Option (List Char)}
  (parts : Parts line template.key blanks words remark)

include parts

/-- A body that shows something behind its key is found again, with the comment behind it. -/
theorem parse?_reprint_of_filled (body : template.body = bodyOf template.key blanks words)
    (filled : words ≠ []) : parse? (reprint template) = some template := by
  obtain ⟨visible, starts, whole⟩ := parts.words_visible filled
  have ends : EndsVisibly template.body := body ▸ endsVisibly_bodyOf filled
  rw [whole] at body
  have printed : (reprint template).toList = template.key ++ (blanks ++
      (dropBlankEnd words ++ template.margin)) ++ hashed template.printedRemark := by
    simp [reprint, body]
  have trimmed : trim (reprint template).toList = (reprint template).toList := by
    have endsAlso : EndsVisibly (reprint template).toList := by
      rw [reprint, String.toList_ofList]
      cases commented : template.comment with
      | none => simpa [margin, printedRemark, hashed, commented] using ends
      | some comment => exact endsVisibly_reprint parsed (by simp [commented]) _
    rw [printed] at endsAlso ⊢
    rw [List.append_assoc] at endsAlso ⊢
    rw [trim_word_append template.key_isWord, dropBlankEnd_eq_self endsAlso]
  obtain ⟨oneLine, commented⟩ := printedRemark_reads parsed
  refine parseTrimmed?_eq_some_iff.mpr ⟨blanks, dropBlankEnd words ++ template.margin,
    template.printedRemark, ?_, ⟨.inl ?_, oneLine⟩, ?_, commented.symm⟩
  · rw [trimmed, printed]
    refine ⟨rfl, parts.key_isWord, ?_, parts.blanks_blank, parts.blanks_ne_nil, ?_, ?_⟩
    · intro c found
      apply parts.key_longest c
      cases front : blanks with
      | nil => exact absurd front parts.blanks_ne_nil
      | cons first rest => simpa [front] using found
    · intro c found
      apply starts c
      cases front : dropBlankEnd words with
      | nil => exact absurd front visible
      | cons first rest => simpa [front] using found
    · rw [List.mem_append]
      rintro (member | member)
      · exact parts.words_plain (mem_of_mem_dropBlankEnd member)
      · exact absurd (isBlankText_margin template _ member) (by decide)
  · exact List.append_ne_nil_of_left_ne_nil visible _
  · rw [bodyOf, if_neg (List.append_ne_nil_of_left_ne_nil visible _)]
    calc
      template.body = dropBlankEnd (template.body ++ template.margin) :=
        (dropBlankEnd_append ends (isBlankText_margin template)).symm
      _ = _ := by simp only [body, List.append_assoc]

/-- A body of blanks gets longer with a comment behind it, and is lost without one. -/
theorem parse?_reprint_of_blank (body : template.body = template.key ++ blanks) :
    parse? (reprint template) ≠ some template := by
  have isWord := template.key_isWord
  have blank := parts.blanks_blank
  have printed : (reprint template).toList = template.key ++ (blanks ++ template.margin ++
      hashed template.printedRemark) := by
    simp [reprint, body]
  -- No comment, and the blanks are trimmed; a comment, and there is one blank more.
  have front : ∃ front, IsBlankText front ∧ front ≠ blanks ∧ trim (reprint template).toList =
      template.key ++ (front ++ hashed template.printedRemark) := by
    cases commented : template.comment with
    | none =>
      refine ⟨[], by simp [IsBlankText], parts.blanks_ne_nil.symm, ?_⟩
      rw [printed, trim_word_append isWord]
      simpa [margin, printedRemark, hashed, commented] using
        dropBlankEnd_append (endsVisibly_of_isWord isWord) blank
    | some comment =>
      have ends := endsVisibly_reprint parsed (by simp [commented])
        (template.key ++ (blanks ++ template.margin))
      rw [List.append_assoc] at ends
      refine ⟨blanks ++ template.margin, ?_, by simp [margin, commented], ?_⟩
      · intro c member
        rcases List.mem_append.mp member with inBlanks | inMargin
        · exact blank c inBlanks
        · exact isBlankText_margin template c inMargin
      · rw [printed, trim_word_append isWord, dropBlankEnd_eq_self ends]
  obtain ⟨front, blankFront, other, trimmed⟩ := front
  intro same
  rw [parse?, trimmed] at same
  obtain ⟨_, _, _, again, -, bodyAgain, -⟩ := parseTrimmed?_eq_some_iff.mp same
  obtain ⟨-, rfl, rfl, -⟩ := again.of_bare isWord blankFront
  rw [body, bodyOf, if_pos rfl, List.append_nil] at bodyAgain
  exact other (List.append_cancel_left bodyAgain).symm

end Printed

/-- A line with nothing but blanks between its word and its hash is a template if these are at least
two. Any other template has something visible behind its key, ends with it, and is read again from
what is printed of it; a template of such a line has neither, and is not. -/
theorem parse?_bare_and_reprint (text : String) :
    (∀ word blanks remark, IsWord word → IsBlankText blanks →
      trim text.toList = word ++ (blanks ++ hashed remark) →
      ((parse? text).isSome = true ↔
        remark.isSome = true ∧ 2 ≤ blanks.length ∧ IsOneLine remark)) ∧
    ∀ template, parse? text = some template →
      (IsBlankText (template.body.drop template.key.length) ↔ IsBare (trim text.toList)) ∧
      (EndsVisibly template.body ↔ ¬IsBare (trim text.toList)) ∧
      (parse? (reprint template) = some template ↔ ¬IsBare (trim text.toList)) := by
  constructor
  · intro word blanks remark isWord blank whole
    rw [parse?, whole]
    exact isSome_parseTrimmed?_of_bare isWord blank
  · intro template parsed
    obtain ⟨blanks, words, remark, parts, -, body, -⟩ := parseTrimmed?_eq_some_iff.mp parsed
    rw [parts.isBare_iff]
    by_cases filled : words = []
    · subst filled
      have bare : template.body = template.key ++ blanks := by
        rw [body, bodyOf, if_pos rfl, List.append_nil]
      have hidden : ¬EndsVisibly template.body := by
        rw [bare]
        exact fun ends => parts.blanks_ne_nil (ends.of_append.eq_nil parts.blanks_blank)
      have lost := parse?_reprint_of_blank parsed parts bare
      have blank : IsBlankText (template.body.drop template.key.length) := by
        rw [bare, List.drop_left]
        exact parts.blanks_blank
      simp [blank, hidden, lost]
    · obtain ⟨visible, -, whole⟩ := parts.words_visible filled
      have ends : EndsVisibly template.body := body ▸ endsVisibly_bodyOf filled
      have found := parse?_reprint_of_filled parsed parts body filled
      have shown : ¬IsBlankText (template.body.drop template.key.length) := by
        rw [body, whole, List.drop_left]
        intro blank
        have none_left := (endsVisibly_dropBlankEnd words).eq_nil fun c member =>
          blank c (List.mem_append_right blanks member)
        exact visible none_left
      simp [filled, shown, ends, found]

theorem reprint_of_moves :
    (∃ template, parse? "mv x # c" = some template ∧
      parse? (reprint template) = some template) ∧
    (parse? "mv  # c").isSome = true := by
  constructor
  · have read : (parse? "mv x # c").map contents =
        some (['m', 'v'], ['m', 'v', ' ', 'x'], some "c") := by
      decide +kernel
    obtain ⟨template, parsed, same⟩ := Option.map_eq_some_iff.mp read
    obtain ⟨key, body, -⟩ : template.key = _ ∧ template.body = _ ∧ _ := by
      simpa [contents] using same
    obtain ⟨blank, -, again⟩ := (parse?_bare_and_reprint "mv x # c").2 template parsed
    refine ⟨template, parsed, again.mpr fun bare => ?_⟩
    have hidden := blank.mpr bare
    rw [key, body] at hidden
    exact absurd hidden (by decide)
  · have oneLine : IsOneLine (some [' ', 'c']) := by
      rintro shown ⟨⟩
      decide
    exact ((parse?_bare_and_reprint "mv  # c").1 ['m', 'v'] [' ', ' '] (some [' ', 'c'])
      ⟨'m', ['v'], rfl, by decide, List.all_eq_true.mp (by decide)⟩ (by decide) (by decide)).mpr
        ⟨rfl, by decide, oneLine⟩

/-- A move without a body, and a remark behind two blanks. -/
theorem blank_body_accepted :
    IsBare (trim "mv  # c".toList) ∧ ∃ template, parse? "mv  # c" = some template ∧
      IsBlankText (template.body.drop template.key.length) ∧ ¬EndsVisibly template.body ∧
      parse? (reprint template) ≠ some template := by
  have isWord : IsWord ['m', 'v'] :=
    ⟨'m', ['v'], rfl, by decide, List.all_eq_true.mp (by decide)⟩
  have blank : IsBlankText [' ', ' '] := by decide
  have whole : trim "mv  # c".toList = ['m', 'v'] ++ ([' ', ' '] ++ hashed (some [' ', 'c'])) := by
    decide
  have read : (parse? "mv  # c").map contents =
      some (['m', 'v'], ['m', 'v', ' ', ' '], some "c") := by
    decide +kernel
  obtain ⟨template, parsed, same⟩ := Option.map_eq_some_iff.mp read
  obtain ⟨key, body, -⟩ : template.key = _ ∧ template.body = _ ∧ _ := by
    simpa [contents] using same
  have parts : Parts _ ['m', 'v'] [' ', ' '] [] (some [' ', 'c']) :=
    parts_of_bare isWord blank (by simp)
  refine ⟨⟨_, _, _, isWord, blank, whole⟩, template, parsed, ?_, ?_, ?_⟩
  · rw [key, body]
    decide
  · rw [body]
    exact fun ends => absurd (ends ' ' rfl) (by decide)
  · rw [← key] at parts
    exact parse?_reprint_of_blank parsed parts (by rw [key, body]; rfl)

end SpecLexicon.Template
