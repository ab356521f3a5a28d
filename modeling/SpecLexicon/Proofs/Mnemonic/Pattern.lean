import SpecLexicon.Proofs.Mnemonic.Grammar
import SpecLexicon.Proofs.Template.Pattern

/-!
# The pattern of mnemonics

The language of mnemonics as a pattern: a letter or an underscore, at most six more characters of a
word, and the same tail as that of a template, with blanks and possibly a remark. Whatever length
the pattern tries for the name, its tail fails within a word. So the captures of its first way to
match are those that the reader gives, and a longer word does not match at all.
-/

set_option autoImplicit false

namespace SpecLexicon.Mnemonic

open Text Pattern
open Template (hashed IsOneLine commentOf tailPattern remarkGroups)

def namePattern : Pattern :=
  .sequence (.one isWordStart) (.upTo isWordPart 6)

/-- Group one is the name. The remark is group three, as in a template. -/
def pattern : Pattern :=
  .sequence (.group 1 namePattern) tailPattern

/-- What the groups of the pattern hold: name and description. -/
def captures (found : Match) : List Char × Option String :=
  ((found.group? 1).getD [], ((found.group? 3).bind trimmed?).map String.ofList)

def contents (mnemonic : Mnemonic) : List Char × Option String :=
  (mnemonic.name, mnemonic.description)

variable {α : Type} {goOn : Match → Option α} {line : List Char}

/-- The match of the pattern: the first character of a name, the others, and the tail. -/
def assembled (first : Char) (others tail : Match) : Match :=
  ⟨first :: others.taken ++ tail.taken,
    (1, first :: others.taken) :: (others.groups ++ tail.groups), tail.rest⟩

/-- The pattern at a letter: it goes on with the tail behind at most six more characters. -/
theorem firstResult?_pattern_cons {first : Char} {rest : List Char}
    (start : isWordStart first = true) :
    pattern.firstResult? (first :: rest) goOn =
      (run .most 0 isWordPart).firstResult? rest fun others =>
        if others.taken.length ≤ 6 then
          tailPattern.firstResult? others.rest fun tail => goOn (assembled first others tail)
        else none := by
  simp only [pattern, namePattern, firstResult?_sequence, firstResult?_group]
  rw [firstResult?_one_cons start, firstResult?_upTo]
  rfl

/-- The tail fails within a word. -/
theorem firstResult?_tail_within_word {part blanks : List Char} {remark : Option (List Char)}
    (visible : EndsVisibly (part ++ blanks ++ hashed remark)) (plain : '#' ∉ part ++ blanks)
    (inside : ∀ c ∈ part, isWordPart c = true) {length : Nat} (shorter : length < part.length) :
    tailPattern.firstResult? ((part ++ blanks ++ hashed remark).drop length) goOn = none := by
  have fits : length ≤ (part ++ blanks).length := by
    rw [List.length_append]
    omega
  rw [List.drop_append_of_le_length fits]
  apply Template.firstResult?_tail_eq_none
  · rw [← List.drop_append_of_le_length fits]
    exact visible.drop length
  · exact fun member => plain (List.mem_of_mem_drop member)
  · left
    intro blank
    have reached : part[length] ∈ (part ++ blanks).drop length := by
      rw [List.drop_append_of_le_length (Nat.le_of_lt shorter)]
      exact List.mem_append_left _ (List.mem_drop_iff_getElem.mpr ⟨0, by omega, by simp⟩)
    have shown := isBlank_of_isWordPart (inside _ (List.getElem_mem shorter))
    rw [blank _ reached] at shown
    cases shown

theorem first?_of_isLine {name blanks : List Char} {remark : Option (List Char)}
    (visible : EndsVisibly line) (isLine : IsLine line name blanks remark) :
    pattern.first? line = some ⟨line, (1, name) :: remarkGroups remark, []⟩ := by
  obtain ⟨isWord, short⟩ := isLine.name_fits
  have plain := hash_not_mem_name_blanks isWord isLine.blank
  have whole := isLine.whole
  obtain ⟨first, part, rfl, start, inside⟩ := isWord
  rw [List.cons_append] at whole plain
  have boundary := boundary_blanks_hashed isLine.blank remark
  have taken := takeWhile_span inside boundary
  have behind := dropWhile_span inside boundary
  rw [whole] at visible ⊢
  have visibleRest : EndsVisibly ([first] ++ (part ++ (blanks ++ hashed remark))) := visible
  have inner := visibleRest.of_append
  rw [first?_eq_firstResult?, firstResult?_pattern_cons start, firstResult?_run_most_longest
    (Nat.zero_le _), taken, behind]
  · have bounded : part.length ≤ 6 := Nat.le_of_succ_le_succ short
    rw [if_pos bounded, Template.firstResult?_tail isLine.blank isLine.oneLine]
    rfl
  · intro length shorter
    rw [taken] at shorter
    split
    · rw [← List.append_assoc] at inner ⊢
      exact firstResult?_tail_within_word inner (List.not_mem_of_not_mem_cons plain) inside shorter
    · rfl

theorem head?_of_leadingWord?_eq_none {text : List Char} (absent : leadingWord? text = none) :
    ∀ c ∈ text.head?, isWordStart c = false := by
  intro c found
  obtain ⟨rest, rfl⟩ := List.head?_eq_some_iff.mp found
  simpa [leadingWord?] using absent

/-- Every way through the pattern fails on a line that is none of a mnemonic. -/
theorem first?_eq_none (visible : EndsVisibly line)
    (refused : ∀ name blanks remark, ¬IsLine line name blanks remark) :
    pattern.first? line = none := by
  rw [first?_eq_firstResult?]
  cases split : leadingWord? line with
  | none =>
    simp only [pattern, namePattern, firstResult?_sequence, firstResult?_group]
    exact firstResult?_one_eq_none (head?_of_leadingWord?_eq_none split)
  | some found =>
    obtain ⟨name, rest⟩ := found
    have boundary := Template.boundary_of_leadingWord? split
    have isWord := isWord_of_leadingWord? split
    obtain rfl : name ++ rest = line := append_of_leadingWord? split
    obtain ⟨blanks, remark, parts, plainBlanks⟩ : ∃ blanks remark,
        blanks ++ hashed remark = rest ∧ '#' ∉ blanks := by
      refine ⟨(splitHash rest).1, (splitHash rest).2, append_splitHash rest, fun member => ?_⟩
      exact absurd (forall_mem_takeWhile (· != '#') rest _ member) (by decide)
    subst parts
    obtain ⟨first, part, rfl, start, inside⟩ := isWord
    have plain : '#' ∉ part ++ blanks := by
      rw [List.mem_append]
      intro member
      cases member with
      | inl inPart => exact absurd (inside _ inPart) (by decide)
      | inr inBlanks => exact plainBlanks inBlanks
    have taken := takeWhile_span inside boundary
    have visibleRest : EndsVisibly ([first] ++ (part ++ (blanks ++ hashed remark))) := visible
    have inner := visibleRest.of_append
    rw [List.cons_append, firstResult?_pattern_cons start]
    apply firstResult?_run_eq_none
    intro length _ within
    rw [taken] at within
    split
    · rename_i bounded
      cases Nat.lt_or_eq_of_le within with
      | inl shorter =>
        rw [← List.append_assoc] at inner ⊢
        exact firstResult?_tail_within_word inner plain inside shorter
      | inr same =>
        -- The whole word is taken, and the tail could only match a line of the grammar.
        have fits : part.length ≤ 6 := by
          simpa [Match.split, same] using bounded
        have behind : (Match.split length (part ++ (blanks ++ hashed remark))).rest =
            blanks ++ hashed remark := by
          rw [Match.split, same, List.drop_left]
        rw [behind]
        apply Template.firstResult?_tail_eq_none inner.of_append plainBlanks
        apply Classical.byContradiction
        intro accepted
        rw [not_or, Classical.not_not, Classical.not_not] at accepted
        have bare : remark = none → blanks = [] := by
          intro absent
          have ends := inner.of_append
          rw [absent, hashed, Option.map_none, Option.getD_none, List.append_nil] at ends
          exact ends.eq_nil accepted.1
        exact refused _ _ _ (.of_parts ⟨⟨first, part, rfl, start, inside⟩,
          Nat.succ_le_succ fits⟩ accepted.1 accepted.2 bare)
    · rfl

/-!
## The reader and the pattern
-/

theorem captures_groups (line name : List Char) (remark : Option (List Char)) :
    captures ⟨line, (1, name) :: remarkGroups remark, []⟩ = (name, commentOf remark) := by
  cases remark with
  | none => rfl
  | some shown =>
    change (name, (trimmed? (dropBlank shown)).map String.ofList) = _
    rw [Template.trimmed?_dropBlank]
    rfl

theorem exists_parseTrimmed?_of_isLine {name blanks : List Char} {remark : Option (List Char)}
    (isLine : IsLine line name blanks remark) :
    ∃ mnemonic, parseTrimmed? line = some mnemonic :=
  ⟨⟨name, commentOf remark, isLine.name_fits⟩, parseTrimmed?_of_isLine isLine rfl⟩

theorem captures_first? (visible : EndsVisibly line) :
    (pattern.first? line).map captures = (parseTrimmed? line).map contents := by
  cases parsed : parseTrimmed? line with
  | some mnemonic =>
    obtain ⟨blanks, remark, isLine, description⟩ := (parseTrimmed?_eq_some_iff visible).mp parsed
    rw [first?_of_isLine visible isLine, Option.map_some, captures_groups, Option.map_some,
      contents, description]
  | none =>
    have refused (name blanks : List Char) (remark : Option (List Char)) :
        ¬IsLine line name blanks remark := by
      intro isLine
      obtain ⟨mnemonic, found⟩ := exists_parseTrimmed?_of_isLine isLine
      rw [parsed] at found
      cases found
    rw [first?_eq_none visible refused]
    rfl

/-- A line is a mnemonic exactly if, trimmed, it is a name or a name with a remark. It is so in one
way only, name and description are determined by the parts, and they are what the pattern captures.
Any other line is recorded as it was given, blanks at its ends included, and makes no symbol. -/
theorem parse?_iff_isLine (line : LooseText) :
    let trimmed := trim line.plain.toList
    ((parse? line.plain).isSome = true ↔ ∃ name blanks remark,
      IsLine trimmed name blanks remark) ∧
    (∀ name blanks remark other otherBlanks otherRemark,
      IsLine trimmed name blanks remark → IsLine trimmed other otherBlanks otherRemark →
        name = other ∧ blanks = otherBlanks ∧ remark = otherRemark) ∧
    (∀ mnemonic, parse? line.plain = some mnemonic ↔ ∃ blanks remark,
      IsLine trimmed mnemonic.name blanks remark ∧ mnemonic.description = commentOf remark) ∧
    (parse? line.plain).map contents = (pattern.first? trimmed).map captures ∧
    ∀ built, parse? line.plain = none ↔ addLine built line =
      { built with journal := built.journal ++
        [⟨.debug, .mnemonics, "Skipped: " ++ (Rejection.mk line "mnemonic").message⟩] } := by
  intro trimmed
  have visible : EndsVisibly trimmed := endsVisibly_trim _
  refine ⟨?_, fun _ _ _ _ _ _ isLine also => isLine.unique also,
    fun mnemonic => parseTrimmed?_eq_some_iff visible, (captures_first? visible).symm, ?_⟩
  · rw [Option.isSome_iff_exists]
    constructor
    · intro ⟨mnemonic, parsed⟩
      obtain ⟨blanks, remark, isLine, _⟩ := (parseTrimmed?_eq_some_iff visible).mp parsed
      exact ⟨mnemonic.name, blanks, remark, isLine⟩
    · intro ⟨name, blanks, remark, isLine⟩
      exact exists_parseTrimmed?_of_isLine isLine
  · intro built
    cases parsed : parse? line.plain with
    | none => simp [addLine, parsed, rejection]
    | some mnemonic =>
      simp only [addLine, parsed, reduceCtorEq, false_iff]
      intro same
      have counted := congrArg (fun rebuilt => rebuilt.journal.length) same
      simp at counted

/-- Seven characters, the most of a name, with two hashes behind them and blanks that hold a line
feed. -/
theorem parse?_of_seven_characters :
    IsLine (trim "abcdefg \n#\n a # b ".toList) "abcdefg".toList " \n".toList
        (some "\n a # b".toList) ∧
      ∃ mnemonic, parse? "abcdefg \n#\n a # b " = some mnemonic ∧
        mnemonic.name = "abcdefg".toList ∧ mnemonic.description = some "a # b" := by
  have fits : IsMnemonicName "abcdefg".toList := by
    have inside := List.all_eq_true.mp (show "bcdefg".toList.all isWordPart = true by decide)
    exact ⟨⟨'a', "bcdefg".toList, by decide, by decide, inside⟩, by decide⟩
  have isLine : IsLine (trim "abcdefg \n#\n a # b ".toList) "abcdefg".toList " \n".toList
      (some "\n a # b".toList) := by
    have blank : IsBlankText " \n".toList := by decide
    exact .remarked fits blank (by decide)
  have reads := (parse?_iff_isLine (.text "abcdefg \n#\n a # b ")).2.2.1
  refine ⟨isLine, ⟨"abcdefg".toList, some "a # b", fits⟩, ?_, rfl, rfl⟩
  exact (reads _).mpr ⟨_, _, isLine, rfl⟩

/-- Eight characters are too many, and so is a second word. -/
example : parse? "abcdefgh # eight" = none ∧ parse? "th tth" = none := by
  decide +kernel

end SpecLexicon.Mnemonic
