import SpecLexicon.Proofs.Template.Grammar

/-!
# The language of mnemonics

Which lines are mnemonics, said without the reader: a name, or a name with a remark behind a hash.
A line falls into these parts in one way only, and the reader finds them. Lines come trimmed, so
that blanks stand behind a name only where a hash follows.
-/

set_option autoImplicit false

namespace SpecLexicon.Mnemonic

open Text
open Template (hashed IsOneLine commentOf)

/-- A line is a name, or a name that a remark follows, with blanks in front of its hash. The remark
has no line feed but among the blanks at its start. -/
inductive IsLine : List Char → List Char → List Char → Option (List Char) → Prop
  | bare {name : List Char} : IsMnemonicName name → IsLine name name [] none
  | remarked {name blanks shown : List Char} :
      IsMnemonicName name → IsBlankText blanks → '\n' ∉ dropBlank shown →
      IsLine (name ++ (blanks ++ '#' :: shown)) name blanks (some shown)

namespace IsLine

variable {line name blanks : List Char} {remark : Option (List Char)}

theorem name_fits (isLine : IsLine line name blanks remark) : IsMnemonicName name := by
  cases isLine with
  | bare fits => exact fits
  | remarked fits _ _ => exact fits

theorem blank (isLine : IsLine line name blanks remark) : IsBlankText blanks := by
  cases isLine with
  | bare _ => simp [IsBlankText]
  | remarked _ blank _ => exact blank

theorem oneLine (isLine : IsLine line name blanks remark) : IsOneLine remark := by
  cases isLine with
  | bare _ => simp [IsOneLine]
  | remarked _ _ plain => simpa [IsOneLine] using plain

theorem whole (isLine : IsLine line name blanks remark) :
    line = name ++ (blanks ++ hashed remark) := by
  cases isLine with
  | bare _ => simp [hashed]
  | remarked _ _ _ => simp [hashed]

theorem of_parts (fits : IsMnemonicName name) (blank : IsBlankText blanks)
    (oneLine : IsOneLine remark) (bare : remark = none → blanks = []) :
    IsLine (name ++ (blanks ++ hashed remark)) name blanks remark := by
  cases remark with
  | none =>
    rw [bare rfl]
    simpa [hashed] using IsLine.bare fits
  | some shown => exact .remarked fits blank (oneLine shown rfl)

end IsLine

theorem isWordPart_of_isBlank {c : Char} (blank : isBlank c = true) : isWordPart c = false := by
  cases part : isWordPart c with
  | false => rfl
  | true =>
    rw [isBlank_of_isWordPart part] at blank
    cases blank

section Parts

variable {name blanks : List Char} (isWord : IsWord name) (blank : IsBlankText blanks)
  (remark : Option (List Char))

include blank

/-- Neither blanks nor a hash go on with a word. -/
theorem boundary_blanks_hashed :
    ∀ c ∈ (blanks ++ hashed remark).head?, isWordPart c = false := by
  intro c found
  cases blanks with
  | nil =>
    rw [Template.eq_hash_of_head?_hashed found]
    decide
  | cons first rest =>
    obtain rfl : first = c := Option.some.inj found
    exact isWordPart_of_isBlank (blank first List.mem_cons_self)

theorem dropBlank_blanks_hashed : dropBlank (blanks ++ hashed remark) = hashed remark := by
  apply dropWhile_span blank
  intro c found
  rw [Template.eq_hash_of_head?_hashed found]
  decide

include isWord

theorem leadingWord?_line :
    leadingWord? (name ++ (blanks ++ hashed remark)) = some (name, blanks ++ hashed remark) :=
  Template.leadingWord?_append isWord (boundary_blanks_hashed blank remark)

theorem hash_not_mem_name_blanks : '#' ∉ name ++ blanks := by
  rw [List.mem_append]
  intro member
  cases member with
  | inl inName =>
    obtain ⟨first, rest, rfl, start, inside⟩ := isWord
    cases List.mem_cons.mp inName with
    | inl same => exact absurd (same ▸ start) (by decide)
    | inr later => exact absurd (inside _ later) (by decide)
  | inr inBlanks => exact absurd (blank _ inBlanks) (by decide)

theorem splitHash_line :
    splitHash (name ++ (blanks ++ hashed remark)) = (name ++ blanks, remark) := by
  rw [← List.append_assoc]
  exact Template.splitHash_hashed (hash_not_mem_name_blanks isWord blank) remark

end Parts

/-- A line falls into its parts in one way only. -/
theorem IsLine.unique {line name blanks other otherBlanks : List Char}
    {remark otherRemark : Option (List Char)} (isLine : IsLine line name blanks remark)
    (also : IsLine line other otherBlanks otherRemark) :
    name = other ∧ blanks = otherBlanks ∧ remark = otherRemark := by
  -- The first hash separates the remark, and the first character outside of a word the blanks.
  have first := isLine.whole
  have second := also.whole
  have words : some (name, blanks ++ hashed remark) =
      some (other, otherBlanks ++ hashed otherRemark) := by
    rw [← leadingWord?_line isLine.name_fits.1 isLine.blank,
      ← leadingWord?_line also.name_fits.1 also.blank, ← first, ← second]
  have fronts : (name ++ blanks, remark) = (other ++ otherBlanks, otherRemark) := by
    rw [← splitHash_line isLine.name_fits.1 isLine.blank,
      ← splitHash_line also.name_fits.1 also.blank, ← first, ← second]
  obtain ⟨rfl, _⟩ := Prod.mk.inj (Option.some.inj words)
  obtain ⟨front, rfl⟩ := Prod.mk.inj fronts
  exact ⟨rfl, List.append_cancel_left front, rfl⟩

/-!
## The reader and the parts
-/

theorem readRemark?_eq_some_iff {shown : List Char} {description : Option (List Char)} :
    readRemark? shown = some description ↔
      '\n' ∉ dropBlank shown ∧ description = trimmed? shown := by
  have read := @Template.readRemark_eq_some_iff (some shown) description
  simpa [IsOneLine] using read

/-- What the reader gives for the text behind a name. -/
theorem parseTrimmed?_of_leadingWord? {line name rest : List Char}
    (split : leadingWord? line = some (name, rest)) (fits : IsMnemonicName name) :
    parseTrimmed? line = match dropBlank rest with
      | [] => some ⟨name, none, fits⟩
      | c :: remark => if c = '#' then (readRemark? remark).map fun description =>
          ⟨name, description.map String.ofList, fits⟩ else none := by
  unfold parseTrimmed?
  split
  · rename_i absent
    rw [split] at absent
    cases absent
  · rename_i found
    cases split.symm.trans found
    exact dif_pos fits.2

theorem parseTrimmed?_of_isLine {line blanks : List Char} {remark : Option (List Char)}
    {mnemonic : Mnemonic} (isLine : IsLine line mnemonic.name blanks remark)
    (described : mnemonic.description = commentOf remark) :
    parseTrimmed? line = some mnemonic := by
  have fits := isLine.name_fits
  have split := leadingWord?_line fits.1 isLine.blank remark
  rw [← isLine.whole] at split
  rw [parseTrimmed?_of_leadingWord? split fits, dropBlank_blanks_hashed isLine.blank]
  obtain ⟨name, description, _⟩ := mnemonic
  obtain rfl : description = commentOf remark := described
  cases isLine with
  | bare _ => rfl
  | remarked _ _ plain =>
    have read := readRemark?_eq_some_iff.mpr ⟨plain, rfl⟩
    simp [hashed, read, commentOf]

theorem exists_leadingWord?_of_parseTrimmed? {line : List Char} {mnemonic : Mnemonic}
    (parsed : parseTrimmed? line = some mnemonic) :
    ∃ rest, leadingWord? line = some (mnemonic.name, rest) := by
  unfold parseTrimmed? at parsed
  split at parsed
  · cases parsed
  · rename_i name rest split
    refine ⟨rest, ?_⟩
    split at parsed
    · dsimp only at parsed
      split at parsed
      · cases parsed
        exact split
      · split at parsed
        · obtain ⟨_, _, rfl⟩ := Option.map_eq_some_iff.mp parsed
          exact split
        · cases parsed
    · cases parsed

theorem exists_isLine_of_parseTrimmed? {line : List Char} {mnemonic : Mnemonic}
    (visible : EndsVisibly line) (parsed : parseTrimmed? line = some mnemonic) :
    ∃ blanks remark, IsLine line mnemonic.name blanks remark ∧
      mnemonic.description = commentOf remark := by
  obtain ⟨rest, split⟩ := exists_leadingWord?_of_parseTrimmed? parsed
  have whole : mnemonic.name ++ rest = line := append_of_leadingWord? split
  have parts : rest.takeWhile isBlank ++ dropBlank rest = rest :=
    List.takeWhile_append_dropWhile
  rw [parseTrimmed?_of_leadingWord? split mnemonic.name_fits] at parsed
  obtain ⟨name, description, fits⟩ := mnemonic
  dsimp only at whole parsed ⊢
  cases behind : dropBlank rest with
  | nil =>
    -- A trimmed line does not end with blanks.
    have bare : rest = [] := by
      rw [← whole] at visible
      exact visible.of_append.eq_nil (dropBlank_eq_nil_iff.mp behind)
    rw [behind] at parsed
    cases parsed
    rw [← whole, bare, List.append_nil]
    exact ⟨[], none, .bare fits, rfl⟩
  | cons c shown =>
    rw [behind] at parsed parts
    dsimp only at parsed
    split at parsed
    · rename_i hash
      obtain ⟨read, found, same⟩ := Option.map_eq_some_iff.mp parsed
      obtain ⟨plain, rfl⟩ := readRemark?_eq_some_iff.mp found
      cases same
      have line_eq : line = name ++ (rest.takeWhile isBlank ++ '#' :: shown) := by
        rw [← whole, ← hash, parts]
      have blank : IsBlankText (rest.takeWhile isBlank) := forall_mem_takeWhile isBlank rest
      rw [line_eq]
      exact ⟨rest.takeWhile isBlank, some shown, .remarked fits blank plain, rfl⟩
    · cases parsed

/-- The reader takes exactly the lines of the grammar, and reads name and description off their
parts. -/
theorem parseTrimmed?_eq_some_iff {line : List Char} {mnemonic : Mnemonic}
    (visible : EndsVisibly line) :
    parseTrimmed? line = some mnemonic ↔ ∃ blanks remark,
      IsLine line mnemonic.name blanks remark ∧ mnemonic.description = commentOf remark :=
  ⟨exists_isLine_of_parseTrimmed? visible,
    fun ⟨_, _, isLine, described⟩ => parseTrimmed?_of_isLine isLine described⟩

end SpecLexicon.Mnemonic
