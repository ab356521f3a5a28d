import SpecLexicon.Proofs.Database.RoundTrip

/-!
# The forms of a document

A text, its bytes and its decoded value lead to the same partition or to the same defects, whatever
is in the document, as long as its keys are not repeated and its nesting and the digits of its
numbers keep the bounds of documents. Decoding bounds whole numbers only; a document with more
digits in front of the point of a real number is decoded, and refused as a text and as bytes.
-/

set_option autoImplicit false

namespace SpecLexicon.Database

open Json

variable {limit : Nat} {text : String} {value : Json}

theorem parseText_eq_fault_of_long (written : IsDocument limit text.toList value)
    (long : ¬IsDocument digitLimit text.toList value) : parseText text = .fault .notJson := by
  rw [parseText, parse?]
  cases read : readText (document nestingLimit) text.toList with
  | error fault => rfl
  | ok found => exact absurd ((written.of_readText read).2 rfl) long

theorem decode_of_isDocument (written : IsDocument digitLimit text.toList value)
    (distinct : HasDistinctKeys value) (shallow : value.nesting ≤ nestingLimit) :
    decode text = .ok value :=
  written.decode (.inl (Nat.le_refl _)) distinct (Nat.lt_of_le_of_lt shallow (by decide))

theorem eq_of_decode {decoded : Json} (written : IsDocument limit text.toList value)
    (distinct : HasDistinctKeys value) (read : decode text = .ok decoded) : decoded = value := by
  obtain ⟨found, foundRead, rfl⟩ := exists_of_map_eq_ok read
  rw [(written.of_readText foundRead).1, distinct.settle]

/-- A document is decoded exactly if its whole numbers are bounded. -/
theorem decode_eq_ok_iff (written : IsDocument limit text.toList value)
    (distinct : HasDistinctKeys value) (shallow : value.nesting ≤ nestingLimit) :
    decode text = .ok value ↔ Json.IsBounded digitLimit value := by
  constructor
  · intro read
    obtain ⟨found, foundRead, _⟩ := exists_of_map_eq_ok read
    obtain rfl := (written.of_readText foundRead).1
    have same : decoding.digits = digitLimit := rfl
    rw [← same]
    exact (passes_readText foundRead).isBounded
  · intro bounded
    exact written.decode bounded.allows_decoding distinct (Nat.lt_of_le_of_lt shallow (by decide))

theorem json_value (structured : value.text? = none) :
    (Document.value value).json = .valid value := by
  cases value with
  | string => cases structured
  | null | bool | integer | real | list | object => rfl

/-- The forms of a document agree. The only exception are documents that belong to the grammar with
a wider bound alone: they are refused where they are read as a document. Decoding gives the written
value or none, and it gives none exactly if a whole number is too long. -/
theorem load_forms (written : IsDocument limit text.toList value)
    (structured : value.text? = none) (distinct : HasDistinctKeys value)
    (shallow : value.nesting ≤ nestingLimit) (source : LooseText) :
    load (.bytes text.toUTF8) source = load (.text text) source ∧
    (∀ decoded, decode text = .ok decoded → decoded = value) ∧
    (decode text = .ok value ↔ Json.IsBounded digitLimit value) ∧
    (IsDocument digitLimit text.toList value →
      decode text = .ok value ∧ load (.value value) source = load (.text text) source) ∧
    (¬IsDocument digitLimit text.toList value →
      load (.text text) source = .error ⟨.shape ⟨[], .notJson⟩ [], source⟩) := by
  refine ⟨load_bytes text source, fun decoded => eq_of_decode written distinct,
    decode_eq_ok_iff written distinct shallow, ?_, ?_⟩
  · intro fits
    refine ⟨decode_of_isDocument fits distinct shallow, ?_⟩
    have same : (Document.value value).json = (Document.text text).json := by
      rw [json_value structured, Document.json,
        parseText_of_isDocument fits (.inl (Nat.le_refl _)) shallow]
    rw [load, load, Document.check, Document.check, same]
  · intro long
    have refused : (Document.text text).check = .fault .notJson := by
      rw [Document.check, Document.json, parseText_eq_fault_of_long written long]
      rfl
    rw [load, refused]
    rfl

/-- A document with one keyword, whose name is escaped and whose signature is a number. -/
def misplacedText : String :=
  "\x7b\"keywords\": \x7b\"\\u0069f\":\x7b\"signature\":30e-1\x7d\x7d, \"x\":[ ]\x7d"

def misplacedNumeral : Numeral :=
  ⟨none, ['3', '0'], none, some (true, ['1'])⟩

def misplacedValue : Json :=
  .object [(.text "keywords", .object [(.text "if", .object [(.text "signature",
    ofNumeral misplacedNumeral)])]), (.text "x", .list [])]

theorem isLayout_space : IsLayout [' '] := by
  simp [IsLayout, isLayout]

theorem writesNumber_misplacedNumeral :
    WritesNumber digitLimit ['3', '0', 'e', '-', '1'] misplacedNumeral := by
  have whole : IsWhole ['3', '0'] := ⟨⟨by simp, by simp⟩, by simp⟩
  have exponent : WritesExponent ['e', '-', '1'] (some (true, ['1'])) :=
    @WritesExponent.present 'e' (some '-') ['1'] (.inl rfl) (by decide) ⟨by simp, by simp⟩
  exact .parts List.mem_cons_self whole (by decide) .absent exponent

theorem writesString_escaped :
    WritesString ['\\', 'u', '0', '0', '6', '9', 'f', '"'] ['i', 'f'] := by
  have unit : WritesUnit ['0', '0', '6', '9'] 0x69 :=
    @WritesUnit.digits '0' '0' '6' '9' 0 0 6 9 (by decide) (by decide) (by decide) (by decide)
  have tail : WritesString (['f'] ++ ['"']) ['f'] :=
    .char (.plain (by decide) (by decide) (by decide)) .closed
  exact .char (.unit unit (.inl (by decide))) tail

theorem isDocument_misplacedText : IsDocument digitLimit misplacedText.toList misplacedValue := by
  have signature := writesString_flatMap "signature".toList
  have keywords := writesString_flatMap "keywords".toList
  have x := writesString_flatMap ['x']
  have inner := WritesFields.single (.field signature isLayout_nil isLayout_nil
    (.number writesNumber_misplacedNumeral))
  have item := WritesFields.single (.field writesString_escaped isLayout_nil isLayout_nil
    (@Writes.object digitLimit [] _ _ isLayout_nil inner))
  have group := WritesField.field keywords isLayout_nil isLayout_space
    (@Writes.object digitLimit [] _ _ isLayout_nil item)
  have extra := WritesFields.single (.field x isLayout_nil isLayout_nil
    (@Writes.emptyList digitLimit _ isLayout_space))
  have fields := WritesFields.more group isLayout_nil isLayout_space extra
  have document := @IsDocument.around digitLimit [] _ [] _ isLayout_nil
    (@Writes.object digitLimit [] _ _ isLayout_nil fields) isLayout_nil
  exact document

theorem load_forms_misplaced :
    IsDocument digitLimit misplacedText.toList misplacedValue ∧ misplacedValue.text? = none ∧
      HasDistinctKeys misplacedValue ∧ misplacedValue.nesting ≤ nestingLimit ∧
      decode misplacedText = .ok misplacedValue ∧
      load (.bytes misplacedText.toUTF8) "" = load (.text misplacedText) "" ∧
      load (.value misplacedValue) "" = load (.text misplacedText) "" ∧
      load (.value misplacedValue) "" = .error ⟨.shape ⟨[.key "constants"], .missing⟩
        [⟨[.key "variables"], .missing⟩, ⟨[.key "functions"], .missing⟩,
          ⟨[.key "macros"], .missing⟩,
          ⟨[.key "keywords", .key "if", .key "signature"], .notString⟩], ""⟩ := by
  have written := isDocument_misplacedText
  have real : ofNumeral misplacedNumeral = .real misplacedNumeral.toBinary64 := rfl
  have distinct : HasDistinctKeys misplacedValue := by
    rw [misplacedValue, real]
    have item : HasDistinctKeys (.object [(.text "signature",
        .real misplacedNumeral.toBinary64)]) := .object (by simp) (by simp [HasDistinctKeys.real])
    have group : HasDistinctKeys (.object [(.text "if", _)]) :=
      .object (by simp) (by simpa using item)
    have extra : HasDistinctKeys (.list []) := .list (by simp)
    exact .object (by simp) (by simpa using ⟨group, extra⟩)
  have shallow : misplacedValue.nesting ≤ nestingLimit := by
    rw [misplacedValue, real]
    simp [nesting, nestingOfFields, nestingLimit]
  obtain ⟨bytes, _, _, agree, _⟩ := load_forms written rfl distinct shallow ""
  obtain ⟨decoded, value⟩ := agree written
  exact ⟨written, rfl, distinct, shallow, decoded, bytes, value, rfl⟩

/-!
## A number that only decoding takes
-/

/-- The text of an object with one field, whose value is a real number. -/
def fieldText (digits : List Char) : List Char :=
  '{' :: '"' :: 'x' :: '"' :: ':' :: (digits ++ ['.', '0', '}'])

def fieldNumeral (digits : List Char) : Numeral :=
  ⟨none, digits, some ['0'], none⟩

def fieldValue (digits : List Char) : Json :=
  .object [(.text "x", ofNumeral (fieldNumeral digits))]

variable {digits : List Char}

theorem writesNumber_fieldNumeral (whole : IsWhole digits) (short : digits.length ≤ limit) :
    WritesNumber limit (digits ++ ['.', '0']) (fieldNumeral digits) := by
  have fraction : WritesFraction ['.', '0'] (some ['0']) := .present ⟨by simp, by simp⟩
  exact .parts List.mem_cons_self whole short fraction .absent

theorem writesString_x : WritesString ['x', '"'] ['x'] :=
  .char (.plain (by decide) (by decide) (by decide)) .closed

theorem isDocument_fieldText (whole : IsWhole digits) (short : digits.length ≤ limit) :
    IsDocument limit (fieldText digits) (fieldValue digits) := by
  have number := Writes.number (writesNumber_fieldNumeral whole short)
  have fields := WritesFields.single (.field writesString_x isLayout_nil isLayout_nil number)
  have document := IsDocument.around isLayout_nil (.object isLayout_nil fields) isLayout_nil
  simpa [fieldText, fieldValue] using document

/-- Reading the object comes down to reading the number. -/
theorem readText_fieldText {dialect : Dialect} {outcome : Except ReadFault Json}
    (whole : IsWhole digits) (deep : 0 < dialect.depth)
    (number : readNumber dialect (digits ++ ['.', '0'] ++ ['}']) = outcome.map (·, ['}'])) :
    readText dialect (fieldText digits) =
      outcome.map fun value => .object [(.text "x", value)] := by
  have written := writesNumber_fieldNumeral whole (Nat.le_refl _)
  have fields := WritesFields.single (.field writesString_x isLayout_nil isLayout_nil
    (.number written))
  have text : fieldText digits = '{' :: ([] ++ ('"' ::
      (['x', '"'] ++ ([] ++ ':' :: ([] ++ (digits ++ ['.', '0'])))) ++ ['}'])) ++ [] := by
    simp [fieldText]
  have skipped : skipLayout (fieldText digits) = fieldText digits := rfl
  obtain ⟨fuel, enough⟩ : ∃ fuel, 2 * ((fieldText digits).length + 1) = fuel + 3 :=
    ⟨2 * (fieldText digits).length - 1, by simp [fieldText]; omega⟩
  rw [readText, skipped, enough, text, readValue_object fields.opens isLayout_nil,
    if_neg (Nat.ne_of_gt deep), List.append_nil,
    readFields_field writesString_x (Writes.number written).opens isLayout_nil isLayout_nil,
    written.readValue, number]
  cases outcome with
  | error fault => rfl
  | ok value => rfl

theorem readNumber_fieldNumeral {dialect : Dialect} (whole : IsWhole digits) :
    readNumber dialect (digits ++ ['.', '0'] ++ ['}']) =
      if dialect.digits < digits.length ∧ dialect.boundsReals = true then
        .error (.oversizedInteger digits.length)
      else .ok (ofNumeral (fieldNumeral digits), ['}']) := by
  have written := writesNumber_fieldNumeral whole (Nat.le_refl _)
  have ends : EndsNumber ['}'] := endsNumber_of_mark (by decide) isLayout_nil
  rw [readNumber, written.takeNumeral ends]
  simp only [written.isNumber, Bool.not_true]
  simp [fieldNumeral, Numeral.isInteger]

/-- One digit more than a document allows. -/
def longDigits : List Char :=
  List.replicate (digitLimit + 1) '1'

theorem length_longDigits : longDigits.length = digitLimit + 1 :=
  List.length_replicate

theorem isWhole_longDigits : IsWhole longDigits := by
  refine ⟨⟨fun c member => ?_, List.ne_nil_of_length_eq_add_one length_longDigits⟩,
    fun zero => ?_⟩
  · rw [List.eq_of_mem_replicate member]
    rfl
  · cases zero

/-- A real number with too many digits in front of its point is decoded, and the value shows that
the document has no groups; as a text the document is no document at all. -/
theorem forms_differ_at_long_real :
    IsDocument (digitLimit + 1) (String.ofList (fieldText longDigits)).toList
      (fieldValue longDigits) ∧
    (fieldValue longDigits).text? = none ∧ HasDistinctKeys (fieldValue longDigits) ∧
    (fieldValue longDigits).nesting ≤ nestingLimit ∧
    decode (String.ofList (fieldText longDigits)) = .ok (fieldValue longDigits) ∧
    load (.text (String.ofList (fieldText longDigits))) "" =
      .error ⟨.shape ⟨[], .notJson⟩ [], ""⟩ ∧
    load (.value (fieldValue longDigits)) "" = .error ⟨.shape ⟨[.key "constants"], .missing⟩
      [⟨[.key "variables"], .missing⟩, ⟨[.key "functions"], .missing⟩,
        ⟨[.key "macros"], .missing⟩, ⟨[.key "keywords"], .missing⟩], ""⟩ := by
  have real : ofNumeral (fieldNumeral longDigits) = .real (fieldNumeral longDigits).toBinary64 :=
    rfl
  have long : digitLimit < longDigits.length := by
    rw [length_longDigits]
    exact Nat.lt_succ_self _
  have distinct : HasDistinctKeys (fieldValue longDigits) := by
    rw [fieldValue, real]
    exact .object (by simp) (by simp [HasDistinctKeys.real])
  have shallow : (fieldValue longDigits).nesting = 1 := by
    rw [fieldValue, real]
    simp [nesting, nestingOfFields]
  refine ⟨?_, rfl, distinct, by rw [shallow]; decide, ?_, ?_, ?_⟩
  · rw [String.toList_ofList]
    exact isDocument_fieldText isWhole_longDigits (Nat.le_of_eq length_longDigits)
  · have number : readNumber decoding (longDigits ++ ['.', '0'] ++ ['}']) =
        (Except.ok (ofNumeral (fieldNumeral longDigits))).map (·, ['}']) := by
      rw [readNumber_fieldNumeral isWhole_longDigits, if_neg (by simp [decoding])]
      rfl
    rw [decode, String.toList_ofList, readText_fieldText isWhole_longDigits (by decide) number]
    exact congrArg Except.ok distinct.settle
  · have number : readNumber (document nestingLimit) (longDigits ++ ['.', '0'] ++ ['}']) =
        (Except.error (.oversizedInteger longDigits.length)).map (·, ['}']) := by
      rw [readNumber_fieldNumeral isWhole_longDigits, if_pos ⟨long, rfl⟩]
      rfl
    rw [load, Document.check, Document.json, parseText, parse?, String.toList_ofList,
      readText_fieldText isWhole_longDigits (by decide) number]
    rfl
  · rw [fieldValue, real]
    rfl

end SpecLexicon.Database
