import SpecLexicon.Database.Document
import SpecLexicon.Proofs.Json.Unambiguous
import SpecLexicon.Proofs.Json.Writing
import SpecLexicon.Proofs.Schema.Shape

/-!
# Databases and their documents

A partition of the documented kinds is written as a document of five groups. Every text of such a
document is loaded as that partition, whatever the order of the groups, the layout and the escapes,
exactly if no number in it has more digits than a document may have. What was loaded from a text or
from bytes always keeps that bound and has no halves of surrogate pairs, so it can be written and
loaded again. What was loaded from a decoded value need not.
-/

set_option autoImplicit false

namespace SpecLexicon.Database

open Json SpecLexicon.Partition

variable {limit : Nat} {text : String} {value : Json}

theorem parseText_of_isDocument (written : IsDocument limit text.toList value)
    (allowed : Allows (document nestingLimit) limit value)
    (shallow : value.nesting ≤ nestingLimit) : parseText text = .valid value := by
  have read : readText (document nestingLimit) text.toList = .ok value :=
    written.readText allowed shallow
  rw [parseText, parse?, read]
  rfl

theorem readText_of_parseText (parsed : parseText text = .valid value) :
    readText (document nestingLimit) text.toList = .ok value := by
  rw [parseText, parse?] at parsed
  cases read : readText (document nestingLimit) text.toList with
  | error fault =>
    rw [read] at parsed
    cases parsed
  | ok found =>
    rw [read] at parsed
    cases parsed
    rfl

/-- The document is read as a text, also where it is bytes or a value. -/
def Document.IsRead (document : Document) : Prop :=
  ∀ json, document = .value json → json.text?.isSome = true

/-- Whatever is read as a text has bounded numbers and no halves. -/
theorem passes_of_json {document : Document} (isRead : document.IsRead)
    (parsed : document.json = .valid value) : Passes (Json.document nestingLimit) value := by
  have passes {content : String} (parsed : parseText content = .valid value) :
      Passes (Json.document nestingLimit) value := passes_readText (readText_of_parseText parsed)
  cases document with
  | text content => exact passes parsed
  | bytes content =>
    rw [Document.json, parseBytes] at parsed
    split at parsed
    · cases parsed
    · exact passes parsed
  | value json =>
    obtain ⟨found, isText⟩ := Option.isSome_iff_exists.mp (isRead json rfl)
    cases json with
    | string loose =>
      cases loose with
      | text content => exact passes parsed
      | broken points halved => cases parsed
    | null | bool | integer | real | list | object => cases isText

theorem isBounded_of_json {document : Document} (isRead : document.IsRead)
    (parsed : document.json = .valid value) : Json.IsBounded digitLimit value := by
  have same : (Json.document nestingLimit).digits = digitLimit := rfl
  rw [← same]
  exact (passes_of_json isRead parsed).isBounded

theorem isTextual_of_json {document : Document} (isRead : document.IsRead)
    (parsed : document.json = .valid value) : Json.IsTextual value :=
  (passes_of_json isRead parsed).isTextual rfl

/-- In a document that is read as a text all texts are made of characters. -/
theorem check_of_isRead {document : Document} (isRead : document.IsRead) :
    document.check = (document.json.andThen Partition.ofJson).map Partition.loose := by
  rw [Document.check, Schema.Checked.map_andThen]
  cases parsed : document.json with
  | valid value => exact Partition.transports value (isTextual_of_json isRead parsed)
  | faulty first others => rfl

theorem isRead_text (content : String) : (Document.text content).IsRead := nofun

/-- The bytes of a text are the same document as the text. -/
theorem load_bytes (text : String) (source : LooseText) :
    load (.bytes text.toUTF8) source = load (.text text) source := by
  have decoded : String.fromUTF8? text.toUTF8 = some text := dif_pos text.isValidUTF8
  have same : (Document.bytes text.toUTF8).json = (Document.text text).json := by
    simp only [Document.json, parseBytes, decoded]
  rw [load, load, Document.check, Document.check, same]

/-- What is loaded from a text is a partition of texts with bounded numbers. -/
theorem exists_eq_loose_of_load {document : Document} {source : LooseText}
    {partition : Partition LooseText} (isRead : document.IsRead)
    (loaded : load document source = .ok partition) :
    ∃ plain : Partition, partition = plain.loose ∧ Partition.IsBounded digitLimit plain := by
  rw [load, orMalformed_eq_ok_iff, check_of_isRead isRead] at loaded
  obtain ⟨plain, accepted, rfl⟩ := Schema.Checked.map_eq_valid_iff.mp loaded
  obtain ⟨value, parsed, read⟩ := Schema.Checked.andThen_eq_valid_iff.mp accepted
  exact ⟨plain, rfl, isBounded_of_ofJson (isBounded_of_json isRead parsed) read⟩

/-- A text in the grammar of the five groups is loaded exactly if their numbers are bounded. -/
theorem load_text_eq_ok_iff {partition : Partition} (isDatabase : IsDatabase partition)
    {fields : List (LooseText × Json)} (listed : fields.Perm (groups partition))
    (written : IsDocument limit text.toList (.object fields)) (source : LooseText) :
    load (.text text) source = .ok partition.loose ↔ Partition.IsBounded digitLimit partition := by
  have accepted := ofJson_object_of_perm isDatabase listed
  have isRead := isRead_text text
  constructor
  · intro loaded
    rw [load, orMalformed_eq_ok_iff, Document.check, Schema.Checked.andThen_eq_valid_iff] at loaded
    obtain ⟨value, parsed, _⟩ := loaded
    obtain rfl := (written.of_readText (readText_of_parseText parsed)).1
    exact isBounded_of_ofJson (isBounded_of_json isRead parsed) accepted
  · intro bounded
    have allowed : Allows (Json.document nestingLimit) limit (.object fields) :=
      (isPlain_of_perm bounded listed).allows_document
    have shallow : (Json.object fields).nesting ≤ nestingLimit :=
      Nat.le_trans (nesting_of_perm listed) (by decide)
    have parsed : (Document.text text).json = .valid (.object fields) :=
      parseText_of_isDocument written allowed shallow
    rw [load, orMalformed_eq_ok_iff, check_of_isRead isRead, parsed, Schema.Checked.andThen,
      accepted, Schema.Checked.map_valid]

theorem isDocument_toText {partition : Partition} (bounded : Partition.IsBounded limit partition)
    (positive : 0 < limit) {fields : List (LooseText × Json)}
    (listed : fields.Perm (groups partition)) :
    IsDocument limit (toText (.object fields)).toList (.object fields) :=
  (isPlain_of_perm bounded listed).isDocument positive

/-- A database with bounded numbers is loaded from the text that is written for it. -/
theorem load_toText {partition : Partition} (isDatabase : IsDatabase partition)
    (bounded : Partition.IsBounded digitLimit partition) (source : LooseText) :
    load (.text (toText (Partition.toJson partition))) source = .ok partition.loose := by
  have listed := List.Perm.refl (groups partition)
  have written := isDocument_toText bounded (by decide) listed
  exact (load_text_eq_ok_iff isDatabase listed written source).mpr bounded

/-- A partition of the documented kinds is loaded from every text of its document exactly if its
numbers are bounded, and the written form is such a text. What was loaded from a text or from bytes
is a partition of texts and bounded, and whatever was loaded and is both can be written and loaded
again. -/
theorem load_documents (source : LooseText) :
    (∀ partition : Partition, IsDatabase partition → ∀ fields, fields.Perm (groups partition) →
      (∀ limit, 0 < limit → Partition.IsBounded limit partition →
        IsDocument limit (toText (.object fields)).toList (.object fields)) ∧
      ∀ limit text, IsDocument limit text.toList (.object fields) →
        (load (.text text) source = .ok partition.loose ↔
          Partition.IsBounded digitLimit partition) ∧
        load (.bytes text.toUTF8) source = load (.text text) source) ∧
    ∀ document partition, load document source = .ok partition →
      (document.IsRead →
        ∃ plain : Partition, partition = plain.loose ∧ Partition.IsBounded digitLimit plain) ∧
      ∀ plain : Partition, partition = plain.loose → Partition.IsBounded digitLimit plain →
        load (.text (toText (Partition.toJson partition))) source = .ok partition := by
  constructor
  · intro partition isDatabase fields listed
    exact ⟨fun limit positive bounded => isDocument_toText bounded positive listed,
      fun limit text written =>
        ⟨load_text_eq_ok_iff isDatabase listed written source, load_bytes text source⟩⟩
  · intro document partition loaded
    refine ⟨fun isRead => exists_eq_loose_of_load isRead loaded, ?_⟩
    rintro plain rfl bounded
    obtain ⟨value, _, accepted⟩ :=
      Schema.Checked.andThen_eq_valid_iff.mp (orMalformed_eq_ok_iff.mp loaded)
    have isDatabase : IsDatabase plain := isDatabase_loose_iff.mp (isDatabase_of_ofJson accepted)
    rw [Partition.toJson_loose]
    exact load_toText isDatabase bounded source

theorem isDatabase_bundled : IsDatabase bundled := by
  decide +kernel

theorem isBounded_bundled : Partition.IsBounded digitLimit bundled := by
  decide +kernel

/-- The bundled database is loaded from a document that lists its groups from the last one. -/
theorem load_bundled :
    IsDatabase bundled ∧ Partition.IsBounded digitLimit bundled ∧
      IsDocument digitLimit (toText (.object (groups bundled).reverse)).toList
        (.object (groups bundled).reverse) ∧
      load (.text (toText (.object (groups bundled).reverse))) "" = .ok bundled.loose ∧
      load (.text (toText (Partition.toJson bundled))) "" = .ok bundled.loose := by
  obtain ⟨written, loads⟩ :=
    (load_documents "").1 bundled isDatabase_bundled _ (List.reverse_perm (groups bundled))
  have document := written digitLimit (by decide) isBounded_bundled
  have loaded := (loads _ _ document).1.mpr isBounded_bundled
  exact ⟨isDatabase_bundled, isBounded_bundled, document, loaded,
    ((load_documents "").2 _ _ loaded).2 bundled rfl isBounded_bundled⟩

/-- A constant whose place has the least offset that is too long for a document. -/
def distantConstant : Item where
  signature := "FAR"
  description := none
  comments := none
  snippet := none
  location := some ⟨⟨10 ^ digitLimit, 1, 1, Nat.one_pos, Nat.one_pos⟩,
    ⟨0, 1, 1, Nat.one_pos, Nat.one_pos⟩⟩
  overloads := none
  signature_visible := by decide

def distant : Partition :=
  ofGroups (.ofList [("FAR", distantConstant)]) .empty .empty .empty .empty

theorem load_distant_ne_ok :
    IsDatabase distant ∧
      IsDocument (digitLimit + 1) (toText (Partition.toJson distant)).toList
        (Partition.toJson distant) ∧
      load (.text (toText (Partition.toJson distant))) "" ≠ .ok distant.loose := by
  have isDatabase : IsDatabase distant := by decide +kernel
  have listed := List.Perm.refl (groups distant)
  have fits : Partition.IsBounded (digitLimit + 1) distant := by decide +kernel
  have written := isDocument_toText fits (Nat.succ_pos _) listed
  refine ⟨isDatabase, written, ?_⟩
  intro loaded
  have bounded := (load_text_eq_ok_iff isDatabase listed written "").mp loaded
  exact absurd bounded (by decide +kernel)

/-- A constant that is described by half of a surrogate pair. -/
def brokenConstant : Item LooseText where
  signature := "HALF"
  description := some (.ofPoints [.half 0xD800])
  comments := none
  snippet := none
  location := none
  overloads := none
  signature_visible := by decide

def halved : Partition LooseText :=
  ofGroups (.ofList [(.text "HALF", brokenConstant)]) .empty .empty .empty .empty

theorem load_halved :
    load (.value (Partition.toJson halved)) "" = .ok halved ∧
      load (.text (toText (Partition.toJson halved))) "" =
        .error ⟨.shape ⟨[], .notJson⟩ [], ""⟩ := by
  constructor
  · have isDatabase : IsDatabase halved := by decide +kernel
    have accepted := ofJson_object_of_perm isDatabase (List.Perm.refl (groups halved))
    exact orMalformed_eq_ok_iff.mpr accepted
  · have unread : (parse? nestingLimit (toText (Partition.toJson halved))).isNone = true := by
      decide +kernel
    have refused : parseText (toText (Partition.toJson halved)) = .fault .notJson := by
      rw [parseText, Option.isNone_iff_eq_none.mp unread]
    rw [load, Document.check, Document.json, refused]
    rfl

/-- Not every partition is loaded from the text that is written for it, and what was loaded from a
decoded value is not always loaded again. -/
theorem load_written_ne_ok :
    (IsDatabase distant ∧
      IsDocument (digitLimit + 1) (toText (Partition.toJson distant)).toList
        (Partition.toJson distant) ∧
      load (.text (toText (Partition.toJson distant))) "" ≠ .ok distant.loose) ∧
    load (.value (Partition.toJson halved)) "" = .ok halved ∧
      load (.text (toText (Partition.toJson halved))) "" =
        .error ⟨.shape ⟨[], .notJson⟩ [], ""⟩ :=
  ⟨load_distant_ne_ok, load_halved⟩

end SpecLexicon.Database
