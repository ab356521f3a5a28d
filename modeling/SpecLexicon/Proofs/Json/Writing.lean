import SpecLexicon.Json.Printer
import SpecLexicon.Proofs.Json.Grammar

/-!
# What is written belongs to the grammar

The written form of a value without real numbers and without halves of surrogate pairs is one of its
texts in the grammar of JSON, within any bound that its numbers keep.
-/

set_option autoImplicit false

namespace SpecLexicon.Json

/-!
## Strings
-/

theorem writesUnit_hexDigits {unit : Nat} (control : unit < 0x20) :
    WritesUnit (Text.hexDigits 4 unit) unit := by
  have padded : ∀ unit < 0x20, Text.hexDigits 4 unit =
      ['0', '0', Nat.digitChar (unit / 16), Nat.digitChar (unit % 16)] := by decide
  have known : ∀ value < 16, (Nat.digitChar value, value) ∈ hexValues := by decide
  have written := WritesUnit.digits (known 0 (by decide)) (known 0 (by decide))
    (known (unit / 16) (by omega)) (known (unit % 16) (by omega))
  have same : ((0 * 16 + 0) * 16 + unit / 16) * 16 + unit % 16 = unit := by omega
  rw [same] at written
  rw [padded unit control]
  exact written

theorem writesChar_writeChar (c : Char) : WritesChar (writeChar c) c := by
  rw [writeChar]
  by_cases quote : c = '"'
  · rw [if_pos quote, quote]
    exact .short (by decide)
  · by_cases backslash : c = '\\'
    · rw [if_neg quote, if_pos backslash, backslash]
      exact .short (by decide)
    · rw [if_neg quote, if_neg backslash]
      by_cases control : c.toNat < 0x20
      · rw [if_pos control]
        have written := WritesChar.unit (writesUnit_hexDigits control) (.inl (by omega))
        rwa [Char.ofNat_toNat] at written
      · rw [if_neg control]
        exact .plain (Nat.not_lt.mp control) quote backslash

theorem writesString_flatMap (body : List Char) :
    WritesString (body.flatMap writeChar ++ ['"']) body := by
  induction body with
  | nil => exact .closed
  | cons c rest ih =>
    rw [List.flatMap_cons, List.append_assoc]
    exact .char (writesChar_writeChar c) ih

theorem exists_writeString (text : String) :
    ∃ written, writeString (.text text) = '"' :: written ∧ WritesString written text.toList := by
  refine ⟨_, rfl, ?_⟩
  have written := writesString_flatMap text.toList
  rwa [LooseText.points, List.flatMap_map]

/-!
## Values
-/

variable {limit : Nat}

theorem writes_writeInt {value : Int} (positive : 0 < limit)
    (small : value.natAbs < 10 ^ limit) : Writes limit (writeInt value) (.integer value) := by
  have isWhole := isWhole_toDigits value.natAbs
  have short : (Nat.toDigits 10 value.natAbs).length ≤ limit := by
    rw [← isWhole.digitsValue_lt_pow_iff positive, digitsValue_toDigits]
    exact small
  have written (sign : Option Char) (known : sign ∈ [none, some '-']) :
      Writes limit (sign.toList ++ (Nat.toDigits 10 value.natAbs ++ ([] ++ [])))
        (ofNumeral ⟨sign, Nat.toDigits 10 value.natAbs, none, none⟩) :=
    .number (.parts known isWhole short .absent .absent)
  rw [List.append_nil, List.append_nil] at written
  by_cases negative : value < 0
  · have same : ofNumeral ⟨some '-', Nat.toDigits 10 value.natAbs, none, none⟩ =
        .integer value := by
      change Json.integer (-(digitsValue (Nat.toDigits 10 value.natAbs) : Int)) = _
      rw [digitsValue_toDigits]
      exact congrArg Json.integer (by omega)
    rw [writeInt, if_pos negative, ← same]
    exact written (some '-') (by decide)
  · have same : ofNumeral ⟨none, Nat.toDigits 10 value.natAbs, none, none⟩ = .integer value := by
      change Json.integer (digitsValue (Nat.toDigits 10 value.natAbs) : Int) = _
      rw [digitsValue_toDigits]
      exact congrArg Json.integer (by omega)
    rw [writeInt, if_neg negative, ← same]
    exact written none (by decide)

theorem isLayout_nil : IsLayout [] :=
  fun _ member => absurd member List.not_mem_nil

theorem WritesItems.single {text : List Char} {item : Json} (first : Writes limit text item) :
    WritesItems limit (text ++ [']']) [item] :=
  @WritesItems.last limit text [] item first isLayout_nil

theorem WritesItems.cons {text rest : List Char} {item : Json} {items : List Json}
    (first : Writes limit text item) (others : WritesItems limit rest items) :
    WritesItems limit (text ++ ',' :: rest) (item :: items) :=
  @WritesItems.more limit text [] [] rest item items first isLayout_nil isLayout_nil others

theorem WritesFields.single {text : List Char} {field : LooseText × Json}
    (first : WritesField limit text field) : WritesFields limit (text ++ ['}']) [field] :=
  @WritesFields.last limit text [] field first isLayout_nil

theorem WritesFields.cons {text rest : List Char} {field : LooseText × Json}
    {fields : List (LooseText × Json)} (first : WritesField limit text field)
    (others : WritesFields limit rest fields) :
    WritesFields limit (text ++ ',' :: rest) (field :: fields) :=
  @WritesFields.more limit text [] [] rest field fields first isLayout_nil isLayout_nil others

theorem writesField_tight {text : List Char} {value : Json} (name : String)
    (written : Writes limit text value) :
    WritesField limit (writeString (.text name) ++ ':' :: text) (.text name, value) := by
  obtain ⟨shown, same, body⟩ := exists_writeString name
  have field : WritesField limit ('"' :: (shown ++ ([] ++ ':' :: ([] ++ text))))
      (.text (.ofList name.toList), value) := .field body isLayout_nil isLayout_nil written
  rw [String.ofList_toList] at field
  rwa [same]

theorem exists_of_isText {loose : LooseText} (isText : loose.isText = true) :
    ∃ text, loose = .text text := by
  cases loose with
  | text text => exact ⟨text, rfl⟩
  | broken points halved => cases isText

mutual

/-- The written form of a plain value is a text for it. -/
theorem IsPlain.writes (positive : 0 < limit) :
    ∀ {value : Json}, IsPlain limit value → Writes limit (write value) value
  | .null, _ => .word (by simp [words, write])
  | .bool true, _ => .word (by simp [words, write])
  | .bool false, _ => .word (by simp [words, write])
  | .integer _, .integer small => writes_writeInt positive small
  | .string (.text text), _ => by
    obtain ⟨shown, same, body⟩ := exists_writeString text
    have written : Writes limit ('"' :: shown) (.string (.text (.ofList text.toList))) :=
      .string body
    rwa [String.ofList_toList, ← same] at written
  | .list [], _ => @Writes.emptyList limit [] isLayout_nil
  | .list (item :: rest), .list plain => by
    have first := IsPlain.writes positive (plain item List.mem_cons_self)
    have items := writesItems_of_plain positive first fun other member =>
      plain other (List.mem_cons_of_mem item member)
    exact @Writes.list limit [] _ _ isLayout_nil items
  | .object [], _ => @Writes.emptyObject limit [] isLayout_nil
  | .object ((name, value) :: rest), .object named plain => by
    have first := IsPlain.writes positive (plain (name, value) List.mem_cons_self)
    obtain ⟨text, rfl⟩ := exists_of_isText (named (name, value) List.mem_cons_self)
    have fields := writesFields_of_plain positive (writesField_tight text first)
      (fun other member => named other (List.mem_cons_of_mem _ member))
      fun other member => plain other (List.mem_cons_of_mem _ member)
    rw [List.append_assoc] at fields
    exact @Writes.object limit [] _ _ isLayout_nil fields

theorem writesItems_of_plain (positive : 0 < limit) {text : List Char} {item : Json}
    (first : Writes limit text item) :
    ∀ {rest : List Json}, (∀ other ∈ rest, IsPlain limit other) →
      WritesItems limit (text ++ writeItems rest) (item :: rest)
  | [], _ => .single first
  | other :: rest, plain => by
    have second := IsPlain.writes positive (plain other List.mem_cons_self)
    exact .cons first (writesItems_of_plain positive second fun later member =>
      plain later (List.mem_cons_of_mem other member))

theorem writesFields_of_plain (positive : 0 < limit) {text : List Char} {field : LooseText × Json}
    (first : WritesField limit text field) :
    ∀ {rest : List (LooseText × Json)}, (∀ other ∈ rest, other.1.isText = true) →
      (∀ other ∈ rest, IsPlain limit other.2) →
      WritesFields limit (text ++ writeFields rest) (field :: rest)
  | [], _, _ => .single first
  | (name, value) :: rest, named, plain => by
    have second := IsPlain.writes positive (plain (name, value) List.mem_cons_self)
    obtain ⟨shown, rfl⟩ := exists_of_isText (named (name, value) List.mem_cons_self)
    have fields := writesFields_of_plain positive (writesField_tight shown second)
      (fun other member => named other (List.mem_cons_of_mem _ member))
      fun other member => plain other (List.mem_cons_of_mem _ member)
    rw [List.append_assoc] at fields
    exact .cons first fields

end

theorem IsPlain.isDocument {value : Json} (plain : IsPlain limit value) (positive : 0 < limit) :
    IsDocument limit (toText value).toList value := by
  have written := @IsDocument.around limit [] (write value) [] value isLayout_nil
    (plain.writes positive) isLayout_nil
  rw [List.append_nil, List.nil_append] at written
  rwa [toText, String.toList_ofList]

end SpecLexicon.Json
