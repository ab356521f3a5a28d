import SpecLexicon.Json.Reader
import SpecLexicon.Proofs.Number.Digits

/-!
# The grammar of JSON

Which texts stand for which value, said without a reader. A value has many texts: layout may stand
around every part, a character may be escaped, and a number may have an exponent. The grammar knows
neither the numbers without digits nor halves of surrogate pairs. Its parameter bounds the digits in
front of the point of a number; the grammar itself has no bound, so a text belongs to it if it does
for some bound.
-/

set_option autoImplicit false

namespace SpecLexicon.Json

def IsLayout (text : List Char) : Prop :=
  ∀ c ∈ text, isLayout c = true

/-!
## Strings
-/

/-- The hexadecimal digits and what they stand for. -/
def hexValues : List (Char × Nat) :=
  "0123456789".toList.zipIdx ++ "abcdef".toList.zipIdx 10 ++ "ABCDEF".toList.zipIdx 10

/-- Four hexadecimal digits write a number. -/
inductive WritesUnit : List Char → Nat → Prop where
  | digits {a b c d : Char} {first second third fourth : Nat} :
      (a, first) ∈ hexValues → (b, second) ∈ hexValues → (c, third) ∈ hexValues →
      (d, fourth) ∈ hexValues →
      WritesUnit [a, b, c, d] (((first * 16 + second) * 16 + third) * 16 + fourth)

/-- The characters that have an escape of one letter, behind that letter. -/
def shortEscapes : List (Char × Char) :=
  [('"', '"'), ('\\', '\\'), ('/', '/'), ('b', '\x08'), ('f', '\x0c'), ('n', '\n'), ('r', '\r'),
    ('t', '\t')]

/-- A character stands for itself, has a short escape, or is escaped by its number. Beyond the first
plane the escapes of two surrogates make up one character. -/
inductive WritesChar : List Char → Char → Prop where
  | plain {c : Char} : 0x20 ≤ c.toNat → c ≠ '"' → c ≠ '\\' → WritesChar [c] c
  | short {letter c : Char} : (letter, c) ∈ shortEscapes → WritesChar ['\\', letter] c
  | unit {digits : List Char} {unit : Nat} :
      WritesUnit digits unit → unit < 0xD800 ∨ 0xE000 ≤ unit →
      WritesChar ('\\' :: 'u' :: digits) (Char.ofNat unit)
  | pair {high low : List Char} {upper lower : Nat} :
      WritesUnit high (0xD800 + upper) → upper < 0x400 →
      WritesUnit low (0xDC00 + lower) → lower < 0x400 →
      WritesChar ('\\' :: 'u' :: (high ++ '\\' :: 'u' :: low))
        (Char.ofNat (0x10000 + upper * 0x400 + lower))

/-- The text of a string behind its opening quote, up to and including the closing one. -/
inductive WritesString : List Char → List Char → Prop where
  | closed : WritesString ['"'] []
  | char {text rest : List Char} {c : Char} {body : List Char} :
      WritesChar text c → WritesString rest body → WritesString (text ++ rest) (c :: body)

/-!
## Numbers
-/

inductive WritesFraction : List Char → Option (List Char) → Prop where
  | absent : WritesFraction [] none
  | present {digits : List Char} : IsDigits digits → WritesFraction ('.' :: digits) (some digits)

inductive WritesExponent : List Char → Option (Bool × List Char) → Prop where
  | absent : WritesExponent [] none
  | present {mark : Char} {sign : Option Char} {digits : List Char} :
      mark = 'e' ∨ mark = 'E' → sign ∈ [none, some '+', some '-'] → IsDigits digits →
      WritesExponent (mark :: (sign.toList ++ digits)) (some (sign == some '-', digits))

inductive WritesNumber (limit : Nat) : List Char → Numeral → Prop where
  | parts {sign : Option Char} {whole behindPoint behindMark : List Char}
      {fraction : Option (List Char)} {exponent : Option (Bool × List Char)} :
      sign ∈ [none, some '-'] → IsWhole whole → whole.length ≤ limit →
      WritesFraction behindPoint fraction → WritesExponent behindMark exponent →
      WritesNumber limit (sign.toList ++ (whole ++ (behindPoint ++ behindMark)))
        ⟨sign, whole, fraction, exponent⟩

/-!
## Values
-/

def words : List (List Char × Json) :=
  [("null".toList, .null), ("true".toList, .bool true), ("false".toList, .bool false)]

mutual

inductive Writes (limit : Nat) : List Char → Json → Prop where
  | word {text : List Char} {value : Json} : (text, value) ∈ words → Writes limit text value
  | number {text : List Char} {numeral : Numeral} :
      WritesNumber limit text numeral → Writes limit text (ofNumeral numeral)
  | string {text body : List Char} :
      WritesString text body → Writes limit ('"' :: text) (.string (.text (.ofList body)))
  | emptyList {layout : List Char} :
      IsLayout layout → Writes limit ('[' :: (layout ++ [']'])) (.list [])
  | list {layout text : List Char} {items : List Json} :
      IsLayout layout → WritesItems limit text items →
      Writes limit ('[' :: (layout ++ text)) (.list items)
  | emptyObject {layout : List Char} :
      IsLayout layout → Writes limit ('{' :: (layout ++ ['}'])) (.object [])
  | object {layout text : List Char} {fields : List (LooseText × Json)} :
      IsLayout layout → WritesFields limit text fields →
      Writes limit ('{' :: (layout ++ text)) (.object fields)

/-- The text of at least one element, up to and including the closing bracket. -/
inductive WritesItems (limit : Nat) : List Char → List Json → Prop where
  | last {text after : List Char} {item : Json} :
      Writes limit text item → IsLayout after → WritesItems limit (text ++ (after ++ [']'])) [item]
  | more {text after before rest : List Char} {item : Json} {items : List Json} :
      Writes limit text item → IsLayout after → IsLayout before → WritesItems limit rest items →
      WritesItems limit (text ++ (after ++ ',' :: (before ++ rest))) (item :: items)

inductive WritesField (limit : Nat) : List Char → LooseText × Json → Prop where
  | field {name after before text body : List Char} {value : Json} :
      WritesString name body → IsLayout after → IsLayout before → Writes limit text value →
      WritesField limit ('"' :: (name ++ (after ++ ':' :: (before ++ text))))
        (.text (.ofList body), value)

/-- The text of at least one field, up to and including the closing brace. -/
inductive WritesFields (limit : Nat) : List Char → List (LooseText × Json) → Prop where
  | last {text after : List Char} {field : LooseText × Json} :
      WritesField limit text field → IsLayout after →
      WritesFields limit (text ++ (after ++ ['}'])) [field]
  | more {text after before rest : List Char} {field : LooseText × Json}
      {fields : List (LooseText × Json)} :
      WritesField limit text field → IsLayout after → IsLayout before →
      WritesFields limit rest fields →
      WritesFields limit (text ++ (after ++ ',' :: (before ++ rest))) (field :: fields)

end

/-- The text of a document: one value with layout around it. -/
inductive IsDocument (limit : Nat) : List Char → Json → Prop where
  | around {before text after : List Char} {value : Json} :
      IsLayout before → Writes limit text value → IsLayout after →
      IsDocument limit (before ++ (text ++ after)) value

/-!
## Shapes of values
-/

mutual

/-- How deep lists and objects are nested in a value. One without parts does not count. -/
def nesting : Json → Nat
  | .list [] => 0
  | .list (item :: rest) => max (nesting item) (nestingOfItems rest) + 1
  | .object [] => 0
  | .object ((_, value) :: rest) => max (nesting value) (nestingOfFields rest) + 1
  | .null => 0
  | .bool _ => 0
  | .integer _ => 0
  | .real _ => 0
  | .string _ => 0

def nestingOfItems : List Json → Nat
  | [] => 0
  | item :: rest => max (nesting item) (nestingOfItems rest)

def nestingOfFields : List (LooseText × Json) → Nat
  | [] => 0
  | (_, value) :: rest => max (nesting value) (nestingOfFields rest)

end

/-- The whole numbers in a value and its texts, the keys among them, are as they have to be, and
there are no real numbers unless they may be there. -/
inductive Holds (whole : Int → Prop) (real : Prop) (text : LooseText → Prop) : Json → Prop where
  | null : Holds whole real text .null
  | bool (value : Bool) : Holds whole real text (.bool value)
  | integer {value : Int} : whole value → Holds whole real text (.integer value)
  | real {value : Binary64} : real → Holds whole real text (.real value)
  | string {value : LooseText} : text value → Holds whole real text (.string value)
  | list {items : List Json} :
      (∀ item ∈ items, Holds whole real text item) → Holds whole real text (.list items)
  | object {fields : List (LooseText × Json)} :
      (∀ field ∈ fields, text field.1) → (∀ field ∈ fields, Holds whole real text field.2) →
      Holds whole real text (.object fields)

/-- The whole numbers in a value have a bounded number of digits. -/
abbrev IsBounded (limit : Nat) : Json → Prop :=
  Holds (·.natAbs < 10 ^ limit) True fun _ => True

/-- No text in a value has halves of surrogate pairs. -/
abbrev IsTextual : Json → Prop :=
  Holds (fun _ => True) True fun text => text.isText = true

/-- The whole numbers are bounded, and there are no real numbers and no halves of surrogate
pairs. -/
abbrev IsPlain (limit : Nat) : Json → Prop :=
  Holds (·.natAbs < 10 ^ limit) False fun text => text.isText = true

theorem Holds.mono {whole wider : Int → Prop} {real others : Prop} {text more : LooseText → Prop}
    (wholes : ∀ value, whole value → wider value) (reals : real → others)
    (texts : ∀ value, text value → more value) {value : Json}
    (holds : Holds whole real text value) : Holds wider others more value := by
  induction holds with
  | null => exact .null
  | bool value => exact .bool value
  | integer small => exact .integer (wholes _ small)
  | real allowed => exact .real (reals allowed)
  | string admitted => exact .string (texts _ admitted)
  | list _ ih => exact .list ih
  | object keys _ ih => exact .object (fun field member => texts _ (keys field member)) ih

theorem IsPlain.isBounded {limit : Nat} {value : Json} (plain : IsPlain limit value) :
    IsBounded limit value :=
  plain.mono (fun _ small => small) (fun none => none.elim) fun _ _ => trivial

/-- No object in a value repeats a key. -/
inductive HasDistinctKeys : Json → Prop where
  | null : HasDistinctKeys .null
  | bool (value : Bool) : HasDistinctKeys (.bool value)
  | integer (value : Int) : HasDistinctKeys (.integer value)
  | real (value : Binary64) : HasDistinctKeys (.real value)
  | string (value : LooseText) : HasDistinctKeys (.string value)
  | list {items : List Json} :
      (∀ item ∈ items, HasDistinctKeys item) → HasDistinctKeys (.list items)
  | object {fields : List (LooseText × Json)} :
      (fields.map Prod.fst).Nodup → (∀ field ∈ fields, HasDistinctKeys field.2) →
      HasDistinctKeys (.object fields)

end SpecLexicon.Json
