import SpecLexicon.Json.Basic
import SpecLexicon.Number.Shortest
import SpecLexicon.Text.Quoted

/-!
# Writing JSON

The compact text of a JSON value: no layout, fields in their order, and in a string only the quote,
the backslash and the control characters below the space are escaped.
-/

set_option autoImplicit false

namespace SpecLexicon.Json

/-- Numbers are written without an exponent from `0.0001` up to sixteen digits. -/
def numberLayout : Binary64.Layout := ⟨-3, 16, 2⟩

def writeChar (c : Char) : List Char :=
  if c = '"' then ['\\', '"']
  else if c = '\\' then ['\\', '\\']
  else if c.toNat < 0x20 then '\\' :: 'u' :: Text.hexDigits 4 c.toNat
  else [c]

/-- One code point of a string. A half of a pair is always escaped. -/
def writePoint : CodePoint → List Char
  | .char c => writeChar c
  | .half unit => '\\' :: 'u' :: Text.hexDigits 4 unit

def writeString (text : LooseText) : List Char :=
  '"' :: (text.points.flatMap writePoint ++ ['"'])

def writeInt (value : Int) : List Char :=
  if value < 0 then '-' :: Nat.toDigits 10 value.natAbs else Nat.toDigits 10 value.natAbs

def writeReal : Binary64 → List Char
  | .notANumber => "NaN".toList
  | .infinite negative => if negative then "-Infinity".toList else "Infinity".toList
  | .finite negative mantissa exponent =>
    (Binary64.text numberLayout (.finite negative mantissa exponent)).toList

mutual

def write : Json → List Char
  | .null => "null".toList
  | .bool value => if value then "true".toList else "false".toList
  | .integer value => writeInt value
  | .real value => writeReal value
  | .string value => writeString value
  | .list [] => ['[', ']']
  | .list (item :: rest) => '[' :: (write item ++ writeItems rest)
  | .object [] => ['{', '}']
  | .object ((key, value) :: rest) =>
    '{' :: (writeString key ++ ':' :: (write value ++ writeFields rest))

def writeItems : List Json → List Char
  | [] => [']']
  | item :: rest => ',' :: (write item ++ writeItems rest)

def writeFields : List (LooseText × Json) → List Char
  | [] => ['}']
  | (key, value) :: rest =>
    ',' :: (writeString key ++ ':' :: (write value ++ writeFields rest))

end

def toText (value : Json) : String :=
  String.ofList (write value)

end SpecLexicon.Json
