import SpecLexicon.Number.Binary64
import SpecLexicon.OrderedMap
import SpecLexicon.Text.Loose

/-!
# JSON values

A JSON document as it was written: an object keeps all of its fields in document order, repeated
keys included. Whole numbers without point or exponent are kept exactly; every other number is the
nearest double precision number. Strings and keys are loose texts, since they may escape half of a
surrogate pair.
-/

set_option autoImplicit false

namespace SpecLexicon

/-- A JSON value. The fields of an object stand in document order and may repeat a key. -/
inductive Json where
  | null
  | bool (value : Bool)
  | integer (value : Int)
  | real (value : Binary64)
  | string (value : LooseText)
  | list (items : List Json)
  | object (fields : List (LooseText × Json))
deriving Repr, Inhabited

namespace Json

/-- The value of a field; of a repeated key the last occurrence counts. -/
def field? (name : String) : List (LooseText × Json) → Option Json
  | [] => none
  | (key, value) :: rest =>
    match field? name rest with
    | some later => some later
    | none => if key = .text name then some value else none

def text? : Json → Option LooseText
  | .string text => some text
  | _ => none

mutual

/-- The value in which every object holds each key once, at its first place and with its last
value. -/
def settle : Json → Json
  | .list items => .list (settleItems items)
  | .object fields => .object (settleFields fields).toList
  | .null => .null
  | .bool value => .bool value
  | .integer value => .integer value
  | .real value => .real value
  | .string value => .string value

def settleItems : List Json → List Json
  | [] => []
  | item :: rest => settle item :: settleItems rest

/-- Settle every value of an object and drop the repetitions of a key. -/
def settleFields (fields : List (LooseText × Json)) : OrderedMap LooseText Json :=
  .ofList (settleValues fields)

def settleValues : List (LooseText × Json) → List (LooseText × Json)
  | [] => []
  | (key, value) :: rest => (key, settle value) :: settleValues rest

end

end Json

end SpecLexicon
