import SpecLexicon.Json.Printer

/-!
# Values in messages

How a message shows a value: a text alone stands as it is, and within a value it is quoted. Absence
and the truth values have names of their own.
-/

set_option autoImplicit false

namespace SpecLexicon.Json

/-- A double precision number; the names of those without digits are in lower case. -/
def realInMessage : Binary64 → String
  | .notANumber => "nan"
  | .infinite negative => if negative then "-inf" else "inf"
  | .finite negative mantissa exponent =>
    Binary64.text numberLayout (.finite negative mantissa exponent)

mutual

def inMessage : Json → String
  | .null => "None"
  | .bool value => if value then "True" else "False"
  | .integer value => toString value
  | .real value => realInMessage value
  | .string text => text.quoted
  | .list items => "[" ++ itemsInMessage items ++ "]"
  | .object fields => "\x7b" ++ fieldsInMessage fields ++ "\x7d"

def itemsInMessage : List Json → String
  | [] => ""
  | [item] => inMessage item
  | item :: rest => inMessage item ++ ", " ++ itemsInMessage rest

def fieldsInMessage : List (LooseText × Json) → String
  | [] => ""
  | [(key, value)] => key.quoted ++ ": " ++ inMessage value
  | (key, value) :: rest =>
    key.quoted ++ ": " ++ inMessage value ++ ", " ++ fieldsInMessage rest

end

def asMessage : Json → String
  | .string text => text.shown
  | value => inMessage value

def kindName : Json → String
  | .null => "NoneType"
  | .bool _ => "bool"
  | .integer _ => "int"
  | .real _ => "float"
  | .string _ => "str"
  | .list _ => "list"
  | .object _ => "dict"

/-- A value that a message can leave out: nothing, zero, or without a part. -/
def isVoid : Json → Bool
  | .null => true
  | .bool value => !value
  | .integer value => value == 0
  | .real value => value.toInt? == some 0
  | .string text => text.points.isEmpty
  | .list items => items.isEmpty
  | .object fields => fields.isEmpty

end SpecLexicon.Json
