import SpecLexicon.Json.Printer

/-!
# Alike values

Two JSON values are alike when they differ in nothing but the notation of their numbers and the
order of their fields; a truth value is alike to one or zero. Each value has a likeness, a text that
it shares with exactly the values that are alike to it.
-/

set_option autoImplicit false

namespace SpecLexicon.Json

def joinLikenesses (rows : List (List Char)) : List Char :=
  rows.intersperse [','] |>.flatten

mutual

/-- The text that a value shares with the values that are alike to it. -/
def likeness : Json → List Char
  | .null => "null".toList
  | .bool value => writeInt (if value then 1 else 0)
  | .integer value => writeInt value
  | .real value =>
    match value.toInt? with
    | some whole => writeInt whole
    | none => writeReal value
  | .string text => writeString text
  | .list items => '[' :: (joinLikenesses (itemLikenesses items) ++ [']'])
  | .object fields =>
    let entries := (fieldLikenesses fields).mergeSort fun left right => left ≤ right
    '{' :: (joinLikenesses (entries.map String.toList) ++ ['}'])

def itemLikenesses : List Json → List (List Char)
  | [] => []
  | item :: rest => likeness item :: itemLikenesses rest

def fieldLikenesses : List (LooseText × Json) → List String
  | [] => []
  | (key, value) :: rest =>
    String.ofList (writeString key ++ ':' :: likeness value) :: fieldLikenesses rest

end

def alike (left right : Json) : Bool :=
  left.likeness == right.likeness

theorem alike_eq_true_iff {left right : Json} :
    left.alike right = true ↔ left.likeness = right.likeness := by
  simp [alike]

end SpecLexicon.Json
