import SpecLexicon.Json.Likeness
import SpecLexicon.Json.Message

/-!
# The values of the configuration

Lines, a switch, a number of attempts and a waiting time. The sources of the configuration give
proper values only. A program may put any JSON value in the place of one without a check; such a
foreign value is kept as it is, and shows what it is good for where it is used.
-/

set_option autoImplicit false

namespace SpecLexicon

/-- Why lines are not read to their end: they are no row of values, or one of them is no text. The
kind of the value is named. -/
inductive LineFlaw where
  | notRow (kind : String)
  | notText (kind : String)
deriving DecidableEq, Repr

def LineFlaw.message : LineFlaw → String
  | notRow kind => "'" ++ kind ++ "' object is not iterable"
  | notText kind => "'" ++ kind ++ "' object has no attribute 'strip'"

/-- A list of lines, or a foreign value in its place. -/
inductive Lines where
  | texts (lines : List LooseText)
  | foreign (value : Json)
deriving Repr

namespace Lines

def ofJson (value : Json) : Lines :=
  match value with
  | .list items =>
    match items.mapM Json.text? with
    | some lines => texts lines
    | none => foreign value
  | _ => foreign value

def toJson : Lines → Json
  | texts lines => .list (lines.map .string)
  | foreign value => value

theorem map_string_of_mapM_text? {items : List Json} {lines : List LooseText}
    (read : items.mapM Json.text? = some lines) : lines.map .string = items := by
  induction items generalizing lines with
  | nil =>
    obtain rfl : lines = [] := by simpa [eq_comm] using read
    rfl
  | cons item rest ih =>
    rw [List.mapM_cons] at read
    obtain ⟨line, first, read⟩ := Option.bind_eq_some_iff.mp read
    obtain ⟨others, behind, read⟩ := Option.bind_eq_some_iff.mp read
    obtain rfl : line :: others = lines := by simpa using read
    cases item with
    | string text =>
      obtain rfl : text = line := by simpa [Json.text?] using first
      rw [List.map_cons, ih behind]
    | null | bool | integer | real | list | object => simp [Json.text?] at first

@[simp] theorem toJson_ofJson (value : Json) : toJson (ofJson value) = value := by
  cases value with
  | list items =>
    simp only [ofJson]
    split
    · rename_i lines read
      rw [toJson, map_string_of_mapM_text? read]
    · rfl
  | null | bool | integer | real | string | object => rfl

/-- The values that a foreign value consists of: the characters of a text, the elements of a list,
or the keys of an object. -/
def parts? : Json → Option (List Json)
  | .string text => some (text.points.map fun point => .string (.ofPoints [point]))
  | .list items => some items
  | .object fields => some (fields.map fun field => .string field.1)
  | _ => none

/-- The texts in front of the first value that is none. -/
def leadingTexts (values : List Json) : List LooseText :=
  (values.takeWhile fun value => value.text?.isSome).filterMap Json.text?

def readable : Lines → List LooseText
  | texts lines => lines
  | foreign value => leadingTexts ((parts? value).getD [])

/-- What stops the reading behind the lines that can be read. -/
def flaw? : Lines → Option LineFlaw
  | texts _ => none
  | foreign value =>
    match parts? value with
    | none => some (.notRow value.kindName)
    | some values =>
      (values.find? fun value => value.text?.isNone).map fun value => .notText value.kindName

def isRow (lines : Lines) : Bool :=
  match lines.flaw? with
  | some (.notRow _) => false
  | _ => true

def agrees : Lines → Lines → Bool
  | texts left, texts right => left == right
  | foreign left, foreign right => left.alike right
  | _, _ => false

@[simp] theorem readable_texts (lines : List LooseText) : readable (texts lines) = lines := rfl

@[simp] theorem flaw?_texts (lines : List LooseText) : flaw? (texts lines) = none := rfl

@[simp] theorem isRow_texts (lines : List LooseText) : isRow (texts lines) = true := rfl

@[simp] theorem agrees_texts (left right : List LooseText) :
    agrees (texts left) (texts right) = (left == right) := rfl

end Lines

/-- A switch, or a foreign value in its place. -/
inductive Switch where
  | state (on : Bool)
  | foreign (value : Json)
deriving Repr

namespace Switch

def ofJson : Json → Switch
  | .bool on => state on
  | value => foreign value

def toJson : Switch → Json
  | state on => .bool on
  | foreign value => value

@[simp] theorem toJson_ofJson (value : Json) : toJson (ofJson value) = value := by
  cases value <;> rfl

/-- A switch counts as on unless its value is void. -/
def isOn (switch : Switch) : Bool :=
  !switch.toJson.isVoid

@[simp] theorem isOn_state (on : Bool) : isOn (state on) = on := by
  simp [isOn, toJson, Json.isVoid]

end Switch

/-- A number of attempts, or a foreign value in its place. -/
inductive Count where
  | number (value : Int)
  | foreign (value : Json)
deriving Repr

namespace Count

def ofJson : Json → Count
  | .integer value => number value
  | value => foreign value

def toJson : Count → Json
  | number value => .integer value
  | foreign value => value

@[simp] theorem toJson_ofJson (value : Json) : toJson (ofJson value) = value := by
  cases value <;> rfl

/-- The number that a value counts as. A truth value counts as one or zero. -/
def toInt? : Count → Option Int
  | number value => some value
  | foreign (.bool value) => some (if value then 1 else 0)
  | foreign _ => none

def notNumberMessage (kind : String) : String :=
  if kind = "float" then "'float' object cannot be interpreted as an integer"
  else if kind = "str" ∨ kind = "list" then
    "can only concatenate " ++ kind ++ " (not \"int\") to " ++ kind
  else "unsupported operand type(s) for +: '" ++ kind ++ "' and 'int'"

@[simp] theorem toInt?_number (value : Int) : toInt? (number value) = some value := rfl

end Count

/-- A waiting time in seconds, a whole number or a real one, or a foreign value in its place. -/
inductive Delay where
  | whole (seconds : Int)
  | exact (seconds : Binary64)
  | foreign (value : Json)
deriving Repr

namespace Delay

def ofJson : Json → Delay
  | .integer seconds => whole seconds
  | .real seconds => exact seconds
  | value => foreign value

def toJson : Delay → Json
  | whole seconds => .integer seconds
  | exact seconds => .real seconds
  | foreign value => value

@[simp] theorem toJson_ofJson (value : Json) : toJson (ofJson value) = value := by
  cases value <;> rfl

def text (delay : Delay) : String :=
  delay.toJson.inMessage

end Delay

end SpecLexicon
