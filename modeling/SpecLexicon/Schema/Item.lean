import SpecLexicon.Item
import SpecLexicon.Schema.Scalar

/-!
# Symbols as JSON

How a symbol, its call forms and its place are written in a database document, and how such a value
is checked and read. The fields of a model are checked in their order and fields of other names are
passed over; of a repeated field the last one counts. A signature is always made of characters,
whatever the other texts are.
-/

set_option autoImplicit false

namespace SpecLexicon

namespace Schema

variable {α : Type}

def required (name : String) (check : Json → Checked α) (fields : List (LooseText × Json)) :
    Checked α :=
  match Json.field? name fields with
  | none => (Checked.fault .missing).within (.key name)
  | some value => (check value).within (.key name)

/-- A field that has a value also when it is not there. -/
def defaulted (name : String) (absent : α) (check : Json → Checked α)
    (fields : List (LooseText × Json)) : Checked α :=
  match Json.field? name fields with
  | none => .valid absent
  | some value => (check value).within (.key name)

def nullable (check : Json → Checked α) : Json → Checked (Option α)
  | .null => .valid none
  | value => (check value).map some

/-- A field that may be null or absent, which mean the same. -/
def optional (name : String) (check : Json → Checked α) (fields : List (LooseText × Json)) :
    Checked (Option α) :=
  defaulted name none (nullable check) fields

def model (check : List (LooseText × Json) → Checked α) : Json → Checked α
  | .object fields => check fields
  | _ => .fault .notModel

def nonEmpty (json : Json) : Checked { text : String // text ≠ "" } :=
  (string json).andThen fun text =>
    if filled : text ≠ "" then .valid ⟨text, filled⟩ else .fault .emptyString

/-- A text with at least one character that is not blank. -/
def visible (json : Json) : Checked { text : String // IsVisible text } :=
  (nonEmpty json).andThen fun text =>
    if shown : IsVisible text.1 then .valid ⟨text.1, shown⟩ else .fault .blankSignature

end Schema

open Schema

/-- Read a place. The offset is zero unless it is given; line and column count from one. -/
def Position.ofJson : Json → Checked Position :=
  model fun fields =>
    ((defaulted "offset" 0 integer fields).both
      ((required "line" (integerFrom 1) fields).both
        (required "column" (integerFrom 1) fields))).map
      fun (offset, line, column) => ⟨offset, line.1, column.1, line.2, column.2⟩

def Span.ofJson : Json → Checked Span :=
  model fun fields =>
    ((required "start" Position.ofJson fields).both
      (required "end" Position.ofJson fields)).map fun (start, finish) => ⟨start, finish⟩

section Texts

variable {τ : Type} [TextForm τ]

def Overload.ofJson : Json → Checked (Overload τ) :=
  model fun fields =>
    ((required "signature" nonEmpty fields).both (optional "description" string fields)).map
      fun (signature, description) => ⟨signature.1, description, signature.2⟩

def Item.ofJson : Json → Checked (Item τ) :=
  model fun fields =>
    ((required "signature" visible fields).both
      ((optional "description" string fields).both
        ((optional "comments" string fields).both
          ((optional "snippet" string fields).both
            ((optional "location" Span.ofJson fields).both
              (optional "overloads" (listOf Overload.ofJson) fields)))))).map
      fun (signature, description, comments, snippet, location, overloads) =>
        ⟨signature.1, description, comments, snippet, location, overloads, signature.2⟩

end Texts

def Position.toJson (position : Position) : Json :=
  .object [("offset", .integer position.offset), ("line", .integer position.line),
    ("column", .integer position.column)]

def Span.toJson (span : Span) : Json :=
  .object [("start", span.start.toJson), ("end", span.finish.toJson)]

/-- Write a value, and null where there is none. -/
def Json.orNull {α : Type} (write : α → Json) : Option α → Json
  | none => .null
  | some value => write value

section Texts

variable {τ : Type} [TextForm τ]

def Json.ofText (text : τ) : Json :=
  .string (TextForm.write text)

def Overload.toJson (overload : Overload τ) : Json :=
  .object [("signature", .string overload.signature),
    ("description", Json.orNull Json.ofText overload.description)]

def Item.toJson (item : Item τ) : Json :=
  .object [("signature", .string item.signature),
    ("description", Json.orNull Json.ofText item.description),
    ("comments", Json.orNull Json.ofText item.comments),
    ("snippet", Json.orNull Json.ofText item.snippet),
    ("location", Json.orNull Span.toJson item.location),
    ("overloads", Json.orNull (fun overloads => .list (overloads.map Overload.toJson))
      item.overloads)]

end Texts

end SpecLexicon
