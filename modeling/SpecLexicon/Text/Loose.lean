import SpecLexicon.Text.Quoted

/-!
# Loose texts

A string of JSON may escape half of a surrogate pair, which is no character. A loose text is what
such a string holds: a text, or code points of which some are halves. Nothing looks into a half. So
a reader of texts takes a loose text with any plain character in the place of its halves, and a half
is left in the result exactly where that character is. What only passes texts on, as a document or
the name of a file does, keeps the halves themselves.
-/

set_option autoImplicit false

namespace SpecLexicon

/-- A code point: a character, or half of a surrogate pair by its number. -/
inductive CodePoint where
  | char (c : Char)
  | half (unit : Nat)
deriving DecidableEq, Repr

def CodePoint.char? : CodePoint → Option Char
  | char c => some c
  | half _ => none

/-- A text, or the code points of a string that is no text. -/
inductive LooseText where
  | text (value : String)
  | broken (points : List CodePoint) (halved : points.mapM CodePoint.char? = none)
deriving DecidableEq, Repr

instance : Inhabited LooseText := ⟨.text ""⟩

instance : Coe String LooseText := ⟨.text⟩

namespace LooseText

/-- The loose text of code points. Without halves it is a text. -/
def ofPoints (points : List CodePoint) : LooseText :=
  match halved : points.mapM CodePoint.char? with
  | some chars => .text (String.ofList chars)
  | none => .broken points halved

def points : LooseText → List CodePoint
  | text value => value.toList.map .char
  | broken points _ => points

def isText : LooseText → Bool
  | text _ => true
  | broken _ _ => false

instance : Append LooseText where
  append left right := ofPoints (left.points ++ right.points)

/-- The text with something in the place of every half. -/
def fill (shown : Nat → List Char) : LooseText → String
  | text value => value
  | broken points _ => String.ofList (points.flatMap fun
      | .char c => [c]
      | .half unit => shown unit)

/-- The text as a reader of texts takes it, with a plain character in the place of every half. -/
def plain : LooseText → String :=
  fill fun _ => ['\ufffd']

/-- The text as a place shows it, with a replacement character for each byte of a half. -/
def shown : LooseText → String :=
  fill fun _ => ['\ufffd', '\ufffd', '\ufffd']

/-- The text as an error stream writes it, with the escapes of its halves. -/
def escaped : LooseText → String :=
  fill fun unit => '\\' :: 'u' :: Text.hexDigits 4 unit

/-- A plain character that tells which half it stands for, of a plane for private use. -/
def standIn (plane unit : Nat) : Char :=
  Char.ofNat (plane * 0x10000 + unit)

/-- The text with characters of a plane in the place of the halves. -/
def inPlane (plane : Nat) (text : LooseText) : String :=
  text.fill fun unit => [standIn plane unit]

/-- The result of a reader, by its results for the two planes: a half is left where they differ. -/
def ofReadings (first second : String) : LooseText :=
  ofPoints (List.zipWith
    (fun one another => if one = another then .char one else .half (one.toNat % 0x10000))
    first.toList second.toList)

def quoted : LooseText → String
  | text value => Text.quoted value
  | broken points _ =>
    let quote := Text.Quoted.quoteFor (points.filterMap CodePoint.char?)
    String.ofList (quote :: points.flatMap (fun
      | .char c => Text.Quoted.encodeChar quote c
      | .half unit => '\\' :: 'u' :: Text.hexDigits 4 unit) ++ [quote])

@[simp] theorem fill_text (shown : Nat → List Char) (value : String) :
    fill shown (text value) = value := rfl

@[simp] theorem plain_text (value : String) : plain (text value) = value := rfl

@[simp] theorem shown_text (value : String) : LooseText.shown (text value) = value := rfl

@[simp] theorem quoted_text (value : String) : quoted (text value) = Text.quoted value := rfl

@[simp] theorem escaped_text (value : String) : escaped (text value) = value := rfl

/-- Characters make up a text. -/
theorem ofPoints_map_char (body : List Char) :
    ofPoints (body.map .char) = text (String.ofList body) := by
  have chars : (body.map CodePoint.char).mapM CodePoint.char? = some body := by
    induction body with
    | nil => rfl
    | cons c rest ih => simp [List.mapM_cons, ih, CodePoint.char?]
  rw [ofPoints]
  split
  · rename_i found read
    rw [Option.some.inj (read.symm.trans chars)]
  · rename_i halved
    cases halved.symm.trans chars

@[simp] theorem text_append_text (left right : String) :
    text left ++ text right = text (left ++ right) := by
  change ofPoints (left.toList.map .char ++ right.toList.map .char) = _
  rw [← List.map_append, ofPoints_map_char, ← String.toList_append, String.ofList_toList]

end LooseText

end SpecLexicon
