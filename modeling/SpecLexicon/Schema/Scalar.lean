import SpecLexicon.Json.Reader
import SpecLexicon.Number.Numeral
import SpecLexicon.Schema.Checked
import SpecLexicon.Text.Blank

/-!
# Checking scalars

What each scalar type accepts. Strings are strings and nothing else. Numbers and truth values are
accepted in every notation that means one: a whole number may be written as a real number or as a
text, and a truth value as a number or a word.
-/

set_option autoImplicit false

namespace SpecLexicon.Schema

def looseText : Json → Checked LooseText
  | .string text => .valid text
  | _ => .fault .notString

/-- A kind of texts that a document may hold: what a string has to be for one, and how one is
written. A text is read as what was written. -/
class TextForm (τ : Type) where
  read : LooseText → Checked τ
  write : τ → LooseText
  read_write (text : τ) : read (write text) = .valid text
  write_of_read {loose : LooseText} {text : τ} : read loose = .valid text → write text = loose

/-- The texts of a document that is read as a text are made of characters. -/
instance : TextForm String where
  read
    | .text text => .valid text
    | .broken _ _ => .fault .notUnicode
  write := .text
  read_write _ := rfl
  write_of_read {loose text} read := by
    cases loose with
    | text found => rw [Checked.valid.inj read]
    | broken points halved => cases read

/-- The texts of a decoded value are passed on as they are. -/
instance : TextForm LooseText where
  read := .valid
  write text := text
  read_write _ := rfl
  write_of_read read := (Checked.valid.inj read).symm

def string {τ : Type} [TextForm τ] (json : Json) : Checked τ :=
  (looseText json).andThen TextForm.read

/-- A character that may surround a number in a text: a blank other than the ASCII separators. -/
def isNumberMargin (c : Char) : Bool :=
  Text.isBlank c && !(0x1C ≤ c.toNat && c.toNat ≤ 0x1F)

def trimNumber (text : List Char) : List Char :=
  ((text.dropWhile isNumberMargin).reverse.dropWhile isNumberMargin).reverse

/-- The whole number that a text is, as JSON writes it: a minus sign or none, no needless leading
zero, and not too long. -/
def plainInteger? (text : List Char) : Option Int :=
  let unsigned := if text.head? = some '-' then text.drop 1 else text
  let canonical := unsigned = ['0'] ∨ (unsigned ≠ [] ∧ unsigned.head? ≠ some '0')
  if canonical ∧ unsigned.all Char.isDigit ∧ unsigned.length ≤ Json.digitLimit then
    let size : Int := digitsValue unsigned
    some (if text.head? = some '-' then -size else size)
  else none

/-- A text is too long when the whole number at its start is. -/
def isOversized (text : List Char) : Bool :=
  let unsigned := if text.head? = some '-' then text.drop 1 else text
  let digits := unsigned.takeWhile Char.isDigit
  digits.head? != some '0' && Json.digitLimit < digits.length

/-- The number without its leading zeros and the underscores among them. The last zero stays if
nothing or a point follows, and a minus sign may stand behind the zeros. -/
def dropZeros? (text : List Char) : Option (List Char) :=
  let zeros := text.takeWhile fun c => c == '0' || c == '_'
  let behind := text.drop zeros.length
  match zeros.head?, behind.head? with
  | none, some c => if c.isDigit then some text else none
  | some '0', none => if zeros.getLast? = some '0' then some ['0'] else none
  | some '0', some c =>
    if c = '.' then if zeros.getLast? = some '0' then some ('0' :: behind) else none
    else if c.isDigit ∨ c = '-' then some behind
    else none
  | _, _ => none

/-- The number without a point that only zeros follow. -/
def dropFraction (text : List Char) : List Char :=
  match (text.dropWhile (· != '.')).tail? with
  | some zeros =>
    if zeros ≠ [] ∧ zeros.all (· == '0') = true then text.takeWhile (· != '.') else text
  | none => text

def hasDoubleUnderscore : List Char → Bool
  | '_' :: '_' :: _ => true
  | _ :: rest => hasDoubleUnderscore rest
  | [] => false

/-- The text without its underscores, if each of them stands alone within the text. -/
def joinGroups? (text : List Char) : Option (List Char) :=
  if text.head? = some '_' ∨ text.getLast? = some '_' ∨ hasDoubleUnderscore text = true then none
  else some (text.filter (· != '_'))

/-- The whole number in a text: a sign, digits in groups, and behind a point nothing but zeros. -/
def readInteger? (text : List Char) : Option Int :=
  let (sign, unsigned) := Numeral.takeSign text
  match dropZeros? unsigned with
  | none => none
  | some number =>
    match joinGroups? (dropFraction number) with
    | none => none
    | some digits => plainInteger? (if sign == some '-' then '-' :: digits else digits)

/-- A real number stands for a whole number when it is one and has at most 63 bits. -/
def integerOfReal (value : Binary64) : Checked Int :=
  if !value.isFinite then .fault .infiniteInteger
  else match value.toInt? with
    | none => .fault .fractionalInteger
    | some whole =>
      if whole.natAbs < 2 ^ 63 then .valid whole else .fault .oversizedInteger

/-- The whole number that a text stands for. It may have blanks around it, but a text that starts
with too many digits at once is not read at all. -/
def integerOfText (text : List Char) : Checked Int :=
  if isOversized text then .fault .oversizedInteger
  else match readInteger? (trimNumber text) with
    | some value => .valid value
    | none => .fault .unreadableInteger

def integer : Json → Checked Int
  | .integer value => .valid value
  | .bool value => .valid (if value then 1 else 0)
  | .real value => integerOfReal value
  | .string (.text text) => integerOfText text.toList
  | .string (.broken _ _) => .fault .notUnicode
  | _ => .fault .notInteger

def integerFrom (bound : Nat) (json : Json) : Checked { value : Nat // bound ≤ value } :=
  (integer json).andThen fun value =>
    if large : bound ≤ value.toNat ∧ 0 ≤ value then .valid ⟨value.toNat, large.1⟩
    else .fault .tooSmall

/-- The names of the real numbers that have no digits, without sign and in lower case. -/
def realName? (text : List Char) : Option (Bool → Binary64) :=
  match String.ofList (text.map Char.toLower) with
  | "inf" => some .infinite
  | "infinity" => some .infinite
  | "nan" => some fun _ => .notANumber
  | _ => none

/-- A real number written as a numeral or by its name, from the first to the last character. -/
def readPlainReal? (text : List Char) : Option Binary64 :=
  let (sign, unsigned) := Numeral.takeSign text
  match realName? unsigned with
  | some named => some (named (sign == some '-'))
  | none => (Numeral.read? text).map Numeral.toBinary64

/-- The real number in a text: surrounded by blanks, or else with single underscores inside. -/
def readReal? (text : List Char) : Option Binary64 :=
  match readPlainReal? (trimNumber text) with
  | some value => some value
  | none => (joinGroups? text).bind readPlainReal?

/-- A real number in any notation. A whole number counts if it is not too large for the format. -/
def real : Json → Checked Binary64
  | .integer value =>
    let nearest := Binary64.ofInt value
    if nearest.isFinite then .valid nearest else .fault .notNumber
  | .bool value => .valid (Binary64.ofInt (if value then 1 else 0))
  | .real value => .valid value
  | .string (.text text) =>
    match readReal? text.toList with
    | some value => .valid value
    | none => .fault .unreadableNumber
  | _ => .fault .notNumber

def positiveReal (json : Json) : Checked Binary64 :=
  (real json).andThen fun value => if value.isPositive then .valid value else .fault .notAbove

def truthWord? (text : String) : Option Bool :=
  let word := String.ofList (text.toList.map Char.toLower)
  if word ∈ ["1", "on", "t", "true", "y", "yes"] then some true
  else if word ∈ ["0", "off", "f", "false", "n", "no"] then some false
  else none

def truthNumber (value : Int) : Checked Bool :=
  if value = 1 then .valid true else if value = 0 then .valid false else .fault .unreadableBoolean

/-- A truth value, written as such, as a number or as a word. -/
def boolean : Json → Checked Bool
  | .bool value => .valid value
  | .integer value =>
    if -2 ^ 63 ≤ value ∧ value < 2 ^ 63 then truthNumber value else .fault .notBoolean
  | .real value =>
    match integerOfReal value with
    | .valid whole => truthNumber whole
    | .faulty _ _ => .fault .notBoolean
  | .string (.text text) =>
    match truthWord? text with
    | some value => .valid value
    | none => .fault .unreadableBoolean
  | _ => .fault .notBoolean

def listOf {α : Type} (check : Json → Checked α) : Json → Checked (List α)
  | .list items =>
    .all (fun item => (check item.1).within (.index item.2)) items.zipIdx
  | _ => .fault .notList

end SpecLexicon.Schema
