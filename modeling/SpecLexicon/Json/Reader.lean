import SpecLexicon.Json.Basic
import SpecLexicon.Number.Numeral
import SpecLexicon.Text.Substitution

/-!
# Reading JSON

A reader of JSON text. It takes one value surrounded by layout and nothing else: no comments, no
trailing commas, and no raw control characters in a string. Beyond the grammar of JSON it knows the
three numbers `NaN`, `Infinity` and `-Infinity`. There are bounds for the nesting and for the digits
of a number. A document is read strictly, without escapes of half a surrogate pair. A value is
decoded more freely, and what is wrong with its text is the first fault from the left.
-/

set_option autoImplicit false

namespace SpecLexicon.Json

def isLayout (c : Char) : Bool :=
  c == ' ' || c == '\t' || c == '\n' || c == '\r'

def skipLayout (text : List Char) : List Char :=
  text.dropWhile isLayout

def hexValue? (c : Char) : Option Nat :=
  if c.isDigit then some (c.toNat - '0'.toNat)
  else if 'a' ≤ c ∧ c ≤ 'f' then some (c.toNat - 'a'.toNat + 10)
  else if 'A' ≤ c ∧ c ≤ 'F' then some (c.toNat - 'A'.toNat + 10)
  else none

def readUnit? : List Char → Option (Nat × List Char)
  | a :: b :: c :: d :: rest => do
    let a ← hexValue? a
    let b ← hexValue? b
    let c ← hexValue? c
    let d ← hexValue? d
    pure (((a * 16 + b) * 16 + c) * 16 + d, rest)
  | _ => none

/-- The number of digits that a whole number may have. -/
def digitLimit : Nat := 4300

/-- How deep a value may be nested that is decoded. -/
def decodingDepth : Nat := 990

/-- What a reader takes: whether a string may escape half of a surrogate pair, whether the bound on
digits holds in front of the point of a real number too, whether a list or an object without parts
counts as nested, and the two bounds. -/
structure Dialect where
  halfPairs : Bool
  boundsReals : Bool
  countsEmpty : Bool
  depth : Nat
  digits : Nat

def document (depth : Nat) : Dialect := ⟨false, true, false, depth, digitLimit⟩

def decoding : Dialect := ⟨true, false, true, decodingDepth, digitLimit⟩

/-- No text of a size is beyond these bounds: it nests no deeper than it is long. -/
def unbounded (size : Nat) : Dialect := ⟨true, false, true, size, size⟩

/-- Why a text is not read. A list, or else an object, may be nested too deep. -/
inductive ReadFault where
  | notJson
  | oversizedInteger (digits : Nat)
  | overnested (list : Bool)
deriving DecidableEq, Repr

def oversizedMessage (digits : Nat) : String :=
  "Exceeds the limit (" ++ toString digitLimit ++
    " digits) for integer string conversion: value has " ++ toString digits ++
    " digits; use sys.set_int_max_str_digits() to increase the limit"

def overnestedMessage (list : Bool) : String :=
  "maximum recursion depth exceeded while decoding a JSON " ++
    (if list then "array" else "object") ++ " from a unicode string"

/-- Read the code point behind `\u`: one unit, or a high surrogate followed by the escape of a low
one. Half a pair is no character. -/
def readCodePoint? (dialect : Dialect) (text : List Char) : Option (CodePoint × List Char) :=
  match readUnit? text with
  | none => none
  | some (unit, rest) =>
    let half : Option (CodePoint × List Char) :=
      if dialect.halfPairs then some (.half unit, rest) else none
    if 0xD800 ≤ unit ∧ unit < 0xDC00 then
      match rest with
      | '\\' :: 'u' :: behind =>
        match readUnit? behind with
        | some (low, last) =>
          if 0xDC00 ≤ low ∧ low < 0xE000 then
            some (.char (Char.ofNat (0x10000 + (unit - 0xD800) * 0x400 + (low - 0xDC00))), last)
          else half
        | none => none
      | _ => half
    else if 0xDC00 ≤ unit ∧ unit < 0xE000 then half
    else some (.char (Char.ofNat unit), rest)

def readEscape? (dialect : Dialect) : List Char → Option (CodePoint × List Char)
  | '"' :: rest => some (.char '"', rest)
  | '\\' :: rest => some (.char '\\', rest)
  | '/' :: rest => some (.char '/', rest)
  | 'b' :: rest => some (.char '\x08', rest)
  | 'f' :: rest => some (.char '\x0c', rest)
  | 'n' :: rest => some (.char '\n', rest)
  | 'r' :: rest => some (.char '\r', rest)
  | 't' :: rest => some (.char '\t', rest)
  | 'u' :: rest => readCodePoint? dialect rest
  | _ => none

/-- Read one character of a string, written plainly or as an escape. -/
def readChar? (dialect : Dialect) : List Char → Option (CodePoint × List Char)
  | [] => none
  | c :: rest =>
    if c = '\\' then readEscape? dialect rest
    else if c.toNat < 0x20 then none
    else some (.char c, rest)

/-- Read a string behind its opening quote, up to and including the closing one. The fuel bounds the
number of characters. -/
def readString? (dialect : Dialect) : Nat → List Char → Option (List CodePoint × List Char)
  | 0, _ => none
  | fuel + 1, text =>
    match text with
    | '"' :: rest => some ([], rest)
    | _ =>
      match readChar? dialect text with
      | none => none
      | some (c, rest) =>
        match readString? dialect fuel rest with
        | none => none
        | some (body, behind) => some (c :: body, behind)

/-- Split off the number that a text starts with. A point or an exponent without a digit does not
belong to it. -/
def takeNumeral (text : List Char) : Numeral × List Char :=
  let (sign, unsigned) := Numeral.takeSign text
  let (fraction, rest) :=
    match Numeral.takeFraction (unsigned.dropWhile Char.isDigit) with
    | (some [], _) => (none, unsigned.dropWhile Char.isDigit)
    | found => found
  let (exponent, behind) := Numeral.takeExponent rest
  ({ sign, whole := unsigned.takeWhile Char.isDigit, fraction, exponent }, behind)

/-- A numeral is a JSON number when it has a digit before the point, no needless leading zero, and
no plus sign. -/
def isNumber (numeral : Numeral) : Bool :=
  numeral.sign != some '+' &&
    (match numeral.whole with
      | [] => false
      | [_] => true
      | first :: _ => first != '0')

def ofNumeral (numeral : Numeral) : Json :=
  if numeral.isInteger then .integer numeral.toInt else .real numeral.toBinary64

def readNumber (dialect : Dialect) (text : List Char) : Except ReadFault (Json × List Char) :=
  let (numeral, rest) := takeNumeral text
  if !isNumber numeral then .error .notJson
  else if dialect.digits < numeral.whole.length ∧ (numeral.isInteger ∨ dialect.boundsReals) then
    .error (.oversizedInteger numeral.whole.length)
  else .ok (ofNumeral numeral, rest)

def names : List (List Char × Json) :=
  [("null".toList, .null), ("true".toList, .bool true), ("false".toList, .bool false),
    ("NaN".toList, .real .notANumber), ("Infinity".toList, .real (.infinite false)),
    ("-Infinity".toList, .real (.infinite true))]

def readAtom (dialect : Dialect) (text : List Char) : Except ReadFault (Json × List Char) :=
  match names.findSome? fun entry =>
    (Text.stripOpening? entry.1 text).map fun rest => (entry.2, rest) with
  | some found => .ok found
  | none => readNumber dialect text

def readQuoted (dialect : Dialect) (text : List Char) : Except ReadFault (LooseText × List Char) :=
  match readString? dialect (text.length + 1) text with
  | some (points, rest) => .ok (.ofPoints points, rest)
  | none => .error .notJson

/-- No list or object may be opened any more. One that is closed at once may not count. -/
def isTooDeep (dialect : Dialect) (depth : Nat) (closing : Char) (text : List Char) : Bool :=
  depth == 0 && (dialect.countsEmpty || (skipLayout text).head? != some closing)

mutual

/-- Read a value at the start of a text. The fuel bounds the number of steps, and the depth the
nesting. -/
def readValue (dialect : Dialect) : Nat → Nat → List Char → Except ReadFault (Json × List Char)
  | 0, _, _ => .error .notJson
  | fuel + 1, depth, text =>
    match text with
    | '"' :: rest => (readQuoted dialect rest).map fun found => (.string found.1, found.2)
    | '[' :: rest =>
      if isTooDeep dialect depth ']' rest then .error (.overnested true)
      else match skipLayout rest with
        | ']' :: behind => .ok (.list [], behind)
        | inner =>
          (readItems dialect fuel (depth - 1) inner).map fun found => (.list found.1, found.2)
    | '{' :: rest =>
      if isTooDeep dialect depth '}' rest then .error (.overnested false)
      else match skipLayout rest with
        | '}' :: behind => .ok (.object [], behind)
        | inner =>
          (readFields dialect fuel (depth - 1) inner).map fun found => (.object found.1, found.2)
    | _ => readAtom dialect text

/-- Read the elements of a list that is not empty, up to and including its closing bracket. -/
def readItems (dialect : Dialect) :
    Nat → Nat → List Char → Except ReadFault (List Json × List Char)
  | 0, _, _ => .error .notJson
  | fuel + 1, depth, text =>
    match readValue dialect fuel depth text with
    | .error fault => .error fault
    | .ok (item, rest) =>
      match skipLayout rest with
      | ']' :: behind => .ok ([item], behind)
      | ',' :: behind =>
        (readItems dialect fuel depth (skipLayout behind)).map fun found =>
          (item :: found.1, found.2)
      | _ => .error .notJson

/-- Read the fields of an object that is not empty, up to and including its closing brace. -/
def readFields (dialect : Dialect) :
    Nat → Nat → List Char → Except ReadFault (List (LooseText × Json) × List Char)
  | 0, _, _ => .error .notJson
  | fuel + 1, depth, text =>
    match text with
    | '"' :: opened =>
      match readQuoted dialect opened with
      | .error fault => .error fault
      | .ok (key, afterKey) =>
        match skipLayout afterKey with
        | ':' :: afterColon =>
          match readValue dialect fuel depth (skipLayout afterColon) with
          | .error fault => .error fault
          | .ok (value, rest) =>
            match skipLayout rest with
            | '}' :: behind => .ok ([(key, value)], behind)
            | ',' :: behind =>
              (readFields dialect fuel depth (skipLayout behind)).map fun found =>
                ((key, value) :: found.1, found.2)
            | _ => .error .notJson
        | _ => .error .notJson
    | _ => .error .notJson

end

/-- Read a whole text as one value. Every two steps take a character. -/
def readText (dialect : Dialect) (text : List Char) : Except ReadFault Json :=
  match readValue dialect (2 * (text.length + 1)) dialect.depth (skipLayout text) with
  | .error fault => .error fault
  | .ok (value, rest) => if skipLayout rest = [] then .ok value else .error .notJson

def parse? (depth : Nat) (text : String) : Option Json :=
  (readText (document depth) text.toList).toOption

/-- Read a value however deep it is nested and however long its numbers are. -/
def parseDeep? (text : String) : Option Json :=
  (readText (unbounded text.length) text.toList).toOption

/-- The value of a text in which every object holds each key once. -/
def decode (text : String) : Except ReadFault Json :=
  (readText decoding text.toList).map settle

end SpecLexicon.Json
