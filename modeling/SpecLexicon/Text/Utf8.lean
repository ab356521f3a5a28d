import SpecLexicon.Text.Loose

/-!
# UTF-8

Bytes as text. A character is a leading byte and up to three bytes that follow it. Bytes that are no
text are refused at the first byte that rules a text out, together with the bytes of the character
in front of it. The other way round, halves of surrogate pairs have no bytes; in the name of a file
some of them stand for a byte each that is no part of a character.
-/

set_option autoImplicit false

namespace SpecLexicon.Text.Utf8

/-- Why bytes are no text. -/
inductive Reason where
  | invalidStart
  | invalidContinuation
  | unexpectedEnd
deriving DecidableEq, Repr

def Reason.text : Reason → String
  | invalidStart => "invalid start byte"
  | invalidContinuation => "invalid continuation byte"
  | unexpectedEnd => "unexpected end of data"

/-- The place where bytes are no text: a leading byte, and how many of the bytes behind it belong to
the same character. -/
structure Fault where
  position : Nat
  leading : Nat
  followers : Nat
  reason : Reason
deriving DecidableEq, Repr

/-- The wording of a fault. A single byte is shown. -/
def Fault.message (fault : Fault) : String :=
  "'utf-8' codec can't decode " ++
    (if fault.followers = 0 then
      "byte 0x" ++ String.ofList (hexDigits 2 fault.leading) ++ " in position " ++
        toString fault.position
    else
      "bytes in position " ++ toString fault.position ++ "-" ++
        toString (fault.position + fault.followers)) ++
    ": " ++ fault.reason.text

/-- A character of which some bytes are read: the bits so far, the number of bytes to come, and the
bounds for the next of them. -/
structure Opened where
  bits : Nat
  missing : Nat
  least : Nat
  greatest : Nat

/-- What a leading byte opens. The bounds for the byte behind it rule out longer forms than needed,
surrogates, and numbers above the last code point. -/
def openedBy? (byte : Nat) : Option Opened :=
  if byte < 0x80 then some ⟨byte, 0, 0x80, 0xBF⟩
  else if byte < 0xC2 then none
  else if byte < 0xE0 then some ⟨byte - 0xC0, 1, 0x80, 0xBF⟩
  else if byte < 0xF0 then
    some ⟨byte - 0xE0, 2, if byte = 0xE0 then 0xA0 else 0x80, if byte = 0xED then 0x9F else 0xBF⟩
  else if byte < 0xF5 then
    some ⟨byte - 0xF0, 3, if byte = 0xF0 then 0x90 else 0x80, if byte = 0xF4 then 0x8F else 0xBF⟩
  else none

/-- Read the bytes that are missing of a character: its code point and the number of bytes read, or
the number of bytes that fit and what is wrong behind them. -/
def readFollowers : (missing least greatest bits count : Nat) → List Nat →
    Except (Nat × Reason) (Nat × Nat)
  | 0, _, _, bits, count, _ => .ok (bits, count)
  | _ + 1, _, _, _, count, [] => .error (count, .unexpectedEnd)
  | missing + 1, least, greatest, bits, count, byte :: rest =>
    if least ≤ byte ∧ byte ≤ greatest then
      readFollowers missing 0x80 0xBF (bits * 64 + (byte - 0x80)) (count + 1) rest
    else .error (count, .invalidContinuation)

/-- Read bytes from a position on. The first `skipped` bytes belong to a character that is read. -/
def decodeFrom : (position skipped : Nat) → List Nat → Except Fault (List Char)
  | _, _, [] => .ok []
  | position, skipped + 1, _ :: rest => decodeFrom (position + 1) skipped rest
  | position, 0, byte :: rest =>
    match openedBy? byte with
    | none => .error ⟨position, byte, 0, .invalidStart⟩
    | some opened =>
      match readFollowers opened.missing opened.least opened.greatest opened.bits 0 rest with
      | .error (followers, reason) => .error ⟨position, byte, followers, reason⟩
      | .ok (code, followers) =>
        (decodeFrom (position + 1) followers rest).map fun text => Char.ofNat code :: text

def decode (bytes : ByteArray) : Except Fault (List Char) :=
  decodeFrom 0 0 (bytes.toList.map UInt8.toNat)

/-- The place where a loose text has no bytes: the first half of a pair, and how many halves stand
directly behind it. -/
structure EncodeFault where
  position : Nat
  unit : Nat
  others : Nat
deriving DecidableEq, Repr

/-- The wording of a fault. A single half is shown. -/
def EncodeFault.message (fault : EncodeFault) : String :=
  "'utf-8' codec can't encode " ++
    (if fault.others = 0 then
      "character '\\u" ++ String.ofList (hexDigits 4 fault.unit) ++ "' in position " ++
        toString fault.position
    else
      "characters in position " ++ toString fault.position ++ "-" ++
        toString (fault.position + fault.others)) ++
    ": surrogates not allowed"

/-- The first half without a byte, where some halves may have one. -/
def encodeFaultFrom? (hasByte : Nat → Bool) :
    (position : Nat) → List CodePoint → Option EncodeFault
  | _, [] => none
  | position, .char _ :: rest => encodeFaultFrom? hasByte (position + 1) rest
  | position, .half unit :: rest =>
    if hasByte unit then encodeFaultFrom? hasByte (position + 1) rest
    else some ⟨position, unit, (rest.takeWhile fun point => point.char?.isNone).length⟩

def encodeFault? (text : LooseText) : Option EncodeFault :=
  encodeFaultFrom? (fun _ => false) 0 text.points

/-- The halves that stand for a byte above the first 128 in the name of a file. -/
def isNameByte (unit : Nat) : Bool :=
  0xDC80 ≤ unit && unit ≤ 0xDCFF

def encodeNameFault? (text : LooseText) : Option EncodeFault :=
  encodeFaultFrom? isNameByte 0 text.points

/-- The number of bytes of a name. -/
def nameSize (text : LooseText) : Nat :=
  text.points.foldl (fun size point => size + match point with
    | .char c => c.utf8Size
    | .half _ => 1) 0

end SpecLexicon.Text.Utf8
