import SpecLexicon.Number.Binary64

/-!
# Numerals

The parts of a written number: sign, digits before and after the point, and exponent. Formats differ
in which numerals they allow, so the reader is lenient and each format states its own condition on
the parts.
-/

set_option autoImplicit false

namespace SpecLexicon

def digitsValue (digits : List Char) : Nat :=
  digits.foldl (fun value digit => 10 * value + (digit.toNat - '0'.toNat)) 0

/-- The parts of a written number. A part that is absent differs from a part without digits. -/
structure Numeral where
  sign : Option Char
  whole : List Char
  fraction : Option (List Char)
  exponent : Option (Bool × List Char)
deriving DecidableEq, Repr

namespace Numeral

def takeSign : List Char → Option Char × List Char
  | '+' :: rest => (some '+', rest)
  | '-' :: rest => (some '-', rest)
  | text => (none, text)

def takeFraction : List Char → Option (List Char) × List Char
  | '.' :: rest => (some (rest.takeWhile Char.isDigit), rest.dropWhile Char.isDigit)
  | text => (none, text)

/-- Split off an exponent. It needs a digit; its sign may be missing. -/
def takeExponent (text : List Char) : Option (Bool × List Char) × List Char :=
  match text with
  | [] => (none, [])
  | mark :: rest =>
    let (sign, unsigned) := takeSign rest
    let digits := unsigned.takeWhile Char.isDigit
    if (mark = 'e' ∨ mark = 'E') ∧ digits ≠ [] then
      (some (sign == some '-', digits), unsigned.dropWhile Char.isDigit)
    else (none, text)

/-- Read a whole text as a numeral with at least one digit before its exponent. -/
def read? (text : List Char) : Option Numeral :=
  let (sign, unsigned) := takeSign text
  let whole := unsigned.takeWhile Char.isDigit
  let (fraction, rest) := takeFraction (unsigned.dropWhile Char.isDigit)
  let (exponent, behind) := takeExponent rest
  if (whole = [] ∧ fraction.getD [] = []) ∨ behind ≠ [] then none
  else some { sign, whole, fraction, exponent }

def isInteger (numeral : Numeral) : Bool :=
  numeral.fraction.isNone && numeral.exponent.isNone

def isNegative (numeral : Numeral) : Bool :=
  numeral.sign == some '-'

def toInt (numeral : Numeral) : Int :=
  if numeral.isNegative then -(digitsValue numeral.whole : Int) else digitsValue numeral.whole

/-- The double precision number nearest to the written one. -/
def toBinary64 (numeral : Numeral) : Binary64 :=
  let fraction := numeral.fraction.getD []
  let power : Int := match numeral.exponent with
    | none => 0
    | some (negative, digits) =>
      if negative then -(digitsValue digits : Int) else digitsValue digits
  Binary64.ofDecimal numeral.isNegative (digitsValue (numeral.whole ++ fraction))
    (power - fraction.length)

end Numeral

end SpecLexicon
