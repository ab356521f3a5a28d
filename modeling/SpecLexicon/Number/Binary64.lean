/-!
# Double precision numbers

A number of the 64 bit binary format, held exactly: a whole mantissa times a power of two. The
module rounds an exact decimal to the nearest such number, a tie going to the even mantissa, and
compares and classifies the results. All of it is whole number arithmetic.
-/

set_option autoImplicit false

namespace SpecLexicon

-- Powers are those of the core library, whatever else a module imports.
attribute [scoped instance (high), default_instance (high + 1)] instPowNat

/-- A double precision number. The value of `finite negative mantissa exponent` is
`mantissa * 2 ^ exponent`, with a sign that also tells the two zeros apart. -/
inductive Binary64 where
  | finite (negative : Bool) (mantissa : Nat) (exponent : Int)
  | infinite (negative : Bool)
  | notANumber
deriving DecidableEq, Repr, Inhabited

namespace Binary64

def minExponent : Int := -1074

def maxExponent : Int := 971

/-- A quotient rounded to the nearest whole number; a tie goes to the even neighbour. -/
def roundDiv (numerator denominator : Nat) : Nat :=
  let quotient := numerator / denominator
  let rest := numerator % denominator
  if denominator < 2 * rest ∨ (denominator = 2 * rest ∧ quotient % 2 = 1) then quotient + 1
  else quotient

/-- The numerator and denominator of `numerator / denominator * 2 ^ -shift`. -/
def scaleDown (numerator denominator : Nat) (shift : Int) : Nat × Nat :=
  if 0 ≤ shift then (numerator, denominator * 2 ^ shift.toNat)
  else (numerator * 2 ^ (-shift).toNat, denominator)

def ofFraction (negative : Bool) (numerator denominator : Nat) : Binary64 :=
  let estimate : Int := (Nat.log2 numerator : Int) - (Nat.log2 denominator : Int) - 52
  let scaled := scaleDown numerator denominator estimate
  let exponent := max minExponent (if scaled.1 < scaled.2 * 2 ^ 52 then estimate - 1 else estimate)
  let fitted := scaleDown numerator denominator exponent
  let mantissa := roundDiv fitted.1 fitted.2
  let carried := if mantissa = 2 ^ 53 then (2 ^ 52, exponent + 1) else (mantissa, exponent)
  if maxExponent < carried.2 then .infinite negative else .finite negative carried.1 carried.2

/-- The number nearest to `digits * 10 ^ exponent`. The powers are only formed where the result can
be finite and different from zero. -/
def ofDecimal (negative : Bool) (digits : Nat) (exponent : Int) : Binary64 :=
  let place : Int := (Nat.toDigits 10 digits).length + exponent
  if digits = 0 ∨ place < -330 then .finite negative 0 minExponent
  else if 310 < place then .infinite negative
  else if 0 ≤ exponent then ofFraction negative (digits * 10 ^ exponent.toNat) 1
  else ofFraction negative digits (10 ^ (-exponent).toNat)

def ofInt (value : Int) : Binary64 :=
  ofDecimal (value < 0) value.natAbs 0

def toInt? : Binary64 → Option Int
  | .finite negative mantissa exponent =>
    let signed (size : Nat) : Int := if negative then -(size : Int) else (size : Int)
    if 0 ≤ exponent then some (signed (mantissa * 2 ^ exponent.toNat))
    else
      let unit := 2 ^ (-exponent).toNat
      if mantissa % unit = 0 then some (signed (mantissa / unit)) else none
  | .infinite _ => none
  | .notANumber => none

def isFinite : Binary64 → Bool
  | .finite _ _ _ => true
  | .infinite _ => false
  | .notANumber => false

def isPositive : Binary64 → Bool
  | .finite negative mantissa _ => !negative && mantissa != 0
  | .infinite negative => !negative
  | .notANumber => false

end Binary64

end SpecLexicon
