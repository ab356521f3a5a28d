import SpecLexicon.Number.Binary64

/-!
# Shortest decimal text

The decimal text of a double precision number with the fewest digits that still read back as that
number. A decimal reads back when it lies in the interval of reals that round to the number; the
ends of the interval belong to it exactly when the mantissa is even. On the grid of each length only
the two neighbours of the number can be nearest, so only those are tried.
-/

set_option autoImplicit false

namespace SpecLexicon.Binary64

/-- A positive finite number as a fraction, beside the ends of the interval that rounds to it, all
over one denominator. -/
structure Neighborhood where
  lower : Nat
  value : Nat
  upper : Nat
  denominator : Nat
  endsIncluded : Bool

/-- The interval of reals that round to `mantissa * 2 ^ exponent`. Below a power of two the spacing
halves, so the lower end is nearer there. -/
def neighborhood (mantissa : Nat) (exponent : Int) : Neighborhood :=
  let up := 2 ^ exponent.toNat
  let down := 2 ^ (-exponent).toNat
  let below := if mantissa = 2 ^ 52 ∧ minExponent < exponent then 1 else 2
  { lower := (4 * mantissa - below) * up
    value := 4 * mantissa * up
    upper := (4 * mantissa + 2) * up
    denominator := 4 * down
    endsIncluded := mantissa % 2 = 0 }

/-- The fraction `numerator / denominator` reads back as the number of the interval. -/
def Neighborhood.readsBack (around : Neighborhood) (numerator denominator : Nat) : Bool :=
  let low := around.lower * denominator
  let middle := numerator * around.denominator
  let high := around.upper * denominator
  if around.endsIncluded then low ≤ middle && middle ≤ high else low < middle && middle < high

/-- The place of the leading digit: the least `place` with `value < 10 ^ place`. -/
def Neighborhood.place (around : Neighborhood) : Int :=
  if around.denominator ≤ around.value then
    ((Nat.toDigits 10 (around.value / around.denominator)).length : Int)
  else
    let shift := ((List.range 400).find? fun shift =>
      around.denominator ≤ around.value * 10 ^ shift).getD 400
    1 - (shift : Int)

/-- The multiple of `10 ^ grid` that reads back and lies nearest to the number, if there is one. -/
def Neighborhood.onGrid? (around : Neighborhood) (grid : Int) : Option Nat :=
  let up := 10 ^ grid.toNat
  let down := 10 ^ (-grid).toNat
  let unit := around.denominator * up
  let below := around.value * down / unit
  let rest := around.value * down % unit
  let fits (digits : Nat) : Bool := around.readsBack (digits * up) down
  match fits below, fits (below + 1) with
  | true, true =>
    if unit < 2 * rest ∨ (unit = 2 * rest ∧ below % 2 = 1) then some (below + 1) else some below
  | true, false => some below
  | false, true => some (below + 1)
  | false, false => none

/-- The digits and the place of the shortest decimal: the number is nearest to
`0.digits * 10 ^ place`. Seventeen digits always suffice. -/
def shortest (mantissa : Nat) (exponent : Int) : List Char × Int :=
  let around := neighborhood mantissa exponent
  let place := around.place
  let found := (List.range 17).findSome? fun (count : Nat) =>
    let grid := place - ((count : Int) + 1)
    (around.onGrid? grid).map fun digits => (digits, grid)
  match found with
  | none => (['0'], place)
  | some (digits, grid) =>
    let text := Nat.toDigits 10 digits
    let kept := (text.reverse.dropWhile (· == '0')).reverse
    (kept, grid + text.length)

/-- How a decimal is laid out: the places of the leading digit that are written without an exponent,
and the least number of digits of an exponent. -/
structure Layout where
  firstPlace : Int
  lastPlace : Int
  exponentDigits : Nat

/-- The text of the digits `0.digits * 10 ^ place`. A number written without an exponent shows at
least one digit on each side of its point. -/
def Layout.write (layout : Layout) (digits : List Char) (place : Int) : List Char :=
  if layout.firstPlace ≤ place ∧ place ≤ layout.lastPlace then
    if place ≤ 0 then '0' :: '.' :: (List.replicate (-place).toNat '0' ++ digits)
    else
      let whole := digits.take place.toNat ++ List.replicate (place.toNat - digits.length) '0'
      let part := digits.drop place.toNat
      whole ++ '.' :: (if part.isEmpty then ['0'] else part)
  else
    let power := place - 1
    let size := Nat.toDigits 10 power.natAbs
    let exponent := List.replicate (layout.exponentDigits - size.length) '0' ++ size
    let mantissa := match digits with
      | [] => ['0']
      | [first] => [first]
      | first :: rest => first :: '.' :: rest
    mantissa ++ 'e' :: (if power < 0 then '-' else '+') :: exponent

def text (layout : Layout) : Binary64 → String
  | .notANumber => "nan"
  | .infinite negative => if negative then "-inf" else "inf"
  | .finite negative mantissa exponent =>
    let magnitude :=
      if mantissa = 0 then layout.write ['0'] 1
      else
        let decimal := shortest mantissa exponent
        layout.write decimal.1 decimal.2
    String.ofList (if negative then '-' :: magnitude else magnitude)

end SpecLexicon.Binary64
