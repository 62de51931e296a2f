/-!
Numbers of the 64-bit binary format: reading one from a decimal fraction, writing the shortest
decimal that reads back as it, and rounding to a whole number. All steps are exact computations
with natural numbers.
-/

namespace RouteDoc

/-- A finite number `±mantissa · 2 ^ exponent`, an infinity, or no number at all. -/
inductive Binary64
  | finite (negative : Bool) (mantissa : Nat) (exponent : Int)
  | infinite (negative : Bool)
  | nan
  deriving DecidableEq, Repr

namespace Binary64

/-- The exponent of the smallest positive number. -/
def leastExponent : Int := -1074

/-- The least mantissa of a number that is not close to zero. -/
def leastNormal : Nat := Nat.pow 2 52

/-- The numerator and denominator of `mantissa · base ^ exponent`. -/
def ratio (mantissa base : Nat) (exponent : Int) : Nat × Nat :=
  (mantissa * base.pow exponent.toNat, base.pow (-exponent).toNat)

/-- The quotient of two numbers rounded to the nearest one; a half goes to the even neighbour. -/
def roundHalfEven (numerator denominator : Nat) : Nat :=
  let quotient := numerator / denominator
  let twice := 2 * (numerator % denominator)
  if twice < denominator then quotient
  else if denominator < twice then quotient + 1
  else quotient + quotient % 2

/-- The number nearest to a positive fraction. -/
def ofRatio (negative : Bool) (numerator denominator : Nat) : Binary64 :=
  let guess : Int := (numerator.log2 : Int) - denominator.log2
  let reaches := denominator * Nat.pow 2 guess.toNat ≤ numerator * Nat.pow 2 (-guess).toNat
  let leading := if reaches then guess else guess - 1
  let exponent := max (leading - 52) leastExponent
  let rounded := roundHalfEven (numerator * Nat.pow 2 (-exponent).toNat)
    (denominator * Nat.pow 2 exponent.toNat)
  let (mantissa, exponent) :=
    if rounded = 2 * leastNormal then (leastNormal, exponent + 1) else (rounded, exponent)
  if Nat.pow 2 1024 ≤ mantissa * Nat.pow 2 exponent.toNat then .infinite negative
  else .finite negative mantissa exponent

/-- The number nearest to `±digits · 10 ^ exponent`. Decimals beyond every number become infinite,
those below every number become zero. -/
def ofDecimal (negative : Bool) (digits : Nat) (exponent : Int) : Binary64 :=
  let size := exponent + (Nat.toDigits 10 digits).length
  if digits = 0 ∨ size < -400 then .finite negative 0 leastExponent
  else if 400 < size then .infinite negative
  else
    let (numerator, denominator) := ratio digits 10 exponent
    ofRatio negative numerator denominator

/-- The least `size` for which a positive fraction is below `10 ^ size`. -/
def decimalSize (numerator denominator : Nat) : Int :=
  if denominator ≤ numerator then (Nat.toDigits 10 (numerator / denominator)).length
  else -((List.range 400).takeWhile fun zeros =>
    decide (numerator * Nat.pow 10 (zeros + 1) < denominator)).length

/-- The digits and exponent of the decimal with `count` digits that is nearest to a positive number,
if one of the two neighbours of the number on that grid reads back as it. A half goes up. -/
def decimalOf? (mantissa : Nat) (exponent : Int) (count : Nat) : Option (Nat × Int) :=
  let (scale, unit) := ratio 1 2 (exponent - 2)
  let value := 4 * mantissa * scale
  let narrow := mantissa = leastNormal ∧ leastExponent < exponent
  let low := (if narrow then 4 * mantissa - 1 else 4 * mantissa - 2) * scale
  let high := (4 * mantissa + 2) * scale
  let grid := decimalSize value unit - count
  let (step, part) := ratio 1 10 grid
  let readsBack (digits : Nat) : Bool :=
    let found := digits * step * unit
    if mantissa % 2 = 0 then low * part ≤ found && found ≤ high * part
    else low * part < found && found < high * part
  let below := value * part / (step * unit)
  let closerBelow := 2 * (value * part % (step * unit)) < step * unit
  let above :=
    if below + 1 = Nat.pow 10 count then (Nat.pow 10 (count - 1), grid + 1) else (below + 1, grid)
  match readsBack below, readsBack (below + 1) with
  | true, true => some (if closerBelow then (below, grid) else above)
  | true, false => some (below, grid)
  | false, true => some above
  | false, false => none

/-- The shortest decimal that reads back as a positive number: its digits and exponent. -/
def shortest (mantissa : Nat) (exponent : Int) : Nat × Int :=
  ((List.range 17).findSome? fun fewer => decimalOf? mantissa exponent (fewer + 1)).getD (mantissa, 0)

/-- A decimal without an exponent. -/
def positional (digits : Nat) (exponent : Int) : String :=
  let shown := Nat.toDigits 10 digits
  if 0 ≤ exponent then
    String.ofList (shown ++ List.replicate exponent.toNat '0')
  else
    let places := (-exponent).toNat
    let padded := List.replicate (places + 1 - shown.length) '0' ++ shown
    String.ofList (padded.take (padded.length - places)) ++ "." ++
      String.ofList (padded.drop (padded.length - places))

/-- A number as text: the shortest decimal that reads back as it, without an exponent, and without
a point where it is whole. -/
def text : Binary64 → String
  | nan => "NaN"
  | infinite negative => if negative then "-inf" else "inf"
  | finite negative mantissa exponent =>
    let (digits, power) := if mantissa = 0 then (0, 0) else shortest mantissa exponent
    (if negative then "-" else "") ++ positional digits power

/-- A number as text that always shows a point, unless it is infinite or no number. -/
def textWithPoint (number : Binary64) : String :=
  match number with
  | nan | infinite _ => number.text
  | finite _ _ _ => if number.text.toList.contains '.' then number.text else number.text ++ ".0"

/-- The nearest whole number from zero up to `limit`; a half goes up. No number gives zero. -/
def toBounded (limit : Nat) : Binary64 → Nat
  | nan => 0
  | infinite negative => if negative then 0 else limit
  | finite negative mantissa exponent =>
    let (numerator, denominator) := ratio mantissa 2 exponent
    if negative then 0 else min limit ((2 * numerator + denominator) / (2 * denominator))

end Binary64

end RouteDoc
