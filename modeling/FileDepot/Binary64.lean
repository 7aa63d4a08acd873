/-!
# Floating-point numbers of 64 bits

A finite number is a mantissa times a power of two.  `Binary64.nearest` rounds
a decimal to the nearest number, and `Binary64.text` writes the shortest
decimal that rounds back, without an exponent.  Both calculate exactly.
-/

namespace FileDepot

/-- A floating-point number of 64 bits. -/
inductive Binary64
  /-- The mantissa times two to the power of the exponent. -/
  | finite (negative : Bool) (mantissa : Nat) (exponent : Int)
  | infinite (negative : Bool)
  | notANumber
  deriving DecidableEq, Repr

namespace Binary64

/-- The least normal mantissa: two to the power of 52. -/
def leastMantissa : Nat := 0x10000000000000

def leastExponent : Int := -1074

def greatestExponent : Int := 971

/-- A number times a power of a base, as numerator and denominator. -/
def scale (base : Nat) (exponent : Int) (fraction : Nat × Nat) : Nat × Nat :=
  (fraction.1 * Nat.pow base exponent.toNat,
    fraction.2 * Nat.pow base (-exponent).toNat)

/-- The nearest natural number; of two, the even one. -/
def roundEven (numerator denominator : Nat) : Nat :=
  let quotient := numerator / denominator
  let twice := 2 * (numerator % denominator)
  if twice < denominator ∨ (twice = denominator ∧ quotient % 2 = 0) then
    quotient
  else
    quotient + 1

/-- The exponent that gives a positive fraction a normal mantissa, or the
least exponent if that is greater. -/
def exponentOf (fraction : Nat × Nat) : Int :=
  let low := (fraction.1.log2 : Int) - fraction.2.log2 - leastMantissa.log2 - 1
  let (numerator, denominator) := scale 2 (-low) fraction
  max leastExponent
    (if numerator < 2 * leastMantissa * denominator then low else low + 1)

/-- Rounds a positive fraction. -/
def ofFraction (negative : Bool) (fraction : Nat × Nat) : Binary64 :=
  let exponent := exponentOf fraction
  let (numerator, denominator) := scale 2 (-exponent) fraction
  let mantissa := roundEven numerator denominator
  let (mantissa, exponent) :=
    if mantissa = 2 * leastMantissa then (leastMantissa, exponent + 1)
    else (mantissa, exponent)
  if greatestExponent < exponent then infinite negative
  else finite negative mantissa exponent

/-- The powers of ten from which on every number is infinite, and below which
every number is zero. -/
def decimalLimits : Int × Int := (310, -330)

/-- The number nearest to `digits * 10 ^ exponent`. -/
def nearest (negative : Bool) (digits : Nat) (exponent : Int) : Binary64 :=
  let size := (Nat.toDigits 10 digits).length + exponent
  if digits = 0 ∨ size < decimalLimits.2 then
    finite negative 0 leastExponent
  else if decimalLimits.1 < size then
    infinite negative
  else
    ofFraction negative (scale 10 exponent (digits, 1))

/-- Whether a fraction of a quarter of the last place of a mantissa rounds to
that mantissa.  Below a power of two the numbers lie twice as close. -/
def roundsBack (mantissa : Nat) (fraction : Nat × Nat) : Bool :=
  let (numerator, denominator) := fraction
  let below := if mantissa = leastMantissa then 1 else 2
  let least := (4 * mantissa - below) * denominator
  let greatest := (4 * mantissa + 2) * denominator
  if mantissa % 2 = 0 then
    least ≤ numerator && numerator ≤ greatest
  else
    least < numerator && numerator < greatest

/-- The multiple of a power of ten that is nearest to a number and rounds back
to it, if one does; of two equally near, the greater. -/
def multiple? (mantissa : Nat) (exponent power : Int) : Option Nat :=
  let (numerator, denominator) :=
    scale 10 (-power) (scale 2 exponent (mantissa, 1))
  let lower := numerator / denominator
  let candidates :=
    if 2 * (numerator % denominator) < denominator then [lower, lower + 1]
    else [lower + 1, lower]
  candidates.find? fun candidate =>
    roundsBack mantissa (scale 10 power (scale 2 (2 - exponent) (candidate, 1)))

/-- The shortest decimal that rounds to a positive number: the multiple of the
greatest power of ten that has one, and that power. -/
def shortest? (mantissa : Nat) (exponent : Int) : Option (Nat × Int) :=
  let powers := (List.range (decimalLimits.1 - decimalLimits.2).toNat).map
    fun (step : Nat) => decimalLimits.1 - step
  powers.findSome? fun power =>
    (multiple? mantissa exponent power).map fun digits => (digits, power)

/-- Writes `digits * 10 ^ power` with at least one digit before and after the
point. -/
def positional (digits : Nat) (power : Int) : String :=
  if 0 ≤ power then
    toString (digits * Nat.pow 10 power.toNat) ++ ".0"
  else
    let places := (-power).toNat
    let written := Nat.toDigits 10 digits
    let padded := List.replicate (places + 1 - written.length) '0' ++ written
    let (whole, fraction) := padded.splitAt (padded.length - places)
    String.ofList whole ++ "." ++ String.ofList fraction

/-- Writes a number with the fewest digits that round back to it. -/
def text : Binary64 → String
  | notANumber => "NaN"
  | infinite negative => (if negative then "-" else "") ++ "inf"
  | finite negative mantissa exponent =>
      let (digits, power) := (shortest? mantissa exponent).getD (0, 0)
      (if negative then "-" else "") ++ positional digits power

end Binary64

end FileDepot
