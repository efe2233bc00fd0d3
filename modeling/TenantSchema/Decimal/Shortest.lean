import TenantSchema.Text.Basic

/-!
# Shortest decimal texts

A double is a whole number times a power of two.  Its text has the fewest digits that read
back as the same double and, among those, lies nearest to it.  All of this is exact
arithmetic on whole numbers; the format decides only where the point stands.
-/

namespace TenantSchema.Decimal

/-- What the bits of a double stand for. -/
inductive Double where
  | finite (negative : Bool) (significand : Nat) (exponent : Int)
  | infinite (negative : Bool)
  | notANumber
  deriving Repr, DecidableEq

/-- Read the sixty-four bits of a double. -/
def Double.ofBits (bits : Nat) : Double :=
  let negative := bits / Nat.pow 2 63 == 1
  let field : Nat := bits / Nat.pow 2 52 % Nat.pow 2 11
  let fraction := bits % Nat.pow 2 52
  if field = 2047 then
    if fraction = 0 then .infinite negative else .notANumber
  else if field = 0 then
    .finite negative fraction (-1074)
  else
    .finite negative (Nat.pow 2 52 + fraction) ((field : Int) - 1075)

/-- What a floating-point number stands for. -/
def Double.ofFloat (number : Float) : Double :=
  .ofBits number.toBits.toNat

/-- The whole number next to a finite double on the way to zero. -/
def truncate (negative : Bool) (significand : Nat) (exponent : Int) : Int :=
  let magnitude : Nat :=
    if 0 ≤ exponent then
      significand * Nat.pow 2 exponent.toNat
    else
      significand / Nat.pow 2 (-exponent).toNat
  if negative then -(magnitude : Int) else magnitude

/-- A positive fraction of whole numbers. -/
structure Ratio where
  numerator : Nat
  denominator : Nat

/-- A whole number times a power of a base. -/
def Ratio.scaled (base factor : Nat) (exponent : Int) : Ratio :=
  if 0 ≤ exponent then
    ⟨factor * Nat.pow base exponent.toNat, 1⟩
  else
    ⟨factor, Nat.pow base (-exponent).toNat⟩

/-- Whether one fraction is at most another. -/
def Ratio.le (left right : Ratio) : Bool :=
  left.numerator * right.denominator ≤ right.numerator * left.denominator

/-- Whether one fraction is less than another. -/
def Ratio.lt (left right : Ratio) : Bool :=
  left.numerator * right.denominator < right.numerator * left.denominator

/-- The numbers that round to a double: two bounds, which belong to them or not. -/
structure Interval where
  lower : Ratio
  upper : Ratio
  closed : Bool

/-- Whether a fraction rounds to the double of the interval. -/
def Interval.holds (interval : Interval) (candidate : Ratio) : Bool :=
  if interval.closed then
    interval.lower.le candidate && candidate.le interval.upper
  else
    interval.lower.lt candidate && candidate.lt interval.upper

/--
The numbers that round to `significand * 2 ^ exponent`.  Below a power of two the doubles lie
twice as close; the bounds belong to the double with the even significand.
-/
def Interval.of (significand : Nat) (exponent : Int) : Interval :=
  let powerOfTwo := significand == Nat.pow 2 52 && exponent > -1074
  {
    lower :=
      if powerOfTwo then
        .scaled 2 (4 * significand - 1) (exponent - 2)
      else
        .scaled 2 (2 * significand - 1) (exponent - 1)
    upper := .scaled 2 (2 * significand + 1) (exponent - 1)
    closed := significand % 2 == 0
  }

/-- The place of the first digit of a fraction, searched downwards from `place`. -/
def leadingPlace (value : Ratio) : Nat → Int → Int
  | 0, place =>
      place
  | steps + 1, place =>
      if (Ratio.scaled 10 1 place).le value then place else leadingPlace value steps (place - 1)

/-- The nearer of the two neighbours of a value on a decimal grid that round to its double. -/
def candidateOnGrid? (value : Ratio) (interval : Interval) (unit : Int) : Option Nat :=
  let grid := Ratio.scaled 10 1 unit
  let below := value.numerator * grid.denominator / (value.denominator * grid.numerator)
  let above := below + 1
  let lowFits := 0 < below && interval.holds (.scaled 10 below unit)
  let highFits := interval.holds (.scaled 10 above unit)
  let middle := Ratio.scaled 10 (2 * below + 1) unit
  let doubled : Ratio := ⟨2 * value.numerator, value.denominator⟩
  if lowFits && highFits then
    if doubled.lt middle || (!middle.lt doubled && below % 2 == 0) then
      some below
    else
      some above
  else if lowFits then
    some below
  else if highFits then
    some above
  else
    none

/-- The coarsest grid with a candidate, from the given count of digits on. -/
def shortestFrom (value : Ratio) (interval : Interval) (place : Int) :
    Nat → Nat → Nat × Int
  | 0, count =>
      let unit := place - count + 1
      ((candidateOnGrid? value interval unit).getD 0, unit)
  | steps + 1, count =>
      let unit := place - count + 1
      match candidateOnGrid? value interval unit with
      | some digits =>
          (digits, unit)
      | none =>
          shortestFrom value interval place steps (count + 1)

/-- The digits of a positive double and the power of ten that they count. -/
def shortest (significand : Nat) (exponent : Int) : Nat × Int :=
  let value := Ratio.scaled 2 significand exponent
  let place := leadingPlace value 700 310
  shortestFrom value (.of significand exponent) place 16 1

/-- How a decimal number is written. -/
structure Format where
  /-- The least place of the first digit that is written without an exponent. -/
  lowestPlace : Int
  /-- The first place of the first digit that needs an exponent. -/
  exponentPlace : Int
  /-- The least count of digits of an exponent. -/
  exponentWidth : Nat

/-- Numbers are written out from 0.0001 up to sixteen digits before the point. -/
def plainFormat : Format :=
  { lowestPlace := -4, exponentPlace := 16, exponentWidth := 2 }

/-- The digits of a number with zeros in front up to a width. -/
def paddedDigits (width number : Nat) : Text :=
  let digits := (toString number).toList
  List.replicate (width - digits.length) '0' ++ digits

/-- Remove zeros at the end of a list of digits. -/
def dropTrailingZeros (digits : Text) : Text :=
  (digits.reverse.dropWhile (· == '0')).reverse

/-- Write digits that count a power of ten. -/
def Format.write (format : Format) (number : Nat) (unit : Int) : Text :=
  let all := (toString number).toList
  let place := unit + all.length - 1
  let digits := dropTrailingZeros all
  if place < format.lowestPlace ∨ format.exponentPlace ≤ place then
    let fraction := digits.drop 1
    let mantissa :=
      digits.take 1 ++ (if fraction.isEmpty then [] else '.' :: fraction)
    let sign := if place < 0 then '-' else '+'
    mantissa ++ 'e' :: sign :: paddedDigits format.exponentWidth place.natAbs
  else if place < 0 then
    '0' :: '.' :: (List.replicate (-place - 1).toNat '0' ++ digits)
  else
    let whole := place.toNat + 1
    let fraction := digits.drop whole
    digits.take whole ++ List.replicate (whole - digits.length) '0' ++
      '.' :: (if fraction.isEmpty then ['0'] else fraction)

/-- The text of a double. -/
def Double.text : Double → Text
  | .notANumber =>
      "nan".toList
  | .infinite negative =>
      if negative then "-inf".toList else "inf".toList
  | .finite negative significand exponent =>
      let sign := if negative then ['-'] else []
      if significand = 0 then
        sign ++ "0.0".toList
      else
        let (digits, unit) := shortest significand exponent
        sign ++ plainFormat.write digits unit

end TenantSchema.Decimal
