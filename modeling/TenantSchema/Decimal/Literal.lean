import TenantSchema.Decimal.Shortest
import TenantSchema.Text.Integer

/-!
# Decimal numbers in texts

A decimal number has digits of any script, perhaps a point among them, perhaps a sign in front
and an exponent behind.  Infinity and the value that is no number are written as words in any
case.  White space around a number does not count.  A number stands for the nearest double.
-/

namespace TenantSchema.Decimal

/-- The nearest double to digits that count a power of ten. -/
def nearestDouble (digits : Nat) (exponent : Int) : Float :=
  let place := exponent + (toString digits).length
  if digits = 0 ∨ place < -400 then
    0.0
  else if 400 < place then
    1.0 / 0.0
  else
    Float.ofScientific digits (exponent < 0) exponent.natAbs

/-- Give a double its sign. -/
def withSign (negative : Bool) (magnitude : Float) : Float :=
  if negative then -magnitude else magnitude

/-- The digits at the start of a text, and what follows them. -/
def takeDigits (text : Text) : List Nat × Text :=
  let isDigit (character : Char) : Bool := (Text.digitValue? character).isSome
  ((text.takeWhile isDigit).filterMap Text.digitValue?, text.dropWhile isDigit)

/-- The exponent at the end of a number: zero when there is none. -/
def exponent? : Text → Option Int
  | [] =>
      some 0
  | mark :: rest =>
      let (negative, magnitude) := Text.takeSign rest
      match takeDigits magnitude with
      | (first :: others, []) =>
          if mark == 'e' || mark == 'E' then
            some (Text.signed negative (Text.numberOf 10 (first :: others)))
          else
            none
      | _ =>
          none

/-- The double that digits with a point or without one write. -/
def digitsDouble? (text : Text) : Option Float :=
  let (whole, afterWhole) := takeDigits text
  let (fraction, afterFraction) :=
    match afterWhole with
    | '.' :: rest =>
        takeDigits rest
    | _ =>
        ([], afterWhole)
  let digits := whole ++ fraction
  if digits.isEmpty then
    none
  else
    (exponent? afterFraction).map fun exponent =>
      nearestDouble (Text.numberOf 10 digits) (exponent - fraction.length)

/-- The double that a word stands for. -/
def wordDouble? (word : Text) : Option Float :=
  let small := word.map Char.toLower
  if small = "inf".toList ∨ small = "infinity".toList then
    some (1.0 / 0.0)
  else if small = "nan".toList then
    some (0.0 / 0.0)
  else
    none

/-- The double that a text writes. -/
def ofText? (text : Text) : Option Float :=
  let (negative, magnitude) := Text.takeSign (Text.trimBy Text.isNumberBlank text)
  (wordDouble? magnitude <|> digitsDouble? magnitude).map (withSign negative)

end TenantSchema.Decimal
