import TenantSchema.Decimal.Literal
import TenantSchema.Yaml.Tag

/-!
# Notations of plain scalars

A scalar without quotes stands for a value of the kind whose notation it follows: null, a truth
value, a whole number in several bases, a decimal number, a day or a moment.  Numbers may be
grouped by underscores, and parts below sixty may be separated by colons.  A newline behind a
notation does not count.  Any other scalar is a text.
-/

namespace TenantSchema.Yaml.Notation

/-- Whether a text is one of a list of words. -/
def isWord (words : List String) (text : Text) : Bool :=
  words.any fun word => word.toList == text

/-- The notations of null. -/
def nullWords : List String :=
  ["", "~", "null", "Null", "NULL"]

/-- The notations of truth values. -/
def truthWords : List String :=
  [
    "yes", "Yes", "YES", "true", "True", "TRUE", "on", "On", "ON",
    "no", "No", "NO", "false", "False", "FALSE", "off", "Off", "OFF"
  ]

/-- Whether a character is a digit of a base or an underscore. -/
def isGrouped (base : Nat) (character : Char) : Bool :=
  character == '_' || (Text.hexValue? character).any (· < base)

/-- Whether a text is not empty and all digits of a base and underscores. -/
def areGrouped (base : Nat) (text : Text) : Bool :=
  !text.isEmpty && text.all (isGrouped base)

/-- Whether a text is a decimal digit followed by digits and underscores. -/
def isGroupedNumber : Text → Bool
  | first :: rest =>
      first.isDigit && rest.all (isGrouped 10)
  | [] =>
      false

/-- Whether a text is a number below sixty of one or two digits. -/
def isSixtieth : Text → Bool
  | [digit] =>
      digit.isDigit
  | [tens, ones] =>
      '0' ≤ tens && tens ≤ '5' && ones.isDigit
  | _ =>
      false

/-- Whether a text is a whole number in some notation. -/
def isInteger (text : Text) : Bool :=
  match (Text.takeSign text).2 with
  | ['0'] =>
      true
  | '0' :: 'b' :: digits =>
      areGrouped 2 digits
  | '0' :: 'x' :: digits =>
      areGrouped 16 digits
  | '0' :: digits =>
      areGrouped 8 digits
  | magnitude =>
      match Text.splitAt ':' magnitude with
      | first :: sixtieths =>
          isGroupedNumber first && sixtieths.all isSixtieth
      | [] =>
          false

/-- Whether a text is an exponent with a sign, or nothing. -/
def isExponent : Text → Bool
  | [] =>
      true
  | mark :: sign :: digits =>
      (mark == 'e' || mark == 'E') && (sign == '-' || sign == '+') &&
        !digits.isEmpty && digits.all Char.isDigit
  | _ =>
      false

/-- Whether a text is a decimal number in some notation. -/
def isDecimal (text : Text) : Bool :=
  let magnitude := (Text.takeSign text).2
  let isSigned := magnitude.length != text.length
  match magnitude with
  | '.' :: rest =>
      isWord ["inf", "Inf", "INF"] rest ||
        (!isSigned &&
          (isWord ["nan", "NaN", "NAN"] rest ||
            ((rest.head?).any Char.isDigit && isExponent (rest.dropWhile (isGrouped 10)))))
  | _ =>
      match magnitude.dropWhile (· != '.') with
      | '.' :: afterPoint =>
          match Text.splitAt ':' (magnitude.takeWhile (· != '.')) with
          | [whole] =>
              isGroupedNumber whole && isExponent (afterPoint.dropWhile (isGrouped 10))
          | first :: sixtieths =>
              isGroupedNumber first && sixtieths.all isSixtieth &&
                afterPoint.all (isGrouped 10)
          | [] =>
              false
      | _ =>
          false

/-- A number of at least `least` and at most `most` plain digits at the start of a text. -/
def takeNumber? (least most : Nat) (text : Text) : Option (Nat × Text) :=
  let digits := (text.takeWhile Char.isDigit).take most
  if digits.length < least then
    none
  else
    some (Text.numberOf 10 (digits.filterMap Text.digitValue?), text.drop digits.length)

/-- What follows a character at the start of a text. -/
def dropCharacter? (expected : Char) : Text → Option Text
  | character :: rest =>
      if character = expected then some rest else none
  | [] =>
      none

/-- The millionths of a second that the digits after a point write. -/
def microseconds (digits : Text) : Nat :=
  let kept := (digits.take 6).filterMap Text.digitValue?
  Text.numberOf 10 (kept ++ List.replicate (6 - kept.length) 0)

/-- The distance from universal time at the end of a moment, if there is one. -/
def offset? (text : Text) : Option (Option Int) :=
  match text, text.dropWhile isSpace with
  | [], _ =>
      some none
  | _, ['Z'] =>
      some (some 0)
  | _, sign :: digits =>
      if sign == '-' || sign == '+' then do
        let (hours, rest) ← takeNumber? 1 2 digits
        let (minutes, rest) ←
          if rest.isEmpty then
            some (0, rest)
          else
            (dropCharacter? ':' rest).bind (takeNumber? 2 2)
        if rest.isEmpty then
          some (some (Text.signed (sign == '-') (hours * 60 + minutes)))
        else
          none
      else
        none
  | _, [] =>
      none

/-- The time of a day and its distance from universal time. -/
def clock? (day : Day) (text : Text) : Option Moment := do
  let (hour, rest) ← takeNumber? 1 2 text
  let (minute, rest) ← (dropCharacter? ':' rest).bind (takeNumber? 2 2)
  let (second, rest) ← (dropCharacter? ':' rest).bind (takeNumber? 2 2)
  let (fraction, rest) :=
    match rest with
    | '.' :: after =>
        (after.takeWhile Char.isDigit, after.dropWhile Char.isDigit)
    | _ =>
        ([], rest)
  let offset ← offset? rest
  some {
    day := day
    hour := hour
    minute := minute
    second := second
    microsecond := microseconds fraction
    offset := offset
  }

/-- A day, or a moment of it, as it is written. -/
inductive Timestamp where
  | day (day : Day)
  | moment (moment : Moment)
  deriving Repr, DecidableEq

/-- The day or the moment that a text writes, whether or not it exists. -/
def timestamp? (text : Text) : Option Timestamp := do
  let (year, rest) ← takeNumber? 4 4 text
  let (month, rest) ← (dropCharacter? '-' rest).bind (takeNumber? 1 2)
  let (number, rest) ← (dropCharacter? '-' rest).bind (takeNumber? 1 2)
  let day : Day := { year := year, month := month, day := number }
  match rest with
  | [] =>
      some (.day day)
  | 'T' :: time | 't' :: time =>
      (clock? day time).map .moment
  | gap :: time =>
      if isSpace gap then (clock? day (time.dropWhile isSpace)).map .moment else none

/-- The length of a day that is written with all its digits. -/
def fullDayLength : Nat :=
  10

/-- Whether a text is a day with all its digits, or a moment. -/
def isTimestamp (text : Text) : Bool :=
  match timestamp? text with
  | some (.day _) =>
      text.length == fullDayLength
  | some (.moment _) =>
      true
  | none =>
      false

/-- The text without a newline at its end. -/
def withoutNewline (text : Text) : Text :=
  if text.getLast? = some '\n' then text.dropLast else text

/-- Whether a text is the notation of nothing, however it goes on: it starts with a newline. -/
def startsWithNewline (text : Text) : Bool :=
  text.head? == some '\n'

/-- What a plain scalar stands for. -/
def tagOf (scalar : Text) : Tag :=
  let text := withoutNewline scalar
  if startsWithNewline scalar then
    .text
  else if isWord truthWords text then
    .bool
  else if isDecimal text then
    .float
  else if isInteger text then
    .int
  else if isWord ["<<"] text then
    .merge
  else if isWord nullWords text then
    .null
  else if isTimestamp text then
    .moment
  else if isWord ["="] text then
    .standIn
  else if isWord ["!", "&", "*"] text then
    .unknown
  else
    .text

end TenantSchema.Yaml.Notation
