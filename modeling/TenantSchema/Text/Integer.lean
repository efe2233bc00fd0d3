import TenantSchema.Text.Blank
import TenantSchema.Text.DecimalDigit
import TenantSchema.Text.Quoted

/-!
# Whole numbers in texts

A whole number is written with digits of a base, perhaps a sign in front, and perhaps single
underscores between digits.  A digit below ten may come from any script.  White space around
a number does not count; the four information separators are not white space here.  The
bases two, eight and sixteen have a mark of their own, which may stand in front of the digits.
A number of base ten has a greatest length.
-/

namespace TenantSchema.Text

/-- Whether a character is white space around a number. -/
def isNumberBlank (character : Char) : Bool :=
  isBlank character && !(28 ≤ character.toNat && character.toNat ≤ 31)

/-- The value of a digit below ten of any script, or of a letter that continues the digits. -/
def baseDigit? (base : Nat) (character : Char) : Option Nat :=
  let value? : Option Nat :=
    match digitValue? character with
    | some value =>
        some value
    | none =>
        hexValue? character
  value?.filter (· < base)

/--
The digits at the start of a text, with single underscores between digits allowed, and what
follows them.  `afterDigit` tells whether a digit was read just before; the digits have to
end with one.
-/
def digitRun?
    (digit? : Char → Option Nat)
    (afterDigit : Bool) :
    Text → Option (List Nat × Text)
  | [] =>
      if afterDigit then some ([], []) else none
  | character :: rest =>
      if character = '_' then
        if afterDigit then digitRun? digit? false rest else none
      else
        match digit? character with
        | some value =>
            (digitRun? digit? true rest).map fun (values, tail) => (value :: values, tail)
        | none =>
            if afterDigit then some ([], character :: rest) else none

/-- The number that a list of digit values writes in a base. -/
def numberOf (base : Nat) (digits : List Nat) : Nat :=
  digits.foldl (fun number digit => number * base + digit) 0

/-- Split off a sign: whether it was a minus, and what follows. -/
def takeSign : Text → Bool × Text
  | '-' :: rest =>
      (true, rest)
  | '+' :: rest =>
      (false, rest)
  | text =>
      (false, text)

/-- Give a magnitude its sign. -/
def signed (negative : Bool) (magnitude : Nat) : Int :=
  if negative then -(magnitude : Int) else magnitude

/-- Whether a letter after a zero marks a base. -/
def marksBase (base : Nat) (letter : Char) : Bool :=
  match base with
  | 2 =>
      letter == 'b' || letter == 'B'
  | 8 =>
      letter == 'o' || letter == 'O'
  | 16 =>
      letter == 'x' || letter == 'X'
  | _ =>
      false

/-- What follows the mark of a base, if there is one, and an underscore after the mark. -/
def dropBaseMark (base : Nat) : Text → Text
  | '0' :: letter :: rest =>
      if marksBase base letter then
        match rest with
        | '_' :: digits =>
            digits
        | digits =>
            digits
      else
        '0' :: letter :: rest
  | text =>
      text

/-- The most digits of base ten that a number may have, read or written. -/
def digitLimit : Nat :=
  4300

/-- Why a text is not read as a whole number; an invalid one is kept as messages show it. -/
inductive IntegerFault where
  | invalid (base : Nat) (shown : String)
  | tooLong (digits : Nat)
  deriving Repr, DecidableEq

/-- The most characters of a text that is no number that its message shows. -/
def shownLiteralLimit : Nat :=
  200

/-- The message about a literal, in its quoted form, that is no number of a base. -/
def invalidNumberMessage (base : Nat) (quotedLiteral : String) : String :=
  s!"invalid literal for int() with base {base}: " ++
    toOutput (quotedLiteral.toList.take shownLiteralLimit)

/-- How a length above the limit is reported before its details. -/
def lengthMessage : String :=
  s!"Exceeds the limit ({digitLimit} digits) for integer string conversion"

/-- What to do about a length above the limit. -/
def lengthAdvice : String :=
  "; use sys.set_int_max_str_digits() to increase the limit"

/-- The wording of a fault. -/
def IntegerFault.message : IntegerFault → String
  | .invalid base shown =>
      invalidNumberMessage base shown
  | .tooLong digits =>
      lengthMessage ++ s!": value has {digits} digits" ++ lengthAdvice

/-- The message about a number that is too long to be written. -/
def unwritableMessage : String :=
  lengthMessage ++ lengthAdvice

/-- Whether a number has few enough digits to be written. -/
def isWritable (number : Int) : Bool :=
  number.natAbs < Nat.pow 10 digitLimit

/-- The whole number that a text writes in a base. -/
def readInteger (base : Nat) (text : Text) : Except IntegerFault Int :=
  let (negative, magnitude) := takeSign (trimBy isNumberBlank text)
  match digitRun? (baseDigit? base) false (dropBaseMark base magnitude) with
  | none =>
      .error (.invalid base (quoted text))
  | some (digits, tail) =>
      if base = 10 ∧ digitLimit < digits.length then
        .error (.tooLong digits.length)
      else if tail.isEmpty then
        .ok (signed negative (numberOf base digits))
      else
        .error (.invalid base (quoted text))

end TenantSchema.Text
