import TenantSchema.Text.Base64
import TenantSchema.Text.SmallLetter
import TenantSchema.Yaml.Fault
import TenantSchema.Yaml.Notation
import TenantSchema.Yaml.Value

/-!
# Values of scalars

The tag of a scalar says which value its text stands for.  A tag that was written out may ask for
a kind that the text has no notation of, so the readers here take more texts than the notations
of plain scalars, and report what they cannot read.
-/

namespace TenantSchema.Yaml.Scalar

/-- The truth values by their words in small letters. -/
def truths : List (String × Bool) :=
  [
    ("yes", true), ("no", false), ("true", true), ("false", false), ("on", true), ("off", false)
  ]

/-- The truth value of a word in any case. -/
def readTruth (text : CodeText) : Except Fault Bool :=
  let word := Text.smallLetters text
  match truths.find? fun (name, _) => CodeText.ofText name.toList == word with
  | some (_, truth) =>
      .ok truth
  | none =>
      .error (.unknownTruth word)

/-- Split the sign off a number that is not empty. -/
def takeSign : CodeText → Except Fault (Bool × CodeText)
  | [] =>
      .error .emptyNumber
  | .whole '-' :: rest =>
      .ok (true, rest)
  | .whole '+' :: rest =>
      .ok (false, rest)
  | text =>
      .ok (false, text)

/-- The text without underscores. -/
def withoutUnderscores (text : CodeText) : CodeText :=
  text.filter (· != .whole '_')

/-- Whether parts of sixty are separated in a text. -/
def isSixtieths (text : CodeText) : Bool :=
  text.elem (.whole ':')

/-- The parts of sixty of a text. -/
def sixtiethsOf (text : CodeText) : List CodeText :=
  Text.splitAt (.whole ':') text

/-- A whole number of a base. -/
def integer (base : Nat) (text : CodeText) : Except Fault Int :=
  match Text.readInteger base text.replaced with
  | .ok number =>
      .ok number
  | .error (.invalid base _) =>
      .error (.integer (.invalid base text.quoted))
  | .error fault =>
      .error (.integer fault)

/-- The number that parts of sixty write, the greatest part first. -/
def sixtieths (parts : List Int) : Int :=
  parts.foldl (fun number part => number * 60 + part) 0

/-- A whole number without its sign; a mark or a zero in front tells the base. -/
def readMagnitude : CodeText → Except Fault Int
  | [] =>
      .error .emptyNumber
  | [.whole '0'] =>
      .ok 0
  | .whole '0' :: .whole 'b' :: digits =>
      integer 2 digits
  | .whole '0' :: .whole 'x' :: digits =>
      integer 16 digits
  | .whole '0' :: digits =>
      integer 8 (.whole '0' :: digits)
  | text =>
      if isSixtieths text then
        ((sixtiethsOf text).mapM (integer 10)).map sixtieths
      else
        integer 10 text

/-- A whole number; underscores do not count. -/
def readInteger (text : CodeText) : Except Fault Int :=
  match takeSign (withoutUnderscores text) with
  | .error fault =>
      .error fault
  | .ok (negative, magnitude) =>
      (readMagnitude magnitude).map fun number => if negative then -number else number

/-- A decimal number in double precision. -/
def decimal (text : CodeText) : Except Fault Float :=
  match Decimal.ofText? text.replaced with
  | some number =>
      .ok number
  | none =>
      .error (.notDecimal text)

/-- The first number beyond every double. -/
def beyondDoubles : Nat :=
  Nat.pow 2 1024

/-- Add up parts of sixty, the smallest first, in double precision. -/
def sixtiethsDouble (unit : Nat) (total : Float) : List Float → Except Fault Float
  | [] =>
      .ok total
  | part :: rest =>
      if unit < beyondDoubles then
        sixtiethsDouble (unit * 60) (total + part * unit.toFloat) rest
      else
        .error .partTooLarge

/-- The value of a double of a sign. -/
def ofDouble (negative : Bool) (magnitude : Float) : Value :=
  match Decimal.Double.ofFloat (Decimal.withSign negative magnitude) with
  | .notANumber =>
      .notANumber false
  | number =>
      .float number

/-- A decimal number without its sign. -/
def readDecimalMagnitude (negative : Bool) (text : CodeText) : Except Fault Value :=
  if text = CodeText.ofText ".inf".toList then
    .ok (.float (.infinite negative))
  else if text = CodeText.ofText ".nan".toList then
    .ok (.notANumber true)
  else if isSixtieths text then
    match (sixtiethsOf text).mapM decimal with
    | .error fault =>
        .error fault
    | .ok parts =>
        (sixtiethsDouble 1 0.0 parts.reverse).map (ofDouble negative)
  else
    (decimal text).map (ofDouble negative)

/-- A decimal number; underscores do not count, and capitals are small letters. -/
def readDecimal (text : CodeText) : Except Fault Value :=
  match takeSign (Text.smallLetters (withoutUnderscores text)) with
  | .error fault =>
      .error fault
  | .ok (negative, magnitude) =>
      readDecimalMagnitude negative magnitude

/-- Bytes in base sixty-four. -/
def readBytes (text : CodeText) : Except Fault (List UInt8) :=
  let characters := text.replaced
  if characters.all (·.toNat < 128) then
    match Text.Base64.decode? characters with
    | some bytes =>
        .ok bytes
    | none =>
        .error .malformed
  else
    .error .malformed

/-- Accept a value that has no fault. -/
def accept (found : Option CalendarFault) (value : Value) : Except Fault Value :=
  match found with
  | some fault =>
      .error (.calendar fault)
  | none =>
      .ok value

/-- A day or a moment that exists. -/
def readTimestamp (text : CodeText) : Except Fault Value :=
  match Notation.timestamp? (Notation.withoutNewline text.replaced) with
  | none =>
      .error .notMoment
  | some (.day day) =>
      accept day.fault? (.day day)
  | some (.moment moment) =>
      accept moment.fault? (.moment moment)

/-- The value of a scalar of which a tag asks a kind that scalars have. -/
def read (tag : Tag) (text : CodeText) : Except Fault Value :=
  match tag with
  | .null =>
      .ok .null
  | .bool =>
      (readTruth text).map .bool
  | .int =>
      (readInteger text).map .int
  | .float =>
      readDecimal text
  | .binary =>
      (readBytes text).map .bytes
  | .moment =>
      readTimestamp text
  | .text =>
      .ok (.text text)
  | .sequence | .mapping | .pairs | .set | .merge | .standIn | .unknown =>
      .error .malformed

end TenantSchema.Yaml.Scalar
