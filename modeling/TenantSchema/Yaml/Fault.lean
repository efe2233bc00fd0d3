import TenantSchema.Text.CodePoint
import TenantSchema.Text.Integer
import TenantSchema.Text.Utf8
import TenantSchema.Yaml.Calendar

/-!
# Faults of a configuration file

Most faults are faults of the grammar and are not told apart.  A scalar that asks for a value of
some kind and has none is reported by what its text lacks.  A file is read as far as it is looked
at, so a fault in what was looked at comes before one that lies further on.
-/

namespace TenantSchema.Yaml

/-- Why a text is not a configuration file. -/
inductive Fault where
  /-- The text does not follow the grammar, or asks for something unknown. -/
  | malformed
  /-- The bytes of the file are not the encoding of a text. -/
  | undecodable (fault : Text.Utf8.Fault)
  | integer (fault : Text.IntegerFault)
  /-- Nothing is left of a number after its sign. -/
  | emptyNumber
  | notDecimal (literal : CodeText)
  /-- A part of a number stands for more than a double can hold. -/
  | partTooLarge
  | unknownTruth (word : CodeText)
  | calendar (fault : CalendarFault)
  /-- A moment is asked for in a text that has no notation of one. -/
  | notMoment
  /-- A moment is asked for in a place where no text is. -/
  | noText
  /-- An escape has a code beyond the last character. -/
  | notCodePoint
  /-- An escape has a code beyond thirty-one bits. -/
  | codeTooLarge
  deriving Repr, DecidableEq

/-- The wording of a fault. -/
def Fault.message : Fault → String
  | .malformed =>
      "the configuration file cannot be read"
  | .undecodable fault =>
      fault.message
  | .integer fault =>
      fault.message
  | .emptyNumber =>
      "string index out of range"
  | .notDecimal literal =>
      "could not convert string to float: " ++ literal.quoted
  | .partTooLarge =>
      "int too large to convert to float"
  | .unknownTruth word =>
      word.quoted
  | .calendar fault =>
      fault.message
  | .notMoment =>
      "the text is no moment"
  | .noText =>
      "there is no text"
  | .notCodePoint =>
      "chr() arg not in range(0x110000)"
  | .codeTooLarge =>
      "Python int too large to convert to C int"

/-- A fault, and how many characters of the text had been looked at when it was found. -/
structure Refusal where
  fault : Fault
  reach : Nat
  deriving Repr, DecidableEq

end TenantSchema.Yaml
