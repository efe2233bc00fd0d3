import TenantSchema.Text.Basic

/-!
# Lines

A text is split into lines at every line boundary character; a carriage return followed by
a newline is one boundary.  A boundary at the very end opens no further line.  Reading a
file translates carriage returns first: `translateNewlines` leaves newlines as the only
boundary that a carriage return took part in.
-/

namespace TenantSchema.Text

/-- Whether a character ends a line. -/
def isLineBreak (character : Char) : Bool :=
  let code := character.toNat
  (10 ≤ code && code ≤ 13) ||
    (28 ≤ code && code ≤ 30) ||
    code == 0x85 ||
    code == 0x2028 ||
    code == 0x2029

/-- Put a character in front of the first line. -/
def consToFirst (character : Char) : List Text → List Text
  | [] =>
      [[character]]
  | line :: others =>
      (character :: line) :: others

/-- The lines of a text without their boundaries. -/
def lines : Text → List Text
  | [] =>
      []
  | '\r' :: '\n' :: rest =>
      [] :: lines rest
  | character :: rest =>
      if isLineBreak character then
        [] :: lines rest
      else
        consToFirst character (lines rest)

/-- Turn every carriage return, with a newline after it or alone, into one newline. -/
def translateNewlines : Text → Text
  | [] =>
      []
  | '\r' :: '\n' :: rest =>
      '\n' :: translateNewlines rest
  | character :: rest =>
      if character = '\r' then
        '\n' :: translateNewlines rest
      else
        character :: translateNewlines rest

end TenantSchema.Text
