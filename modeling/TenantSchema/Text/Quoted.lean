import TenantSchema.Text.Hex
import TenantSchema.Text.Printable

/-!
# Quoted texts in messages

A message shows a text between quotes.  The quotes are single unless the text holds a single
quote and no double one.  The quote in use and the backslash are escaped, and characters
without a visible form are written by name or by code.  Bytes are shown as the characters of
the seven-bit range, or by value.
-/

namespace TenantSchema.Text

/-- The written form of one character between the given quotes. -/
def quoteCharacter (mark character : Char) : Text :=
  let code := character.toNat
  if character = mark || character = '\\' then
    ['\\', character]
  else if character = '\n' then
    ['\\', 'n']
  else if character = '\r' then
    ['\\', 'r']
  else if character = '\t' then
    ['\\', 't']
  else if isPrintable character then
    [character]
  else if code < 0x100 then
    '\\' :: 'x' :: hexDigits 2 code
  else if code < 0x10000 then
    '\\' :: 'u' :: hexDigits 4 code
  else
    '\\' :: 'U' :: hexDigits 8 code

/-- The quote that a text is shown between. -/
def quoteMark (text : Text) : Char :=
  if text.elem '\'' && !text.contains '"' then '"' else '\''

/-- The text as messages show it. -/
def quoted (text : Text) : String :=
  let mark := quoteMark text
  toOutput (mark :: text.flatMap (quoteCharacter mark) ++ [mark])

/-- The written form of one byte between the given quotes. -/
def quoteByte (mark : Char) (byte : UInt8) : Text :=
  if byte < 128 then
    quoteCharacter mark (Char.ofNat byte.toNat)
  else
    '\\' :: 'x' :: hexDigits 2 byte.toNat

/-- Bytes as messages show them. -/
def quotedBytes (bytes : List UInt8) : String :=
  let mark := quoteMark (bytes.map fun byte => Char.ofNat byte.toNat)
  toOutput ('b' :: mark :: bytes.flatMap (quoteByte mark) ++ [mark])

end TenantSchema.Text
