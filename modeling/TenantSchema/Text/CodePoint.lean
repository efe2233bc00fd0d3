import TenantSchema.Text.Quoted

/-!
# Code points

An escape can write a code that belongs to no character but to half of one.  A text in which such
halves may stand is a list of code points.  It has two texts of characters: one in which every
half is replaced, with as many characters as there are code points, and one in which two halves
that belong together are the character they make.
-/

namespace TenantSchema

/-- A character, or half of one. -/
inductive CodePoint where
  | whole (character : Char)
  | half (code : Nat)
  deriving Repr, DecidableEq

/-- A text in which halves of characters may stand. -/
abbrev CodeText := List CodePoint

namespace CodePoint

/-- What stands for half of a character where characters are needed. -/
def replacement : Char :=
  '\ufffd'

/-- The code point with a code below the end of all code points. -/
def ofCode (code : Nat) : CodePoint :=
  if code.isValidChar then .whole (Char.ofNat code) else .half code

/-- The character of a code point; half of one is replaced. -/
def toChar : CodePoint → Char
  | .whole character =>
      character
  | .half _ =>
      replacement

/-- The written form of one code point between the given quotes. -/
def quote (mark : Char) : CodePoint → Text
  | .whole character =>
      Text.quoteCharacter mark character
  | .half code =>
      '\\' :: 'u' :: Text.hexDigits 4 code

/-- The character that a first and a second half make, if they belong together. -/
def pair? (first second : Nat) : Option Char :=
  if first < 0xDC00 ∧ 0xDC00 ≤ second then
    some (Char.ofNat (0x10000 + (first - 0xD800) * 1024 + (second - 0xDC00)))
  else
    none

end CodePoint

namespace CodeText

/-- The code points of a text of characters. -/
def ofText (text : Text) : CodeText :=
  text.map .whole

/-- The text with every half of a character replaced. -/
def replaced (text : CodeText) : Text :=
  text.map (·.toChar)

/--
Join the halves of characters that belong together; `pending` is the half just before, if one is
still alone.
-/
def joinedAfter (pending : Option Nat) : CodeText → Text
  | [] =>
      pending.toList.map fun _ => CodePoint.replacement
  | .whole character :: rest =>
      (pending.toList.map fun _ => CodePoint.replacement) ++ character :: joinedAfter none rest
  | .half code :: rest =>
      match pending with
      | none =>
          joinedAfter (some code) rest
      | some first =>
          match CodePoint.pair? first code with
          | some character =>
              character :: joinedAfter none rest
          | none =>
              CodePoint.replacement :: joinedAfter (some code) rest

/-- The text with every two halves that belong together as one character. -/
def joined (text : CodeText) : Text :=
  joinedAfter none text

/-- The text as messages show it; halves of characters are written by code. -/
def quoted (text : CodeText) : String :=
  let mark := Text.quoteMark text.replaced
  Text.toOutput (mark :: text.flatMap (·.quote mark) ++ [mark])

/-- A text of characters has no halves to join. -/
@[simp] theorem joined_ofText (text : Text) : (ofText text).joined = text := by
  induction text with
  | nil =>
      rfl
  | cons character rest inductionHypothesis =>
      exact congrArg (character :: ·) inductionHypothesis

/-- A text of characters has nothing to replace. -/
@[simp] theorem replaced_ofText (text : Text) : (ofText text).replaced = text := by
  induction text with
  | nil =>
      rfl
  | cons character rest inductionHypothesis =>
      simpa [ofText, replaced, CodePoint.toChar] using inductionHypothesis

end CodeText

end TenantSchema
