import TenantSchema.Yaml.Cursor

/-!
# Quoted scalars

A line end inside a quoted scalar is folded: one alone becomes a space, each further one is
kept, and the white space around it goes.  Between single quotes a quote is written twice;
between double ones a backslash starts an escape.  A quoted scalar ends before its document does.
-/

namespace TenantSchema.Yaml

/--
Read the line ends after one that was read, with the white space around them passed over.  A
document must not end there.  The fuel is the length of the text.
-/
def readBreaks : Nat → Cursor → Except Refusal (Scanned Text)
  | 0, cursor =>
      cursor.refuseForm
  | fuel + 1, cursor =>
      let seen := cursor.lookForSeparator
      if seen.isAtSeparator then
        seen.refuseForm
      else
        let place := seen.skipWhile isSpace
        match place.rest with
        | character :: _ =>
            if isLineEnd character then
              (readBreaks fuel place.next).map (·.map (lineEndOf character :: ·))
            else
              .ok { value := [], after := place }
        | [] =>
            .ok { value := [], after := place }

/-- What a line end stands for, given the line ends that follow it. -/
def foldLineEnd (lineEnd : Char) (breaks : Text) : Text :=
  if lineEnd ≠ '\n' then
    lineEnd :: breaks
  else if breaks.isEmpty then
    [' ']
  else
    breaks

/-- Read white space inside a quoted scalar, with line ends folded. -/
def readQuotedGap (fuel : Nat) (cursor : Cursor) : Except Refusal (Scanned Text) :=
  let spaces := cursor.takeWhile isSpace
  match spaces.after.rest with
  | [] =>
      spaces.after.refuseForm
  | character :: _ =>
      if isLineEnd character then
        (readBreaks fuel spaces.after.next).map
          (·.map (foldLineEnd (lineEndOf character)))
      else
        .ok spaces

/-- Read the rest of a scalar in single quotes.  The fuel is the length of the text. -/
def readSingleQuoted : Nat → Cursor → Except Refusal (Scanned Text)
  | 0, cursor =>
      cursor.refuseForm
  | fuel + 1, cursor =>
      match cursor.rest with
      | [] =>
          cursor.refuseForm
      | '\'' :: '\'' :: _ =>
          (readSingleQuoted fuel (cursor.skip 2)).map (·.map ('\'' :: ·))
      | '\'' :: _ =>
          .ok { value := [], after := cursor.next }
      | character :: _ =>
          if isSpace character || isLineEnd character then
            match readQuotedGap (fuel + 1) cursor with
            | .error refusal =>
                .error refusal
            | .ok gap =>
                (readSingleQuoted fuel gap.after).map (·.map (gap.value ++ ·))
          else
            (readSingleQuoted fuel cursor.next).map (·.map (character :: ·))

/-- The character that an escape of one letter stands for. -/
def simpleEscape? : Char → Option Char
  | '0' =>
      some '\x00'
  | 'a' =>
      some '\x07'
  | 'b' =>
      some '\x08'
  | 't' | '\t' =>
      some '\t'
  | 'n' =>
      some '\n'
  | 'v' =>
      some '\x0b'
  | 'f' =>
      some '\x0c'
  | 'r' =>
      some '\r'
  | 'e' =>
      some '\x1b'
  | ' ' =>
      some ' '
  | '"' =>
      some '"'
  | '\\' =>
      some '\\'
  | '/' =>
      some '/'
  | 'N' =>
      some '\u0085'
  | '_' =>
      some '\u00a0'
  | 'L' =>
      some '\u2028'
  | 'P' =>
      some '\u2029'
  | _ =>
      none

/-- The count of digits after the letter of a numeric escape. -/
def escapeWidth? : Char → Option Nat
  | 'x' =>
      some 2
  | 'u' =>
      some 4
  | 'U' =>
      some 8
  | _ =>
      none

/-- The code point of a code. -/
def codePointOf (code : Nat) : Except Fault CodePoint :=
  if code < 0x110000 then
    .ok (.ofCode code)
  else if code < 0x80000000 then
    .error .notCodePoint
  else
    .error .codeTooLarge

/-- Read the digits of a numeric escape. -/
def readCode (width : Nat) (cursor : Cursor) : Except Refusal (Scanned CodePoint) :=
  let digits := (cursor.rest.take width).map Text.hexValue?
  let known := digits.takeWhile (·.isSome)
  if known.length = width then
    match codePointOf (Text.numberOf 16 (known.filterMap id)) with
    | .error fault =>
        (cursor.look width).refuse fault
    | .ok point =>
        .ok { value := point, after := cursor.skip width }
  else
    (cursor.look (known.length + 1)).refuseForm

/-- Read an escape whose backslash was passed. -/
def readEscape (fuel : Nat) (cursor : Cursor) : Except Refusal (Scanned CodeText) :=
  match cursor.rest with
  | [] =>
      cursor.refuseForm
  | letter :: _ =>
      match simpleEscape? letter, escapeWidth? letter with
      | some character, _ =>
          .ok { value := [.whole character], after := cursor.next }
      | none, some width =>
          (readCode width cursor.next).map (·.map fun point => [point])
      | none, none =>
          if isLineEnd letter then
            (readBreaks fuel cursor.next).map (·.map CodeText.ofText)
          else
            cursor.refuseForm

/-- Read the rest of a scalar in double quotes.  The fuel is the length of the text. -/
def readDoubleQuoted : Nat → Cursor → Except Refusal (Scanned CodeText)
  | 0, cursor =>
      cursor.refuseForm
  | fuel + 1, cursor =>
      match cursor.rest with
      | [] =>
          cursor.refuseForm
      | '"' :: _ =>
          .ok { value := [], after := cursor.next }
      | '\\' :: _ =>
          match readEscape (fuel + 1) cursor.next with
          | .error refusal =>
              .error refusal
          | .ok escape =>
              (readDoubleQuoted fuel escape.after).map (·.map (escape.value ++ ·))
      | character :: _ =>
          if isSpace character || isLineEnd character then
            match readQuotedGap (fuel + 1) cursor with
            | .error refusal =>
                .error refusal
            | .ok gap =>
                (readDoubleQuoted fuel gap.after).map
                  (·.map (CodeText.ofText gap.value ++ ·))
          else
            (readDoubleQuoted fuel cursor.next).map (·.map (.whole character :: ·))

/-- Read a quoted scalar whose quote comes next, in a text of the given length. -/
def readQuoted (length : Nat) (cursor : Cursor) : Except Refusal (Scanned CodeText) :=
  match cursor.rest with
  | '\'' :: _ =>
      (readSingleQuoted length cursor.next).map (·.map CodeText.ofText)
  | _ =>
      readDoubleQuoted length cursor.next

end TenantSchema.Yaml
