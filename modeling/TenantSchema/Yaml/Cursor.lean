import TenantSchema.Text.Lines
import TenantSchema.Yaml.Fault

/-!
# Places in a configuration file

A cursor is what is left of the text together with the place it starts at: the count of
characters before it, the line and the column.  It also tells how far the text has been looked at,
which is beyond the place at least by the character there.  Indentation is measured in columns; a
byte-order mark takes none.  Spaces, comments and line ends stand between the parts of a file; tabs
do not.
-/

namespace TenantSchema.Yaml

/-- A place in a text. -/
structure Cursor where
  rest : Text
  index : Nat
  line : Nat
  column : Nat
  /-- The count of characters that have been looked at, the end of the text among them. -/
  reach : Nat
  deriving Repr, DecidableEq

/-- A part of a text that was read, and the place after it. -/
structure Scanned (α : Type) where
  value : α
  after : Cursor

/-- Change what was read. -/
def Scanned.map {α β : Type} (change : α → β) (scanned : Scanned α) : Scanned β :=
  { value := change scanned.value, after := scanned.after }

/-- Whether a character ends a line of a configuration file. -/
def isLineEnd (character : Char) : Bool :=
  character == '\n' || character == '\r' || character == '\u0085' ||
    character == '\u2028' || character == '\u2029'

/-- Whether a character is a space or a tab. -/
def isSpace (character : Char) : Bool :=
  character == ' ' || character == '\t'

/-- Whether nothing comes next, or a character of a class. -/
def endsOr (belongs : Char → Bool) : Text → Bool
  | [] =>
      true
  | character :: _ =>
      belongs character

/-- Whether nothing, a space, a tab or the end of a line comes next. -/
def isGapNext : Text → Bool :=
  endsOr fun character => isSpace character || isLineEnd character

/-- Whether nothing, a space or the end of a line comes next. -/
def isBreakNext : Text → Bool :=
  endsOr fun character => character == ' ' || isLineEnd character

/-- Whether nothing or the end of a line comes next. -/
def isLineEndNext : Text → Bool :=
  endsOr isLineEnd

/-- Whether a character may stand in the name of an anchor, a handle or a directive. -/
def isNameCharacter (character : Char) : Bool :=
  character.isAlphanum || character == '-' || character == '_'

/-- The line end that a line-end character stands for. -/
def lineEndOf (character : Char) : Char :=
  if character == '\u2028' || character == '\u2029' then character else '\n'

namespace Cursor

/-- The place where a text starts. -/
def start (text : Text) : Cursor :=
  { rest := text, index := 0, line := 0, column := 0, reach := 1 }

/-- Look at several characters from a place on. -/
def look (count : Nat) (cursor : Cursor) : Cursor :=
  { cursor with reach := max cursor.reach (cursor.index + count) }

/-- Refuse the text for a fault that shows at a place. -/
def refuse {α : Type} (fault : Fault) (cursor : Cursor) : Except Refusal α :=
  .error { fault := fault, reach := cursor.reach }

/-- Refuse a text that does not follow the grammar. -/
def refuseForm {α : Type} (cursor : Cursor) : Except Refusal α :=
  cursor.refuse .malformed

/-- The place after the next character. -/
def next (cursor : Cursor) : Cursor :=
  match cursor.rest with
  | [] =>
      cursor
  | character :: rest =>
      let reach := max cursor.reach (cursor.index + 2)
      if isLineEnd character then
        {
          rest := rest
          index := cursor.index + 1
          line := cursor.line + 1
          column := 0
          reach := reach
        }
      else
        let width := if character = '\ufeff' then 0 else 1
        {
          rest := rest
          index := cursor.index + 1
          line := cursor.line
          column := cursor.column + width
          reach := reach
        }

/-- The place after several characters. -/
def skip (cursor : Cursor) : Nat → Cursor
  | 0 =>
      cursor
  | count + 1 =>
      cursor.next.skip count

/-- The place after all characters of a class. -/
def skipWhile (belongs : Char → Bool) (cursor : Cursor) : Cursor :=
  cursor.skip (cursor.rest.takeWhile belongs).length

/-- The place after the spaces. -/
def skipSpaces (cursor : Cursor) : Cursor :=
  cursor.skipWhile (· == ' ')

/-- The characters of a class at a place, and the place after them. -/
def takeWhile (belongs : Char → Bool) (cursor : Cursor) : Scanned Text :=
  { value := cursor.rest.takeWhile belongs, after := cursor.skipWhile belongs }

/-- The place after a comment, if one starts here. -/
def skipComment (cursor : Cursor) : Cursor :=
  match cursor.rest with
  | '#' :: _ =>
      cursor.skipWhile (!isLineEnd ·)
  | _ =>
      cursor

/-- The place after the rest of a line, which holds nothing or a comment. -/
def skipLineTail (cursor : Cursor) : Except Refusal Cursor :=
  let tail := cursor.skipSpaces.skipComment
  if isLineEndNext tail.rest then .ok tail.next else tail.refuseForm

/-- The characters up to the next part of the file: spaces, comments and line ends. -/
def gapLength (inComment : Bool) : Text → Nat
  | [] =>
      0
  | character :: rest =>
      if isLineEnd character then
        gapLength false rest + 1
      else if inComment || character == '#' then
        gapLength true rest + 1
      else if character == ' ' then
        gapLength false rest + 1
      else
        0

/-- The place of the next part of the file; only its first character may be a byte-order mark. -/
def skipGap (cursor : Cursor) : Cursor :=
  let begun :=
    match cursor.index, cursor.rest with
    | 0, '\ufeff' :: _ =>
        cursor.next
    | _, _ =>
        cursor
  begun.skip (gapLength false begun.rest)

/-- Whether a line of three marks, alone or followed by white space, comes next. -/
def isAtMark (mark : Char) (cursor : Cursor) : Bool :=
  cursor.column == 0 &&
    match cursor.rest with
    | first :: second :: third :: rest =>
        first == mark && second == mark && third == mark && isGapNext rest
    | _ =>
        false

/-- Whether a mark that separates documents comes next. -/
def isAtSeparator (cursor : Cursor) : Bool :=
  cursor.isAtMark '-' || cursor.isAtMark '.'

/--
Look for a mark that separates documents: at three characters, and at one more behind three marks
of a kind.
-/
def lookForSeparator (cursor : Cursor) : Cursor :=
  let lead := cursor.rest.take 3
  cursor.look (if lead = ['-', '-', '-'] ∨ lead = ['.', '.', '.'] then 4 else 3)

end Cursor

end TenantSchema.Yaml
