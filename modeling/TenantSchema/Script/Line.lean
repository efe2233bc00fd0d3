import TenantSchema.Text.Keyword

/-!
# Lines of a script

Back quotes around identifiers are deleted from every line before anything else looks at it.
A line met outside every block belongs to one of eight classes, decided by its first words.
Inside a block only the line that closes it matters.
-/

namespace TenantSchema.Script

open Text

/-- Delete the back quotes around identifiers. -/
def unquoteIdentifiers (line : Text) : Text :=
  line.filter (· != '\x60')

/-- What a trimmed line met outside every block says. -/
inductive LineClass where
  /-- A blank line or a comment. -/
  | silent
  /-- A `CREATE DATABASE` statement of one line. -/
  | database
  /-- A `USE` or `DROP TABLE` statement, which a fresh schema has no use for. -/
  | ignored
  /-- The first line of a table definition. -/
  | table
  /-- The first line of another `CREATE` statement. -/
  | statement
  /-- A marker that opens a section with a delimiter of its own. -/
  | sectionStart (token : Text)
  /-- An `INSERT INTO` statement of one line. -/
  | insert
  /-- Anything else. -/
  | remark
  deriving Repr, DecidableEq

/-- Whether a trimmed line is a comment; `/*` alone is none. -/
def isComment (stripped : Text) : Bool :=
  startsWith "--".toList stripped ||
    startsWith "#".toList stripped ||
    (startsWith "/*".toList stripped && 2 < stripped.length)

/-- What follows two keywords that are separated by white space. -/
def dropKeywords? (first second text : Text) : Option Text :=
  ((dropKeyword? first text).bind dropBlanks?).bind (dropKeyword? second)

/-- Whether a text starts with the words `CREATE TABLE`. -/
def opensTable (stripped : Text) : Bool :=
  match dropKeywords? "create".toList "table".toList stripped with
  | some rest =>
      wordEndsAt rest
  | none =>
      false

/-- Whether a text starts with the word `USE` or the words `DROP TABLE`. -/
def isIgnored (stripped : Text) : Bool :=
  let afterUse := dropKeyword? "use".toList stripped
  let afterDrop := dropKeywords? "drop".toList "table".toList stripped
  afterUse.any wordEndsAt || afterDrop.any wordEndsAt

/-- The delimiter that a marker line names. -/
def delimiterToken? (stripped : Text) : Option Text :=
  match (dropKeyword? "delimiter".toList stripped).bind dropBlanks? with
  | none =>
      none
  | some rest =>
      let token := rest.takeWhile (!isBlank ·)
      if !token.isEmpty && allBlank (rest.dropWhile (!isBlank ·)) then some token else none

/-- The delimiter of statements outside every section. -/
def ordinaryDelimiter : Text :=
  [';']

/-- Whether a trimmed line is the marker that closes a section. -/
def closesSection (stripped : Text) : Bool :=
  delimiterToken? stripped == some ordinaryDelimiter

/-- The class of a trimmed line met outside every block. -/
def LineClass.ofLine (stripped : Text) : LineClass :=
  if stripped.isEmpty || isComment stripped then
    .silent
  else if startsWithCapitals "CREATE DATABASE".toList stripped then
    .database
  else if isIgnored stripped then
    .ignored
  else if startsWithCapitals "CREATE".toList stripped then
    if opensTable stripped then .table else .statement
  else
    match delimiterToken? stripped with
    | some token =>
        if token ≠ ordinaryDelimiter then .sectionStart token else .remark
    | none =>
        if startsWithCapitals "INSERT INTO".toList stripped then .insert else .remark

/-- Whether a text starts with an assignment to the storage engine. -/
def startsWithEngineClause (text : Text) : Bool :=
  match (dropKeyword? "engine".toList text).map trimLeft with
  | some ('=' :: rest) =>
      (takeWord? (trimLeft rest)).isSome
  | _ =>
      false

/-- Whether a line holds a storage-engine clause, which closes a table definition. -/
def hasEngineClause (line : Text) : Bool :=
  anyWordStart startsWithEngineClause false line

/-- Whether a line ends in a semicolon, which closes a statement. -/
def endsStatement (line : Text) : Bool :=
  endsWith ordinaryDelimiter (trimRight line)

/-- Whether a text starts with the word `PROCEDURE` or `FUNCTION`. -/
def startsWithRoutineWord (text : Text) : Bool :=
  (dropKeyword? "procedure".toList text).any wordEndsAt ||
    (dropKeyword? "function".toList text).any wordEndsAt

/-- Whether a line names the kind of a stored routine. -/
def hasRoutineWord (line : Text) : Bool :=
  anyWordStart startsWithRoutineWord false line

/-- Drop the delimiter of a section, and the white space around it, from the end of a line. -/
def dropTrailingDelimiter (delimiter line : Text) : Text :=
  let trimmed := trimRight line
  if endsWith delimiter trimmed then
    trimRight (trimmed.take (trimmed.length - delimiter.length))
  else
    line

end TenantSchema.Script
