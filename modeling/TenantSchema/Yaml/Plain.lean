import TenantSchema.Yaml.Quoted

/-!
# Plain scalars

A scalar without quotes is made of words.  A word ends at white space and at a colon with a gap
behind it; inside brackets it also ends at the signs that brackets use.  Line ends between two
words are folded like those inside quotes.  The scalar ends before a comment, before a mark
between documents and, outside brackets, before a line that is indented too little.
-/

namespace TenantSchema.Yaml

/-- Whether a character opens or closes a bracket. -/
def isBracket (character : Char) : Bool :=
  "[]\x7b\x7d".toList.elem character

/-- Whether a plain word stops in front of a text. -/
def endsPlainWord (inBrackets : Bool) : Text → Bool
  | [] =>
      true
  | ':' :: rest =>
      isGapNext rest ||
        (inBrackets && (rest.head?).any fun next => next == ',' || isBracket next)
  | character :: _ =>
      isSpace character || isLineEnd character ||
        (inBrackets && (character == ',' || character == '?' || isBracket character))

/-- The plain word at the start of a text. -/
def plainWord (inBrackets : Bool) : Text → Text
  | [] =>
      []
  | character :: rest =>
      if endsPlainWord inBrackets (character :: rest) then
        []
      else
        character :: plainWord inBrackets rest

/-- Look behind a colon that comes next. -/
def Cursor.lookBehindColon (cursor : Cursor) : Cursor :=
  if cursor.rest.head? = some ':' then cursor.look 2 else cursor

/-- What stands between two plain words; there is nothing when the scalar ends. -/
structure PlainGap where
  text : Option Text
  after : Cursor
  crossesLine : Bool

/-- The line ends and spaces after a line end; none when a document ends there. -/
def plainBreaks : Nat → Cursor → Option Text × Cursor
  | 0, cursor =>
      (none, cursor)
  | fuel + 1, cursor =>
      match cursor.rest with
      | character :: _ =>
          if character == ' ' then
            plainBreaks fuel cursor.next
          else if isLineEnd character then
            let next := cursor.next.lookForSeparator
            if next.isAtSeparator then
              (none, next)
            else
              let (breaks, after) := plainBreaks fuel next
              (breaks.map (lineEndOf character :: ·), after)
          else
            (some [], cursor)
      | [] =>
          (some [], cursor)

/-- Read what stands between two plain words. -/
def readPlainGap (fuel : Nat) (cursor : Cursor) : PlainGap :=
  let spaces := cursor.takeWhile (· == ' ')
  match spaces.after.rest with
  | character :: _ =>
      if isLineEnd character then
        let next := spaces.after.next.lookForSeparator
        if next.isAtSeparator then
          { text := none, after := next, crossesLine := true }
        else
          let (breaks, after) := plainBreaks fuel next
          {
            text := breaks.map (foldLineEnd (lineEndOf character))
            after := after
            crossesLine := true
          }
      else
        { text := some spaces.value, after := spaces.after, crossesLine := false }
  | [] =>
      { text := some spaces.value, after := spaces.after, crossesLine := false }

/-- A plain scalar that was read, and whether the place after it is on a new line. -/
structure PlainScalar where
  scanned : Scanned Text
  crossesLine : Bool

/--
Read plain words, given what is known of the gap in front of them.  Outside brackets they are
indented by at least `indent`.  The fuel is the length of the text.
-/
def readPlainWords (inBrackets : Bool) (indent : Int) :
    Nat → Cursor → (crossesLine : Bool) → PlainScalar
  | 0, cursor, crossesLine =>
      { scanned := { value := [], after := cursor }, crossesLine := crossesLine }
  | fuel + 1, cursor, crossesLine =>
      match plainWord inBrackets cursor.rest with
      | [] =>
          {
            scanned := { value := [], after := cursor.lookBehindColon }
            crossesLine := crossesLine
          }
      | first :: others =>
          let word := first :: others
          let gap := readPlainGap (fuel + 1) (cursor.skip word.length).lookBehindColon
          let space := gap.text.getD []
          let ends :=
            space.isEmpty || gap.after.rest.head? == some '#' ||
              (!inBrackets && decide (gap.after.column < indent))
          if ends then
            { scanned := { value := word, after := gap.after }, crossesLine := gap.crossesLine }
          else
            let more := readPlainWords inBrackets indent fuel gap.after gap.crossesLine
            let text := more.scanned.value
            let joined := if text.isEmpty then word else word ++ space ++ text
            { more with scanned := { value := joined, after := more.scanned.after } }

/--
Read a plain scalar that starts here, in a text of the given length; `parent` is the indentation
around it.
-/
def readPlain (length : Nat) (inBrackets : Bool) (parent : Int) (cursor : Cursor) :
    PlainScalar :=
  readPlainWords inBrackets (parent + 1) length cursor false

/-- The characters that start something else than a plain scalar. -/
def indicators : Text :=
  "-?:,[]\x7b\x7d#&*!|>'\"%@\x60".toList

/-- Whether a plain scalar starts here. -/
def startsPlain (inBrackets : Bool) : Text → Bool
  | [] =>
      false
  | character :: rest =>
      !(isSpace character || isLineEnd character || indicators.elem character) ||
        (!isGapNext rest &&
          (character == '-' || (!inBrackets && (character == '?' || character == ':'))))

end TenantSchema.Yaml
