import TenantSchema.Yaml.Token

/-!
# Streams of tokens

Tokens are read from a text as they are asked for.  Whether a node is a key shows only at the
colon behind it, so the place of every node that may be one is kept, one for each level of
brackets, and the tokens after it wait until that is settled.  Such a key is one line long and
has at most 1024 characters.  Outside brackets a collection is opened by an indentation that is
greater than the one around it, and closed by one that is smaller.
-/

namespace TenantSchema.Yaml

/-- A place where a key may have started. -/
structure PossibleKey where
  /-- The level of brackets around it. -/
  depth : Nat
  /-- The count of tokens before it. -/
  position : Nat
  /-- Whether nothing but a key can stand there. -/
  required : Bool
  place : Cursor

/-- Tokens that were read and not yet taken, and what is left of the text. -/
structure TokenStream where
  /-- The length of the whole text. -/
  length : Nat
  cursor : Cursor
  waiting : List Token
  taken : Nat
  depth : Nat
  indent : Int
  outerIndents : List Int
  keyAllowed : Bool
  possibleKeys : List PossibleKey
  isFinished : Bool

namespace TokenStream

/-- The most characters of a key and the gap behind it. -/
def longestKey : Nat :=
  1024

/-- The tokens of a text. -/
def ofText (text : Text) : TokenStream :=
  {
    length := text.length
    cursor := .start text
    waiting := []
    taken := 0
    depth := 0
    indent := -1
    outerIndents := []
    keyAllowed := true
    possibleKeys := []
    isFinished := false
  }

/-- Whether the stream stands inside brackets. -/
def inBrackets (stream : TokenStream) : Bool :=
  stream.depth ≠ 0

/-- The column that the stream stands at, as an indentation. -/
def column (stream : TokenStream) : Int :=
  stream.cursor.column

/-- Put a token behind those that wait. -/
def push (stream : TokenStream) (token : Token) : TokenStream :=
  { stream with waiting := stream.waiting ++ [token] }

/-- Refuse the text where the stream stands. -/
def refuse {α : Type} (stream : TokenStream) : Except Refusal α :=
  stream.cursor.refuseForm

/-- Move to another place. -/
def moveTo (stream : TokenStream) (cursor : Cursor) : TokenStream :=
  { stream with cursor := cursor }

/-- Say whether a key may start next. -/
def allowKey (stream : TokenStream) (allowed : Bool) : TokenStream :=
  { stream with keyAllowed := allowed }

/-- Whether a possible key is none any more where the stream stands. -/
def isStale (stream : TokenStream) (key : PossibleKey) : Bool :=
  key.place.line != stream.cursor.line ||
    decide (longestKey < stream.cursor.index - key.place.index)

/-- Forget possible keys of a class; none of them may be required. -/
def forgetKeys (forgotten : PossibleKey → Bool) (stream : TokenStream) :
    Except Refusal TokenStream :=
  if stream.possibleKeys.any fun key => forgotten key && key.required then
    stream.refuse
  else
    .ok { stream with possibleKeys := stream.possibleKeys.filter (!forgotten ·) }

/-- Forget the possible keys that are none any more. -/
def forgetStaleKeys (stream : TokenStream) : Except Refusal TokenStream :=
  stream.forgetKeys stream.isStale

/-- Forget the possible key of the innermost level. -/
def forgetInnermostKey (stream : TokenStream) : Except Refusal TokenStream :=
  stream.forgetKeys (·.depth == stream.depth)

/-- Keep the place of the stream as one where a key may start, if one is allowed there. -/
def markPossibleKey (stream : TokenStream) : Except Refusal TokenStream :=
  if stream.keyAllowed then
    stream.forgetInnermostKey.map fun stream =>
      let key : PossibleKey := {
        depth := stream.depth
        position := stream.taken + stream.waiting.length
        required := !stream.inBrackets && stream.indent == stream.column
        place := stream.cursor
      }
      { stream with possibleKeys := key :: stream.possibleKeys }
  else
    .ok stream

/-- Close the collections that are indented more than a column. -/
def closeIndented (column : Int) (stream : TokenStream) : TokenStream :=
  if stream.inBrackets then
    stream
  else
    let indents := stream.indent :: stream.outerIndents
    let closed := indents.takeWhile (column < ·)
    let left := indents.drop closed.length
    {
      stream with
      waiting := stream.waiting ++ closed.map fun _ => Token.blockEnd
      indent := left.headD (-1)
      outerIndents := left.drop 1
    }

/-- Open a collection at a column, if it is indented more than what is around it. -/
def openIndented (column : Int) (stream : TokenStream) : Option TokenStream :=
  if stream.indent < column then
    some {
      stream with
      indent := column
      outerIndents := stream.indent :: stream.outerIndents
    }
  else
    none

/-- Open a collection where the stream stands, unless it goes on. -/
def openHere (token : Token) (stream : TokenStream) : TokenStream :=
  match stream.openIndented stream.column with
  | some opened =>
      opened.push token
  | none =>
      stream

/-- Read the end of the text: everything that is indented is closed. -/
def readTextEnd (stream : TokenStream) : Except Refusal TokenStream :=
  (stream.closeIndented (-1)).forgetInnermostKey.map fun stream =>
    { (stream.push .textEnd).allowKey false with possibleKeys := [], isFinished := true }

/-- Read a directive: everything that is indented is closed. -/
def readDirective (stream : TokenStream) : Except Refusal TokenStream := do
  let stream ← (stream.closeIndented (-1)).forgetInnermostKey
  let directive ← Directive.read stream.cursor
  .ok (((stream.allowKey false).moveTo directive.after).push (.directive directive.value))

/-- Read a mark between documents: everything that is indented is closed. -/
def readSeparator (token : Token) (stream : TokenStream) : Except Refusal TokenStream :=
  (stream.closeIndented (-1)).forgetInnermostKey.map fun stream =>
    ((stream.allowKey false).moveTo (stream.cursor.skip 3)).push token

/-- Read an opening bracket, which may start a key. -/
def readFlowStart (token : Token) (stream : TokenStream) : Except Refusal TokenStream :=
  stream.markPossibleKey.map fun stream =>
    { ((stream.allowKey true).moveTo stream.cursor.next).push token with
      depth := stream.depth + 1 }

/-- Read a closing bracket. -/
def readFlowEnd (token : Token) (stream : TokenStream) : Except Refusal TokenStream :=
  stream.forgetInnermostKey.map fun stream =>
    { ((stream.allowKey false).moveTo stream.cursor.next).push token with
      depth := stream.depth - 1 }

/-- Read a sign of one character after which a key may start or not. -/
def readSign (token : Token) (keyAllowed : Bool) (stream : TokenStream) :
    Except Refusal TokenStream :=
  stream.forgetInnermostKey.map fun stream =>
    ((stream.allowKey keyAllowed).moveTo stream.cursor.next).push token

/-- Open a collection for the sign that comes next, where one is allowed. -/
def openForSign (token : Token) (stream : TokenStream) : Except Refusal TokenStream :=
  if stream.inBrackets then
    .ok stream
  else if stream.keyAllowed then
    .ok (stream.openHere token)
  else
    stream.refuse

/-- Read the sign of an entry of a sequence. -/
def readEntry (stream : TokenStream) : Except Refusal TokenStream :=
  (stream.openForSign .blockSequenceStart).bind (readSign .entry true)

/-- Read the sign of a key. -/
def readKey (stream : TokenStream) : Except Refusal TokenStream :=
  (stream.openForSign .blockMappingStart).bind (readSign .key (!stream.inBrackets))

/-- Put tokens in front of the one at a position. -/
def insertAt (position : Nat) (tokens : List Token) (stream : TokenStream) : TokenStream :=
  let before := position - stream.taken
  { stream with
    waiting := stream.waiting.take before ++ tokens ++ stream.waiting.drop before }

/--
Read the sign of a value.  A possible key before it becomes a key, and outside brackets a
mapping is opened in front of that.
-/
def readValue (stream : TokenStream) : Except Refusal TokenStream :=
  match stream.possibleKeys.find? (·.depth == stream.depth) with
  | some key =>
      let settled :=
        { stream with
          possibleKeys := stream.possibleKeys.filter (·.depth != stream.depth) }
      let opened :=
        if stream.inBrackets then none else settled.openIndented key.place.column
      let marked :=
        match opened with
        | some opened =>
            opened.insertAt key.position [.blockMappingStart, .key]
        | none =>
            settled.insertAt key.position [.key]
      .ok (((marked.allowKey false).moveTo marked.cursor.next).push .value)
  | none =>
      (stream.openForSign .blockMappingStart).bind (readSign .value (!stream.inBrackets))

/-- Read a token of a node, which may be or start a key. -/
def readNodeToken
    (read : Cursor → Except Refusal (Scanned Token))
    (stream : TokenStream) :
    Except Refusal TokenStream := do
  let stream ← stream.markPossibleKey
  let scanned ← read stream.cursor
  .ok (((stream.allowKey false).moveTo scanned.after).push scanned.value)

/-- Read a plain scalar; a key may start behind it if it ends on a new line. -/
def readPlainToken (stream : TokenStream) : Except Refusal TokenStream :=
  stream.markPossibleKey.map fun stream =>
    let plain := readPlain stream.length stream.inBrackets stream.indent stream.cursor
    ((stream.allowKey plain.crossesLine).moveTo plain.scanned.after).push
      (.scalar (CodeText.ofText plain.scanned.value) true)

/-- Read a block scalar, behind which a key may start. -/
def readBlockToken (stream : TokenStream) : Except Refusal TokenStream := do
  let stream ← stream.forgetInnermostKey
  let block ← readBlock stream.length stream.indent stream.cursor
  .ok (((stream.allowKey true).moveTo block.after).push
    (.scalar (CodeText.ofText block.value) false))

/-- Read what starts where the stream stands. -/
def readStart (start : TokenStart) (stream : TokenStream) : Except Refusal TokenStream :=
  match start with
  | .textEnd =>
      stream.readTextEnd
  | .directive =>
      stream.readDirective
  | .documentStart =>
      stream.readSeparator .documentStart
  | .documentEnd =>
      stream.readSeparator .documentEnd
  | .flowStart token =>
      stream.readFlowStart token
  | .flowEnd token =>
      stream.readFlowEnd token
  | .flowEntry =>
      stream.readSign .flowEntry true
  | .entry =>
      stream.readEntry
  | .key =>
      stream.readKey
  | .value =>
      stream.readValue
  | .alias =>
      stream.readNodeToken fun cursor => (readAnchor cursor).map (·.map .alias)
  | .anchor =>
      stream.readNodeToken fun cursor => (readAnchor cursor).map (·.map .anchor)
  | .tag =>
      stream.readNodeToken fun cursor => (readTag cursor).map (·.map .tag)
  | .quoted =>
      stream.readNodeToken fun cursor =>
        (readQuoted stream.length cursor).map (·.map (.scalar · false))
  | .block =>
      stream.readBlockToken
  | .plain =>
      stream.readPlainToken

/-- Go to the next part of the text; outside brackets a key may start on a new line. -/
def skipGap (stream : TokenStream) : TokenStream :=
  let next := stream.cursor.skipGap
  let crossesLine := next.line != stream.cursor.line
  { stream with
    cursor := next
    keyAllowed := stream.keyAllowed || (crossesLine && !stream.inBrackets) }

/-- Read one more token, and those that only the indentation shows. -/
def readMore (stream : TokenStream) : Except Refusal TokenStream := do
  let stream ← stream.skipGap.forgetStaleKeys
  let closed := stream.closeIndented stream.column
  let stream := closed.moveTo (lookAtStart closed.inBrackets closed.cursor)
  let start ← TokenStart.ofCursor stream.inBrackets stream.cursor
  stream.readStart start

/-- Whether the first waiting token may turn out to start a key. -/
def isUnsettled (stream : TokenStream) : Bool :=
  stream.possibleKeys.any (·.position == stream.taken)

/-- Read until the first waiting token is settled.  The fuel is the length of the text. -/
def settleWith : Nat → TokenStream → Except Refusal TokenStream
  | 0, stream =>
      stream.refuse
  | fuel + 1, stream =>
      if stream.isFinished then
        .ok stream
      else if stream.waiting.isEmpty then
        stream.readMore.bind (settleWith fuel)
      else
        stream.forgetStaleKeys.bind fun stream =>
          if stream.isUnsettled then stream.readMore.bind (settleWith fuel) else .ok stream

/-- Read until the first waiting token is settled. -/
def settle (stream : TokenStream) : Except Refusal TokenStream :=
  stream.settleWith (stream.length + 2)

/-- The next token, and the stream with that token still waiting. -/
def peek (stream : TokenStream) : Except Refusal (Token × TokenStream) :=
  stream.settle.map fun stream => (stream.waiting.headD .textEnd, stream)

/-- The stream without its next token. -/
def drop (stream : TokenStream) : TokenStream :=
  { stream with waiting := stream.waiting.drop 1, taken := stream.taken + 1 }

end TokenStream

end TenantSchema.Yaml
