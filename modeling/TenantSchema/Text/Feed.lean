import TenantSchema.Text.Lines
import TenantSchema.Text.Utf8

/-!
# Files that are read portion by portion

A feed hands out the text of a file in portions of a count of characters.  It fetches the bytes in
pieces: of a fixed size, or larger when the piece before had many bytes for each character.  A
character that a piece leaves unfinished goes on in the next piece, and a carriage return at the
end of a piece waits for what follows.  A fault is told by its place in its piece.
-/

namespace TenantSchema.Text

/-- A file that is being read. -/
structure Feed where
  /-- The bytes that were not fetched. -/
  bytes : List UInt8
  /-- The bytes of a character that is not finished. -/
  unfinished : List UInt8
  /-- Whether a carriage return waits for what follows. -/
  isReturnHeld : Bool
  /-- The characters that were decoded and not handed out. -/
  ready : Text
  /-- The bytes for each character of the last piece; zero when it had no character. -/
  density : Float

namespace Feed

/-- The least size of a piece that is asked for. -/
def pieceSize : Nat :=
  8192

/-- A file of which nothing was read. -/
def ofBytes (bytes : List UInt8) : Feed :=
  { bytes := bytes, unfinished := [], isReturnHeld := false, ready := [], density := 0.0 }

/-- The size of the next piece when a count of characters is wanted. -/
def nextSize (feed : Feed) (wanted : Nat) : Nat :=
  let density := if feed.density < 1.0 then 1.0 else feed.density
  max pieceSize (density * wanted.toFloat).toUInt64.toNat

/-- Put a text behind the ready one; a carriage return at its end waits unless the file ends. -/
def accept (feed : Feed) (atEnd : Bool) (decoded : Text) : Feed × Nat :=
  let isReturnDue := feed.isReturnHeld && (atEnd || !decoded.isEmpty)
  let text := if isReturnDue then '\r' :: decoded else decoded
  let holdsBack := !atEnd && text.getLast? == some '\r'
  let lines := translateNewlines (if holdsBack then text.dropLast else text)
  (
    {
      feed with
      isReturnHeld := holdsBack || (feed.isReturnHeld && !isReturnDue)
      ready := feed.ready ++ lines
    },
    lines.length
  )

/-- Fetch the next piece of a file that has one. -/
def fetch (feed : Feed) (wanted : Nat) : Except Utf8.Fault Feed :=
  let piece := feed.bytes.take (feed.nextSize wanted)
  (Utf8.decodePiece? (feed.unfinished ++ piece)).map fun (decoded, unfinished) =>
    let (fed, count) := feed.accept false decoded
    {
      fed with
      bytes := feed.bytes.drop piece.length
      unfinished := unfinished
      density := if count = 0 then 0.0 else piece.length.toFloat / count.toFloat
    }

/-- Finish a file of which all bytes were fetched. -/
def finish (feed : Feed) : Except Utf8.Fault Feed :=
  (Utf8.decode? feed.unfinished).map fun decoded =>
    { (feed.accept true decoded).1 with unfinished := [] }

/-- Read on until a count of characters is ready or the file ends.  The fuel bounds the pieces. -/
def provide (count : Nat) : Nat → Feed → Except Utf8.Fault Feed
  | 0, feed =>
      .ok feed
  | fuel + 1, feed =>
      if count ≤ feed.ready.length then
        .ok feed
      else if feed.bytes.isEmpty then
        feed.finish
      else
        (feed.fetch (count - feed.ready.length)).bind (provide count fuel)

/-- Hand out a portion of a count of characters, or what is left, and what comes after it. -/
def takePortion (count : Nat) (feed : Feed) : Except Utf8.Fault (Text × Feed) :=
  (feed.provide count (feed.bytes.length + 1)).map fun feed =>
    (feed.ready.take count, { feed with ready := feed.ready.drop count })

end Feed

end TenantSchema.Text
