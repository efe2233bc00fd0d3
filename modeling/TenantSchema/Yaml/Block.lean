import TenantSchema.Yaml.Quoted

/-!
# Block scalars

A block scalar keeps the ends of its lines, or folds them where both lines start with text, and
ends where the indentation does.  Its header may give the indentation and may say what happens
to the line ends after the last line.
-/

namespace TenantSchema.Yaml

/-- What happens to the line ends after a block scalar. -/
inductive Chomping where
  | strip
  | clip
  | keep
  deriving Repr, DecidableEq

/-- The header of a block scalar. -/
structure BlockHeader where
  folded : Bool
  chomping : Chomping
  increment : Option Nat
  deriving Repr, DecidableEq

/-- How a chomping indicator reads. -/
def chompingOf? : Char → Option Chomping
  | '+' =>
      some .keep
  | '-' =>
      some .strip
  | _ =>
      none

/-- The value of an indentation indicator. -/
def incrementOf? (character : Char) : Option Nat :=
  if '1' ≤ character && character ≤ '9' then some (character.toNat - 48) else none

/-- The indicators after the mark of a block scalar, in any order, and how many they are. -/
def blockIndicators (folded : Bool) : Text → BlockHeader × Nat
  | [] =>
      (⟨folded, .clip, none⟩, 0)
  | first :: rest =>
      let second := rest.head?
      match chompingOf? first, incrementOf? first with
      | some chomping, _ =>
          match second.bind incrementOf? with
          | some increment =>
              (⟨folded, chomping, some increment⟩, 2)
          | none =>
              (⟨folded, chomping, none⟩, 1)
      | none, some increment =>
          match second.bind chompingOf? with
          | some chomping =>
              (⟨folded, chomping, some increment⟩, 2)
          | none =>
              (⟨folded, .clip, some increment⟩, 1)
      | none, none =>
          (⟨folded, .clip, none⟩, 0)

/-- The empty lines at a place and the greatest indentation among them. -/
def leadingBreaks : Nat → Cursor → Nat → Scanned Text × Nat
  | 0, cursor, widest =>
      ({ value := [], after := cursor }, widest)
  | fuel + 1, cursor, widest =>
      match cursor.rest with
      | character :: _ =>
          if character == ' ' then
            let later := cursor.next
            leadingBreaks fuel later (max widest later.column)
          else if isLineEnd character then
            let (more, widest) := leadingBreaks fuel cursor.next widest
            (more.map (lineEndOf character :: ·), widest)
          else
            ({ value := [], after := cursor }, widest)
      | [] =>
          ({ value := [], after := cursor }, widest)

/-- The place after at most the spaces of an indentation. -/
def skipIndent (indent : Nat) (cursor : Cursor) : Cursor :=
  let spaces := (cursor.rest.takeWhile (· == ' ')).length
  cursor.skip (min spaces (indent - cursor.column))

/-- The empty lines at a place, each with at most the given indentation. -/
def indentedBreaks (indent : Nat) : Nat → Cursor → Scanned Text
  | 0, cursor =>
      { value := [], after := cursor }
  | fuel + 1, cursor =>
      let place := skipIndent indent cursor
      match place.rest with
      | character :: _ =>
          if isLineEnd character then
            (indentedBreaks indent fuel place.next).map (lineEndOf character :: ·)
          else
            { value := [], after := place }
      | [] =>
          { value := [], after := place }

/-- Whether a line starts with text and not with white space. -/
def startsWithText (line : Text) : Bool :=
  !(line.head?).any isSpace

/-- What stands between two lines with the given line end and empty lines between them. -/
def blockJoint (folded : Bool) (lineEnd : Option Char) (breaks : Text) : Text :=
  if folded && lineEnd == some '\n' then
    if breaks.isEmpty then [' '] else []
  else
    lineEnd.toList

/-- The lines of a block scalar; `breaks` are the empty lines before the next one. -/
def blockLines
    (header : BlockHeader)
    (indent : Nat) :
    Nat → Cursor → (breaks : Text) → Scanned Text
  | 0, cursor, breaks =>
      { value := breaks, after := cursor }
  | fuel + 1, cursor, breaks =>
      let line := cursor.takeWhile (!isLineEnd ·)
      let lineEnd := (line.after.rest.head?).map lineEndOf
      let following := indentedBreaks indent (fuel + 1) line.after.next
      let next := following.after
      if next.column == indent && !next.rest.isEmpty then
        let isFolded :=
          header.folded && startsWithText cursor.rest && startsWithText next.rest
        let joint := blockJoint isFolded lineEnd following.value
        (blockLines header indent fuel next following.value).map
          (breaks ++ line.value ++ joint ++ ·)
      else
        let ending :=
          match header.chomping with
          | .strip =>
              []
          | .clip =>
              lineEnd.toList
          | .keep =>
              lineEnd.toList ++ following.value
        { value := breaks ++ line.value ++ ending, after := next }

/--
Read a block scalar whose mark comes next, in a text of the given length; `parent` is the
indentation around it.
-/
def readBlock (length : Nat) (parent : Int) (cursor : Cursor) :
    Except Refusal (Scanned Text) :=
  let folded := cursor.rest.head? == some '>'
  let (header, indicators) := blockIndicators folded cursor.next.rest
  let afterHeader := cursor.next.skip indicators
  let start :=
    if isBreakNext afterHeader.rest then afterHeader.skipLineTail else afterHeader.refuseForm
  start.map fun start =>
    let least := (max (parent + 1) 1).toNat
    let fuel := length + 1
    let (indent, breaks) :=
      match header.increment with
      | none =>
          let (breaks, widest) := leadingBreaks fuel start 0
          (max least widest, breaks)
      | some increment =>
          let indent := least + increment - 1
          (indent, indentedBreaks indent fuel start)
    let first := breaks.after
    if first.column == indent && !first.rest.isEmpty then
      blockLines header indent fuel first breaks.value
    else
      {
        value := if header.chomping = .keep then breaks.value else []
        after := first
      }

end TenantSchema.Yaml
