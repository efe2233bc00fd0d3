import TenantSchema.Text.Utf8
import TenantSchema.Yaml.Cursor

/-!
# Tags

A tag says what a node stands for.  It is written as a handle and a suffix; a directive in front
of a document can give a handle its meaning, and two handles have one by themselves.  Characters
of a tag may be written by the bytes of their encoding.
-/

namespace TenantSchema.Yaml

/-- What a node stands for. -/
inductive Tag where
  | null
  | bool
  | int
  | float
  | binary
  | moment
  | text
  | sequence
  | mapping
  | pairs
  | set
  /-- A key that brings in the entries of other mappings. -/
  | merge
  /-- A key whose value stands for its whole mapping. -/
  | standIn
  | unknown
  deriving Repr, DecidableEq

/-- A tag as it is written: a handle, or none when the suffix says it all. -/
structure TagName where
  handle : Option Text
  suffix : Text
  deriving Repr, DecidableEq

/-- The meanings that directives give to handles. -/
abbrev Handles := List (Text × Text)

/-- What the standard tags start with. -/
def standardLead : Text :=
  "tag:yaml.org,2002:".toList

/-- The handles that have a meaning by themselves. -/
def standardHandles : Handles :=
  [(['!'], ['!']), (['!', '!'], standardLead)]

/-- The standard tags. -/
def standardTags : List (String × Tag) :=
  [
    ("null", .null),
    ("bool", .bool),
    ("int", .int),
    ("float", .float),
    ("binary", .binary),
    ("timestamp", .moment),
    ("omap", .pairs),
    ("pairs", .pairs),
    ("set", .set),
    ("str", .text),
    ("seq", .sequence),
    ("map", .mapping),
    ("merge", .merge),
    ("value", .standIn)
  ]

/-- What a tag asks for; the lone mark leaves the choice to the node itself. -/
inductive TagRequest where
  | free
  | fixed (tag : Tag)
  deriving Repr, DecidableEq

/-- What a tag asks for when it is written out. -/
def TagRequest.ofFull (full : Text) : TagRequest :=
  if full = ['!'] then
    .free
  else
    let known :=
      standardTags.find? fun (name, _) => full == standardLead ++ name.toList
    .fixed (known.elim .unknown (·.2))

/--
What a tag asks for, given the meanings of handles beyond the standard ones; a handle without a
meaning asks for nothing.
-/
def TagName.request? (handles : Handles) (name : TagName) : Option TagRequest :=
  match name.handle with
  | none =>
      some (.ofFull name.suffix)
  | some handle =>
      ((handles ++ standardHandles).find? (·.1 == handle)).map fun (_, lead) =>
        .ofFull (lead ++ name.suffix)

/-- Whether a character may stand in a tag. -/
def isTagCharacter (character : Char) : Bool :=
  character.isAlphanum || "-;/?:@&=+$,_.!~*'()[]%".toList.elem character

/-- Read an escape: a percent sign, which comes next, with two digits of base sixteen. -/
def readTagEscape (cursor : Cursor) : Except Refusal (Scanned UInt8) :=
  let digits := cursor.next
  match (digits.rest.head?).bind Text.hexValue? with
  | none =>
      digits.refuseForm
  | some high =>
      match (digits.rest[1]?).bind Text.hexValue? with
      | none =>
          (digits.look 2).refuseForm
      | some low =>
          .ok { value := UInt8.ofNat (high * 16 + low), after := digits.skip 2 }

/-- Read a run of escapes.  The fuel is the length of the text. -/
def readTagEscapes : Nat → Cursor → Except Refusal (Scanned (List UInt8))
  | 0, cursor =>
      .ok { value := [], after := cursor }
  | fuel + 1, cursor =>
      if cursor.rest.head? = some '%' then
        match readTagEscape cursor with
        | .error refusal =>
            .error refusal
        | .ok escape =>
            (readTagEscapes fuel escape.after).map (·.map (escape.value :: ·))
      else
        .ok { value := [], after := cursor }

/-- Read the characters of a tag, each run of escapes as a whole.  The fuel is their count. -/
def tagCharacters : Nat → Cursor → Except Refusal (Scanned Text)
  | 0, cursor =>
      .ok { value := [], after := cursor }
  | fuel + 1, cursor =>
      match cursor.rest with
      | '%' :: _ =>
          match readTagEscapes (fuel + 1) cursor with
          | .error refusal =>
              .error refusal
          | .ok escapes =>
              match Text.Utf8.decode? escapes.value with
              | .error _ =>
                  escapes.after.refuseForm
              | .ok text =>
                  (tagCharacters fuel escapes.after).map (·.map (text ++ ·))
      | character :: _ =>
          if isTagCharacter character then
            (tagCharacters fuel cursor.next).map (·.map (character :: ·))
          else
            .ok { value := [], after := cursor }
      | [] =>
          .ok { value := [], after := cursor }

/-- Read the suffix of a tag or the meaning of a handle, which is not empty. -/
def readTagCharacters (cursor : Cursor) : Except Refusal (Scanned Text) :=
  match tagCharacters (cursor.rest.takeWhile isTagCharacter).length cursor with
  | .error refusal =>
      .error refusal
  | .ok scanned =>
      if scanned.after.index = cursor.index then cursor.refuseForm else .ok scanned

/-- Read a handle: a mark alone, or a name between two marks. -/
def readHandle (cursor : Cursor) : Except Refusal (Scanned Text) :=
  match cursor.rest with
  | '!' :: rest =>
      let name := rest.takeWhile isNameCharacter
      match rest.drop name.length with
      | '!' :: _ =>
          .ok { value := '!' :: name ++ ['!'], after := cursor.skip (name.length + 2) }
      | following =>
          if name.isEmpty && following.head? == some ' ' then
            .ok { value := ['!'], after := cursor.next }
          else
            (cursor.skip (name.length + 1)).refuseForm
  | _ =>
      cursor.refuseForm

/-- The characters of a tag up to a further mark, or all of them. -/
def beforeMark (afterMark : Text) : Text :=
  afterMark.takeWhile fun character =>
    character != '!' && character != ' ' && !isLineEnd character

/-- Read a tag that has a handle, without regard to what follows it. -/
def readShortTag (cursor : Cursor) : Except Refusal (Scanned TagName) :=
  let lead := beforeMark (cursor.rest.drop 1)
  let seen := cursor.look (lead.length + 2)
  if (cursor.rest.drop (lead.length + 1)).head? = some '!' then
    match readHandle seen with
    | .error refusal =>
        .error refusal
    | .ok handle =>
        (readTagCharacters handle.after).map
          (·.map fun suffix => ⟨some handle.value, suffix⟩)
  else
    (readTagCharacters seen.next).map (·.map fun suffix => ⟨some ['!'], suffix⟩)

/-- Read a tag without regard to what follows it. -/
def readTagName (cursor : Cursor) : Except Refusal (Scanned TagName) :=
  match cursor.rest.drop 1 with
  | '<' :: _ =>
      match readTagCharacters (cursor.skip 2) with
      | .error refusal =>
          .error refusal
      | .ok suffix =>
          match suffix.after.rest with
          | '>' :: _ =>
              .ok { value := ⟨none, suffix.value⟩, after := suffix.after.next }
          | _ =>
              suffix.after.refuseForm
  | afterMark =>
      if isGapNext afterMark then
        .ok { value := ⟨none, ['!']⟩, after := cursor.next }
      else
        readShortTag cursor

/-- Read a tag, after which there has to be a gap. -/
def readTag (cursor : Cursor) : Except Refusal (Scanned TagName) :=
  match readTagName cursor with
  | .error refusal =>
      .error refusal
  | .ok scanned =>
      if isBreakNext scanned.after.rest then .ok scanned else scanned.after.refuseForm

/-- Read the name of an anchor, after which a node or a gap may start. -/
def readAnchor (cursor : Cursor) : Except Refusal (Scanned Text) :=
  let name := cursor.next.takeWhile isNameCharacter
  let ends :=
    endsOr fun character =>
      isSpace character || isLineEnd character || "?:,]\x7d%@\x60".toList.elem character
  if name.value.isEmpty || !ends name.after.rest then name.after.refuseForm else .ok name

end TenantSchema.Yaml
