import TenantSchema.Yaml.Tag

/-!
# Directives

A line in front of a document may say which version the document is written in or what the
handle of a tag means.  Other directives are passed over.
-/

namespace TenantSchema.Yaml

/-- What a line in front of a document says about reading it. -/
inductive Directive where
  | version (major : Int)
  | handle (handle lead : Text)
  | other
  deriving Repr, DecidableEq

namespace Directive

/-- Read the digits of a part of a version. -/
def readNumber (cursor : Cursor) : Except Refusal (Scanned Int) :=
  let digits := cursor.takeWhile Char.isDigit
  if digits.value.isEmpty then
    cursor.refuseForm
  else
    match Text.readInteger 10 digits.value with
    | .error fault =>
        digits.after.refuse (.integer fault)
    | .ok number =>
        .ok { value := number, after := digits.after }

/-- Go on after a part, which has to end where the cursor stands. -/
def endPart {α : Type} (scanned : Scanned α) : Except Refusal (Scanned α) :=
  if isBreakNext scanned.after.rest then .ok scanned else scanned.after.refuseForm

/-- Read a version: two numbers with a point between them. -/
def readVersion (cursor : Cursor) : Except Refusal (Scanned Directive) := do
  let major ← readNumber cursor.skipSpaces
  match major.after.rest with
  | '.' :: _ =>
      let minor ← readNumber major.after.next
      endPart (minor.map fun _ => .version major.value)
  | _ =>
      major.after.refuseForm

/-- Read the meaning of a handle. -/
def readMeaning (cursor : Cursor) : Except Refusal (Scanned Directive) := do
  let handle ← readHandle cursor.skipSpaces
  match handle.after.rest with
  | ' ' :: _ =>
      let lead ← readTagCharacters handle.after.skipSpaces
      endPart (lead.map fun lead => .handle handle.value lead)
  | _ =>
      handle.after.refuseForm

/-- Read a directive whose mark comes next, together with its line. -/
def read (cursor : Cursor) : Except Refusal (Scanned Directive) := do
  let name := cursor.next.takeWhile isNameCharacter
  if name.value.isEmpty then
    name.after.refuseForm
  else
    let name ← endPart name
    let directive ←
      if name.value = "YAML".toList then
        readVersion name.after
      else if name.value = "TAG".toList then
        readMeaning name.after
      else
        .ok { value := .other, after := name.after.skipWhile (!isLineEnd ·) }
    let next ← directive.after.skipLineTail
    .ok { value := directive.value, after := next }

end Directive

end TenantSchema.Yaml
