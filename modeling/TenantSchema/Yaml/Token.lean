import TenantSchema.Yaml.Block
import TenantSchema.Yaml.Directive
import TenantSchema.Yaml.Plain

/-!
# Tokens of a configuration file

A configuration file is read as a sequence of tokens.  Collections are opened and closed by
brackets or by indentation; the second kind leaves no characters of its own.
-/

namespace TenantSchema.Yaml

/-- A token of a configuration file. -/
inductive Token where
  | directive (directive : Directive)
  | documentStart
  | documentEnd
  | blockSequenceStart
  | blockMappingStart
  | blockEnd
  | flowSequenceStart
  | flowSequenceEnd
  | flowMappingStart
  | flowMappingEnd
  | flowEntry
  | entry
  | key
  | value
  | alias (name : Text)
  | anchor (name : Text)
  | tag (name : TagName)
  | scalar (text : CodeText) (plain : Bool)
  | textEnd
  deriving Repr, DecidableEq

/-- What starts at a place where a token has to. -/
inductive TokenStart where
  | directive
  | documentStart
  | documentEnd
  | flowStart (token : Token)
  | flowEnd (token : Token)
  | flowEntry
  | entry
  | key
  | value
  | alias
  | anchor
  | tag
  | block
  | quoted
  | plain
  | textEnd
  deriving Repr, DecidableEq

/-- How many characters have to be looked at to tell what starts at a place. -/
def startLength (inBrackets : Bool) (cursor : Cursor) : Nat :=
  match cursor.rest with
  | [] =>
      1
  | character :: _ =>
      match character with
      | '[' | ']' | '\x7b' | '\x7d' | ',' | '*' | '&' | '!' | '\'' | '"' =>
          1
      | '%' =>
          if cursor.column = 0 then 1 else 2
      | '?' | ':' =>
          if inBrackets then 1 else 2
      | '|' | '>' =>
          if inBrackets then 2 else 1
      | _ =>
          if isSpace character || isLineEnd character || indicators.elem character then 2 else 1

/-- Look at what has to be looked at to tell what starts at a place. -/
def lookAtStart (inBrackets : Bool) (cursor : Cursor) : Cursor :=
  let mayBeMark :=
    cursor.column == 0 && (cursor.rest.head?).any fun first => first == '-' || first == '.'
  if mayBeMark then cursor.lookForSeparator else cursor.look (startLength inBrackets cursor)

/-- What starts at a place, inside or outside brackets; the first fitting kind counts. -/
def TokenStart.ofCursor (inBrackets : Bool) (cursor : Cursor) : Except Refusal TokenStart :=
  let plain : Except Refusal TokenStart :=
    if startsPlain inBrackets cursor.rest then .ok .plain else cursor.refuseForm
  match cursor.rest with
  | [] =>
      .ok .textEnd
  | character :: rest =>
      let separated := inBrackets || isGapNext rest
      match character with
      | '%' =>
          if cursor.column = 0 then .ok .directive else plain
      | '-' =>
          if cursor.isAtMark '-' then
            .ok .documentStart
          else if isGapNext rest then
            .ok .entry
          else
            plain
      | '.' =>
          if cursor.isAtMark '.' then .ok .documentEnd else plain
      | '[' =>
          .ok (.flowStart .flowSequenceStart)
      | '\x7b' =>
          .ok (.flowStart .flowMappingStart)
      | ']' =>
          .ok (.flowEnd .flowSequenceEnd)
      | '\x7d' =>
          .ok (.flowEnd .flowMappingEnd)
      | ',' =>
          .ok .flowEntry
      | '?' =>
          if separated then .ok .key else plain
      | ':' =>
          if separated then .ok .value else plain
      | '*' =>
          .ok .alias
      | '&' =>
          .ok .anchor
      | '!' =>
          .ok .tag
      | '|' | '>' =>
          if inBrackets then plain else .ok .block
      | '\'' | '"' =>
          .ok .quoted
      | _ =>
          plain

end TenantSchema.Yaml
