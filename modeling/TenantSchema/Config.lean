import TenantSchema.Environment
import TenantSchema.FileTree
import TenantSchema.Plan
import TenantSchema.Text.Integer
import TenantSchema.Yaml.Document

/-!
# Configuration of runs

A run is configured by the section `provisioning` of a configuration file; a variable of the
environment that is set and not empty overrides one field.  A field that neither gives has a
default.  The preview limit of the file has to be a number even when it is overridden.
-/

namespace TenantSchema

/-- The configuration of runs. -/
structure Config where
  templatePath : Path
  placeholder : Text
  previewLimit : Int
  deriving Repr, DecidableEq

/-- Why a configuration cannot be used. -/
inductive ConfigError where
  | unreadableFile (fault : FileFault) (path : Path)
  | unreadableText (fault : Yaml.Fault)
  | notMapping (path : Path) (kindName : String)
  /-- The section is there and is no mapping. -/
  | notSection
  /-- The preview limit is a value that no number can be made of. -/
  | notNumber
  | integer (fault : Text.IntegerFault)
  /-- A number is too long to be written. -/
  | unwritable
  | infiniteNumber
  | notANumber
  | blankPlaceholder
  | previewNotPositive (limit : Int)
  deriving Repr, DecidableEq

/-- The wording of an error. -/
def ConfigError.message : ConfigError → String
  | .unreadableFile fault path =>
      fault.message path
  | .unreadableText fault =>
      fault.message
  | .notMapping path kindName =>
      "Config at " ++ Text.toOutput path.text ++ " must be a mapping, got: " ++ kindName
  | .notSection =>
      "the section is no mapping"
  | .notNumber =>
      "the preview limit is no number"
  | .integer fault =>
      fault.message
  | .unwritable =>
      Text.unwritableMessage
  | .infiniteNumber =>
      "cannot convert float infinity to integer"
  | .notANumber =>
      "cannot convert float NaN to integer"
  | .blankPlaceholder =>
      "PROVISIONING_DATABASE_PLACEHOLDER must be a non-empty string"
  | .previewNotPositive limit =>
      s!"PROVISIONING_STATEMENT_PREVIEW_CHARS must be > 0, got {limit}"

namespace Config

open Yaml

/-- The part of a run's settings that a configuration decides. -/
def runSettings (config : Config) : RunSettings :=
  { placeholder := config.placeholder, previewLimit := config.previewLimit }

/-- The variable that overrides the path of the template. -/
def templateVariable : String :=
  "PROVISIONING_TEMPLATE_PATH"

/-- The variable that overrides the placeholder. -/
def placeholderVariable : String :=
  "PROVISIONING_DATABASE_PLACEHOLDER"

/-- The variable that overrides the preview limit. -/
def previewVariable : String :=
  "PROVISIONING_STATEMENT_PREVIEW_CHARS"

/-- The key of the section that configures runs. -/
def sectionKey : String :=
  "provisioning"

/-- The key of the path of the template. -/
def templateKey : String :=
  "template_path"

/-- The key of the placeholder. -/
def placeholderKey : String :=
  "database_placeholder"

/-- The key of the preview limit. -/
def previewKey : String :=
  "statement_preview_chars"

/-- The path of the template unless configured otherwise. -/
def defaultTemplate : Text :=
  "sql/templates/tenant_schema.sql".toList

/-- The whole number that a text writes. -/
def integerOfText (text : Text) : Except ConfigError Int :=
  (Text.readInteger 10 text).mapError .integer

/-- The whole number of digits that stand for something else, which the message shows. -/
def integerOfDigits (digits : Text) (shown : String) : Except ConfigError Int :=
  match Text.readInteger 10 digits with
  | .ok number =>
      .ok number
  | .error (.invalid base _) =>
      .error (.integer (.invalid base shown))
  | .error fault =>
      .error (.integer fault)

/-- A byte as a character of a number; beyond the seven-bit range there is none. -/
def numeralOf (byte : UInt8) : Char :=
  if byte < 128 then Char.ofNat byte.toNat else '?'

/-- The whole number that a value makes: decimals are cut, texts and bytes are read. -/
def integerOfValue : Value → Except ConfigError Int
  | .bool value =>
      .ok (if value then 1 else 0)
  | .int value =>
      .ok value
  | .float (.finite negative significand exponent) =>
      .ok (Decimal.truncate negative significand exponent)
  | .float (.infinite _) =>
      .error .infiniteNumber
  | .float .notANumber | .notANumber _ =>
      .error .notANumber
  | .text text =>
      integerOfDigits text.replaced text.quoted
  | .bytes bytes =>
      integerOfDigits (bytes.map numeralOf) (Text.quotedBytes bytes)
  | _ =>
      .error .notNumber

/-- The section that configures runs; one that counts as absent has no entries. -/
def sectionOf (entries : List (Value × Value)) : Except ConfigError (List (Value × Value)) :=
  let value := (lookup? entries sectionKey.toList).getD .null
  if value.isPresent then
    match value with
    | .mapping entries =>
        .ok entries
    | _ =>
        .error .notSection
  else
    .ok []

/-- The text of a value, if all its numbers can be written. -/
def textOfValue (value : Value) : Except ConfigError Text :=
  if value.isWritable then .ok value.asText else .error .unwritable

/-- A text field: the override, or the text of the value, or the default. -/
def textField
    (environment : Environment)
    (variableName : String)
    (entries : List (Value × Value))
    (key : String)
    (fallback : Text) :
    Except ConfigError Text :=
  match environment.getNonempty? variableName with
  | some override =>
      .ok override
  | none =>
      match lookup? entries key.toList with
      | some value =>
          textOfValue value
      | none =>
          .ok fallback

/-- The preview limit: the number of the file is made first, then an override is read. -/
def previewField
    (environment : Environment)
    (entries : List (Value × Value)) :
    Except ConfigError Int :=
  let given :=
    (lookup? entries previewKey.toList).getD (.int Applier.defaultPreviewLimit)
  match integerOfValue given with
  | .error error =>
      .error error
  | .ok number =>
      match environment.getNonempty? previewVariable with
      | none =>
          .ok number
      | some override =>
          integerOfText override

/-- Accept a preview limit that is greater than zero. -/
def checkPreview (limit : Int) : Except ConfigError Int :=
  if 0 < limit then
    .ok limit
  else if Text.isWritable limit then
    .error (.previewNotPositive limit)
  else
    .error .unwritable

/-- Accept a placeholder that is not blank. -/
def checkPlaceholder (placeholder : Text) : Except ConfigError Text :=
  if Text.allBlank placeholder then .error .blankPlaceholder else .ok placeholder

/-- The configuration that a section and the environment give. -/
def ofSection
    (root : Path)
    (environment : Environment)
    (entries : List (Value × Value)) :
    Except ConfigError Config := do
  let template ← textField environment templateVariable entries templateKey defaultTemplate
  let given ←
    textField environment placeholderVariable entries placeholderKey Script.defaultPlaceholder
  let limit ← previewField environment entries
  let placeholder ← checkPlaceholder given
  let previewLimit ← checkPreview limit
  .ok {
    templatePath := Path.under root (.ofText template)
    placeholder := placeholder
    previewLimit := previewLimit
  }

/-- The configuration that the entries of a file and the environment give. -/
def ofEntries
    (root : Path)
    (environment : Environment)
    (entries : List (Value × Value)) :
    Except ConfigError Config :=
  (sectionOf entries).bind (ofSection root environment)

/-- The entries of a file; a value that counts as absent has none. -/
def entriesOf (path : Path) (value : Value) : Except ConfigError (List (Value × Value)) :=
  if value.isPresent then
    match value with
    | .mapping entries =>
        .ok entries
    | other =>
        .error (.notMapping path other.kindName)
  else
    .ok []

/-- The keys that configure runs, level by level. -/
def outline : List (List Text) :=
  [
    [sectionKey.toList],
    [templateKey.toList, placeholderKey.toList, previewKey.toList]
  ]

/-- The entries of the file with the given content, as far as they configure runs. -/
def parse (path : Path) (bytes : List UInt8) : Except ConfigError (List (Value × Value)) :=
  match Yaml.Document.ofSource (.ofBytes bytes) with
  | .error fault =>
      .error (.unreadableText fault)
  | .ok document =>
      entriesOf path (document.outline outline)

/-- The entries of the file at a path; a file that is not there has none. -/
def entriesAt (tree : FileTree) (path : Path) :
    Except ConfigError (List (Value × Value)) :=
  if path.hasNul then
    .ok []
  else
    match tree.readFile path with
    | .error .notFound | .error .notDirectory =>
        .ok []
    | .error fault =>
        .error (.unreadableFile fault path)
    | .ok bytes =>
        parse path bytes

/-- Load the configuration of a file, for a project whose files lie under `root`. -/
def load
    (tree : FileTree)
    (root : Path)
    (environment : Environment)
    (path : Path) :
    Except ConfigError Config :=
  (entriesAt tree path).bind (ofEntries root environment)

/-- The path of the packaged configuration below the root of a project. -/
def packagedPath (root : Path) : Path :=
  Path.under root (.ofText "configs/provisioning.yaml".toList)

end Config

end TenantSchema
