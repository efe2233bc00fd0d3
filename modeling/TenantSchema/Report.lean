import TenantSchema.Provision
import TenantSchema.Template.Load
import TenantSchema.Text.Hex

/-!
# Reports

Results and errors are reported as values of fields in a fixed order.  A report is written
over several lines, each level two spaces further in, with characters beyond the seven-bit
range escaped.
-/

namespace TenantSchema

/-- A value of a report. -/
inductive Report where
  | null
  | bool (value : Bool)
  | number (value : Int)
  | text (value : String)
  | list (items : List Report)
  | fields (entries : List (String × Report))
  deriving Repr

namespace Report

/-- A text as a value of a report. -/
def ofText (text : Text) : Report :=
  .text (Text.toOutput text)

/-- A value that may be absent. -/
def ofOption {Value : Type} (report : Value → Report) (value : Option Value) : Report :=
  value.elim .null report

/-- A code unit of sixteen bits as an escape. -/
def escapeUnit (unit : Nat) : Text :=
  '\\' :: 'u' :: Text.hexDigits 4 unit

/-- The written form of one character. -/
def escapeCharacter (character : Char) : Text :=
  let code := character.toNat
  if character = '"' ∨ character = '\\' then
    ['\\', character]
  else if character = '\n' then
    ['\\', 'n']
  else if character = '\r' then
    ['\\', 'r']
  else if character = '\t' then
    ['\\', 't']
  else if code = 8 then
    ['\\', 'b']
  else if code = 12 then
    ['\\', 'f']
  else if 32 ≤ code ∧ code ≤ 126 then
    [character]
  else if code < 0x10000 then
    escapeUnit code
  else
    escapeUnit (0xD800 + (code - 0x10000) / 0x400) ++
      escapeUnit (0xDC00 + (code - 0x10000) % 0x400)

/-- The written form of a text. -/
def quote (value : String) : String :=
  Text.toOutput ('"' :: value.toList.flatMap escapeCharacter ++ ['"'])

/-- The start of a line of a level. -/
def indentation (level : Nat) : String :=
  String.ofList (List.replicate (2 * level) ' ')

/-- Parts between brackets, each on a line of its own. -/
def bracketed (opening closing : String) (level : Nat) (parts : List String) : String :=
  if parts.isEmpty then
    opening ++ closing
  else
    let lines := parts.map fun part => "\n" ++ indentation (level + 1) ++ part
    opening ++ String.intercalate "," lines ++ "\n" ++ indentation level ++ closing

mutual

/-- The written form of a value at a level. -/
def render (level : Nat) : Report → String
  | .null =>
      "null"
  | .bool value =>
      if value then "true" else "false"
  | .number value =>
      toString value
  | .text value =>
      quote value
  | .list items =>
      bracketed "[" "]" level (renderItems (level + 1) items)
  | .fields entries =>
      bracketed "\x7b" "\x7d" level (renderEntries (level + 1) entries)

/-- The written forms of the items of a list. -/
def renderItems (level : Nat) : List Report → List String
  | [] =>
      []
  | item :: rest =>
      render level item :: renderItems level rest

/-- The written forms of fields. -/
def renderEntries (level : Nat) : List (String × Report) → List String
  | [] =>
      []
  | (name, value) :: rest =>
      (quote name ++ ": " ++ render level value) :: renderEntries level rest

end

/-- The field of a name. -/
def field? (name : String) : Report → Option Report
  | .fields entries =>
      (entries.find? (·.1 == name)).map (·.2)
  | _ =>
      none

/-- A report without the field of a name. -/
def withoutField (name : String) : Report → Report
  | .fields entries =>
      .fields (entries.filter (·.1 != name))
  | other =>
      other

/-- A report with a further field at the end. -/
def withField (report : Report) (name : String) (value : Report) : Report :=
  match report with
  | .fields entries =>
      .fields (entries ++ [(name, value)])
  | other =>
      other

/-- A further field hides none of another name. -/
theorem field?_withField_of_ne
    {name other : String}
    (different : other ≠ name)
    (report value : Report) :
    (report.withField other value).field? name = report.field? name := by
  cases report with
  | fields entries =>
      simp [withField, field?, List.find?_append, different]
  | null | bool | number | text | list =>
      rfl

end Report

/-- The report of a block. -/
def Block.report (block : Block) : Report :=
  .fields [
    ("kind", .text block.kind.name),
    ("order", .number block.order),
    ("line_number", .number block.lineNumber),
    ("text", .ofText block.text)
  ]

/-- The report of what applying blocks came to. -/
def ApplyResult.report (result : ApplyResult) : Report :=
  let statement := result.failure.bind (·.statement)
  let diagnostic := result.failure.map (·.diagnostic)
  let kind := result.failure.map (·.kind.name)
  .fields [
    ("success", .bool result.success),
    ("failed_statement_text", .ofOption .ofText statement),
    ("diagnostic", .ofOption .text diagnostic),
    ("error_kind", .ofOption .text kind),
    ("created_tables", .list (result.createdTables.map .ofText)),
    ("executed_statements", .number result.executedStatements)
  ]

/-- The report of a plan. -/
def Plan.report (plan : Plan) : Report :=
  .fields [
    ("database_name", .ofText plan.name),
    ("success", .bool plan.result.success),
    ("block_count", .number plan.blockCount),
    ("statements", .list (plan.statements.map .ofText)),
    ("result", plan.result.report)
  ]

/-- The report of a provisioning run, with its blocks or without. -/
def ProvisionResult.report (result : ProvisionResult) (withBlocks : Bool) : Report :=
  let summary : List (String × Report) := [
    ("database_name", .ofText result.name),
    ("success", .bool result.applied.success),
    ("block_count", .number result.blocks.length),
    ("result", result.applied.report)
  ]
  let blocks : List (String × Report) := [("blocks", .list (result.blocks.map Block.report))]
  .fields (if withBlocks then summary ++ blocks else summary)

/-- The details of an error of a script. -/
def Script.ScriptError.details (error : Script.ScriptError) : Report :=
  let line : String × Report := ("line_number", .number error.line)
  match error.token? with
  | none =>
      .fields [line]
  | some token =>
      .fields [line, ("delimiter", .ofText token)]

/-- The details of a definition without a name. -/
def Table.malformedDetails (block : Block) : Report :=
  .fields [
    ("order", .number block.order),
    ("line_number", .number block.lineNumber),
    ("statement", .ofText block.text)
  ]

/-- The details of a circle of references. -/
def Table.cyclicDetails (cycle : List Text) : Report :=
  .fields [("cycle", .list (cycle.map .ofText))]

/-- The details of a template that cannot be read. -/
def Template.LoadError.details (error : Template.LoadError) : Report :=
  match error.reason? with
  | none =>
      .fields []
  | some (reason, path) =>
      .fields [("template_path", .ofText path.text), ("reason", .text reason)]

/-- The kind of errors of scripts and templates in reports. -/
def parseErrorKind : String :=
  "parse_error"

/-- The kind of errors of arguments in reports. -/
def invalidArgumentKind : String :=
  "invalid_argument"

/-- The report of an error that keeps a run from taking place. -/
def Report.ofError (kind diagnostic : String) (details : Report) : Report :=
  .fields [
    ("success", .bool false),
    ("error_kind", .text kind),
    ("diagnostic", .text diagnostic),
    ("details", details)
  ]

/-- The report of an error of a run; an error that is not handled has none. -/
def RunError.report? (error : RunError) : Option Report :=
  match error with
  | .script scriptError =>
      some (.ofError parseErrorKind error.message scriptError.details)
  | .noDatabase =>
      some (.ofError parseErrorKind error.message (.fields []))
  | .invalidName _ | .nameless | .substitution _ =>
      some (.ofError invalidArgumentKind error.message (.fields []))
  | .unhandled _ =>
      none

/-- The report of a template that cannot be read. -/
def Template.LoadError.report (error : Template.LoadError) : Report :=
  match error with
  | .impossibleName =>
      .ofError invalidArgumentKind error.message (.fields [])
  | .unreadableFile _ _ | .undecodable _ _ =>
      .ofError parseErrorKind error.message error.details

end TenantSchema
