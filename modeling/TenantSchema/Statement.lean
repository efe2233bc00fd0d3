import TenantSchema.Text.Blank

/-!
# Statement blocks

A script is cut into blocks.  A block carries the kind of its statement, its text, its place
among the blocks and the line that it starts on.
-/

namespace TenantSchema

/-- What a block of a script does. -/
inductive Kind where
  | createDatabase
  | createTable
  | insert
  | procedureBody
  | other
  deriving Repr, DecidableEq

namespace Kind

/-- The name of a kind in reports. -/
def name : Kind → String
  | .createDatabase =>
      "create_database"
  | .createTable =>
      "create_table"
  | .insert =>
      "insert"
  | .procedureBody =>
      "procedure_body"
  | .other =>
      "other"

/-- The kinds in the order of their declaration. -/
def all : List Kind :=
  [.createDatabase, .createTable, .insert, .procedureBody, .other]

/-- The kind of a name. -/
def ofName? (wanted : String) : Option Kind :=
  all.find? fun kind => kind.name == wanted

/-- Every kind is found again by its name. -/
theorem ofName?_name
    (kind : Kind) :
    ofName? kind.name = some kind := by
  cases kind <;> decide

end Kind

/-- One statement of a script. -/
structure Block where
  kind : Kind
  text : Text
  order : Int
  lineNumber : Int := 0
  deriving Repr, DecidableEq

namespace Block

/-- Whether a block holds nothing but white space. -/
def isBlank (block : Block) : Bool :=
  Text.allBlank block.text

/--
The statement on one line.  A text over the limit is cut so that three dots fit in the limit;
a limit below three leaves the dots alone.
-/
def preview (block : Block) (limit : Int) : Text :=
  let flat := Text.flatten block.text
  if (flat.length : Int) ≤ limit then
    flat
  else
    flat.take (limit - 3).toNat ++ ['.', '.', '.']

/-- The limit of a preview in messages that do not configure one. -/
def defaultPreviewLimit : Int :=
  80

end Block

end TenantSchema
