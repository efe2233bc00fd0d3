import TenantSchema.Statement
import TenantSchema.Text.Keyword

/-!
# Names of tables

A table definition starts with `CREATE TABLE`, perhaps `IF NOT EXISTS`, the name of the table
and an opening bracket.  Foreign keys name other tables after the word `REFERENCES`.
-/

namespace TenantSchema.Table

open Text

/-- The identifier at the start of a text and what follows the bracket after it. -/
def identifierBeforeBracket? (text : Text) : Option (Text × Text) :=
  match takeWord? text with
  | none =>
      none
  | some (identifier, rest) =>
      match trimLeft rest with
      | '(' :: after =>
          some (identifier, after)
      | _ =>
          none

/-- What follows the words `IF NOT EXISTS` and the white space after them. -/
def dropIfNotExists? (text : Text) : Option Text :=
  ((((dropKeyword? "if".toList text).bind dropBlanks?).bind
    fun afterIf => (dropKeyword? "not".toList afterIf).bind dropBlanks?).bind
    fun afterNot => (dropKeyword? "exists".toList afterNot).bind dropBlanks?)

/-- What follows the words `CREATE TABLE` and the white space after them. -/
def dropCreateTable? (text : Text) : Option Text :=
  ((dropKeyword? "create".toList text).bind dropBlanks?).bind
    fun afterCreate => (dropKeyword? "table".toList afterCreate).bind dropBlanks?

/--
The name that a trimmed table definition gives to its table.  `IF NOT EXISTS` is passed over
if a name follows it; otherwise `IF` may be the name itself.
-/
def definedName? (definition : Text) : Option Text :=
  (dropCreateTable? definition).bind fun rest =>
    match (dropIfNotExists? rest).bind identifierBeforeBracket? with
    | some (name, _) =>
        some name
    | none =>
        (identifierBeforeBracket? rest).map (·.1)

/-- The name of the table that a block defines. -/
def nameOf? (block : Block) : Option Text :=
  definedName? (trim block.text)

/-- The table named by a reference at the start of a text, and what follows the reference. -/
def referenceAt? (text : Text) : Option (Text × Text) :=
  ((dropKeyword? "references".toList text).bind dropBlanks?).bind identifierBeforeBracket?

/--
The tables named by references, found from left to right without overlap.  `pending` counts
the characters of the current reference that are still to be passed over.
-/
def referencesFrom : Nat → Text → List Text
  | _, [] =>
      []
  | pending + 1, _ :: rest =>
      referencesFrom pending rest
  | 0, character :: rest =>
      match referenceAt? (character :: rest) with
      | some (name, after) =>
          name :: referencesFrom (rest.length - after.length) rest
      | none =>
          referencesFrom 0 rest

/-- The members of a list without repetition, each where it first stands. -/
def distinct : List Text → List Text
  | [] =>
      []
  | name :: rest =>
      name :: (distinct rest).filter (· != name)

/-- The tables that a definition refers to, each once, in the order of first appearance. -/
def references (definition : Text) : List Text :=
  distinct (referencesFrom 0 definition)

/-- A list without repetition has the members of the list it was made from. -/
theorem mem_distinct_iff
    {name : Text}
    {names : List Text} :
    name ∈ distinct names ↔ name ∈ names := by
  induction names with
  | nil =>
      simp [distinct]
  | cons first rest inductionHypothesis =>
      by_cases same : name = first <;>
        simp [distinct, same, inductionHypothesis]

/-- No name is left twice. -/
theorem nodup_distinct
    (names : List Text) :
    (distinct names).Nodup := by
  induction names with
  | nil =>
      simp [distinct]
  | cons first rest inductionHypothesis =>
      refine List.nodup_cons.2 ⟨?_, inductionHypothesis.filter _⟩
      simp

end TenantSchema.Table
