import TenantSchema.Table.Name

/-!
# The ledger and the index of a run

The ledger lists the tables created so far, in order.  The index lists the tables that the
blocks of a script define; the first definition of a name counts.
-/

namespace TenantSchema.Table

/-- The tables created so far, each once, in the order of their creation. -/
structure Ledger where
  names : List Text
  namesDistinct : names.Nodup
  deriving Repr, DecidableEq

namespace Ledger

/-- The ledger before anything was created. -/
def empty : Ledger :=
  { names := [], namesDistinct := List.nodup_nil }

/-- Add a table at the end, unless it is there already. -/
def record? (ledger : Ledger) (name : Text) : Option Ledger :=
  if known : name ∈ ledger.names then
    none
  else
    some {
      names := ledger.names ++ [name]
      namesDistinct := by
        rw [List.nodup_append]
        refine ⟨ledger.namesDistinct, by simp, ?_⟩
        intro member memberKnown other otherSame
        simp only [List.mem_singleton] at otherSame
        intro same
        exact known (otherSame ▸ same ▸ memberKnown)
    }

/-- A table is refused exactly when it is in the ledger. -/
theorem record?_eq_none_iff
    {ledger : Ledger}
    {name : Text} :
    ledger.record? name = none ↔ name ∈ ledger.names := by
  by_cases known : name ∈ ledger.names <;> simp [record?, known]

/-- An accepted table is the last of the new ledger. -/
theorem names_of_record?
    {ledger later : Ledger}
    {name : Text}
    (recorded : ledger.record? name = some later) :
    later.names = ledger.names ++ [name] := by
  by_cases known : name ∈ ledger.names
  · simp [record?, known] at recorded
  · simp only [record?, known, dite_false, Option.some.injEq] at recorded
    rw [← recorded]

end Ledger

/-- The definitions of a script by table name. -/
structure Index where
  definitions : List (Text × Block)
  deriving Repr, DecidableEq

namespace Index

/-- The first definition of a name. -/
def find? (index : Index) (name : Text) : Option Block :=
  (index.definitions.find? (·.1 == name)).map (·.2)

/-- The names that are defined. -/
def names (index : Index) : List Text :=
  index.definitions.map (·.1)

/-- Add a definition, unless its name is defined already. -/
def add (index : Index) (name : Text) (block : Block) : Index :=
  if name ∈ index.names then
    index
  else
    { definitions := index.definitions ++ [(name, block)] }

/-- Whether a block takes part in the index. -/
def isDefinition (block : Block) : Bool :=
  block.kind == .createTable && !block.isBlank

/-- Add the definitions among the blocks; the first one without a name is an error. -/
def addAll (index : Index) : List Block → Except Block Index
  | [] =>
      .ok index
  | block :: rest =>
      if isDefinition block then
        match nameOf? block with
        | none =>
            .error block
        | some name =>
            addAll (index.add name block) rest
      else
        addAll index rest

/-- The index of the blocks, or the first definition that has no name. -/
def ofBlocks (blocks : List Block) : Except Block Index :=
  addAll { definitions := [] } blocks

/-- A name is defined exactly when it is among the names of the index. -/
theorem find?_isSome_iff
    {index : Index}
    {name : Text} :
    (index.find? name).isSome = true ↔ name ∈ index.names := by
  simp [find?, names]

end Index

end TenantSchema.Table
