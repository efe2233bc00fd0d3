import TenantSchema.Applier

namespace TenantSchema

/-!
# Blocks that the applier passes over

The statement that creates the database belongs to another connection.  The applier passes
over blocks of that kind, so a run over blocks is the run over the others among them.
-/

/-- Whether a block is meant for a database that exists. -/
def Block.fillsDatabase (block : Block) : Bool :=
  block.kind != .createDatabase

theorem Block.fillsDatabase_eq_false_iff
    {block : Block} :
    block.fillsDatabase = false ↔ block.kind = .createDatabase := by
  simp [fillsDatabase]

namespace Table.Index

theorem isDefinition_of_createDatabase
    {block : Block}
    (creates : block.kind = .createDatabase) :
    isDefinition block = false := by
  rw [isDefinition, creates]
  rfl

/-- The index of a script is the one of any of its blocks among which all definitions are. -/
theorem addAll_filter
    {keeps : Block → Bool}
    (keepsDefinitions : ∀ block, isDefinition block = true → keeps block = true)
    (index : Index)
    (blocks : List Block) :
    index.addAll (blocks.filter keeps) = index.addAll blocks := by
  induction blocks generalizing index with
  | nil =>
      rfl
  | cons block rest inductionHypothesis =>
      cases kept : keeps block with
      | true =>
          rw [List.filter_cons_of_pos kept, addAll, addAll]
          simp only [inductionHypothesis]
      | false =>
          have noDefinition : ¬ isDefinition block = true := by
            intro definition
            rw [keepsDefinitions block definition] at kept
            cases kept
          rw [List.filter_cons_of_neg (by simp [kept]), inductionHypothesis, addAll,
            if_neg noDefinition]

theorem fillsDatabase_of_isDefinition
    {block : Block}
    (definition : isDefinition block = true) :
    block.fillsDatabase = true := by
  cases fills : block.fillsDatabase with
  | true =>
      rfl
  | false =>
      rw [isDefinition_of_createDatabase (Block.fillsDatabase_eq_false_iff.mp fills)]
        at definition
      cases definition

end Table.Index

namespace Applier

open Table

section

variable {Cause World : Type}

theorem applyBlock_of_createDatabase
    {index : Index}
    {action : Action Cause World}
    {block : Block}
    {session : Session World}
    (creates : block.kind = .createDatabase) :
    applyBlock index action block session = .done session := by
  rw [applyBlock, if_pos (.inl creates)]

/-- Applying blocks is applying those that fill the database. -/
theorem applyEach_filter_fillsDatabase
    (index : Index)
    (action : Action Cause World)
    (blocks : List Block)
    (session : Session World) :
    applyEach index action (blocks.filter Block.fillsDatabase) session =
      applyEach index action blocks session := by
  induction blocks generalizing session with
  | nil =>
      rfl
  | cons block rest inductionHypothesis =>
      cases fills : block.fillsDatabase with
      | true =>
          rw [List.filter_cons_of_pos fills, applyEach, applyEach]
          simp only [inductionHypothesis]
      | false =>
          have passed : applyBlock index action block session = .done session :=
            applyBlock_of_createDatabase (Block.fillsDatabase_eq_false_iff.mp fills)
          rw [List.filter_cons_of_neg (by simp [fills]), inductionHypothesis, applyEach,
            passed]

end

/-- A run over blocks is the run over those that fill the database. -/
theorem run_filter_fillsDatabase
    (connection : Connection)
    (history : History)
    (blocks : List Block) :
    run connection history (blocks.filter Block.fillsDatabase) =
      run connection history blocks := by
  have sameIndex :
      Index.ofBlocks (blocks.filter Block.fillsDatabase) = Index.ofBlocks blocks :=
    Index.addAll_filter (fun _ => Index.fillsDatabase_of_isDefinition) _ blocks
  simp only [run, sameIndex, applyEach_filter_fillsDatabase]

end Applier

end TenantSchema
