import Mathlib.Data.List.Forall2
import TenantSchema.Proofs.Outcome
import TenantSchema.Proofs.Script.Division

namespace TenantSchema

open Text

/-!
# Reading a script for two names

The name of the database is put into blocks that create one, and nothing else of a block
depends on it.  How a script is divided depends on the placeholder alone, so two names that
take its place are both refused with one error, or they give blocks that differ at most in
the texts of those that create the database.
-/

/-- Blocks that differ at most in the name that is put into their text. -/
structure Block.SameButForName (first second : Block) : Prop where
  kind :
    first.kind = second.kind
  order :
    first.order = second.order
  lineNumber :
    first.lineNumber = second.lineNumber
  text :
    first.kind ≠ .createDatabase → first.text = second.text

theorem Block.SameButForName.refl
    (block : Block) :
    block.SameButForName block where
  kind := rfl
  order := rfl
  lineNumber := rfl
  text := fun _ => rfl

namespace Script

/-- What passages become for two names differs at most in the blocks that create a database. -/
theorem forall₂_numberDrafts_draftsOf
    (first second : Substitution)
    (place lineNumber : Nat)
    (passages : List Passage)
    (later : List Draft) :
    List.Forall₂ Block.SameButForName
      (numberDrafts place (draftsOf first lineNumber passages ++ later))
      (numberDrafts place (draftsOf second lineNumber passages ++ later)) := by
  induction passages generalizing place lineNumber with
  | nil =>
      exact List.forall₂_same.mpr fun block _ => .refl block
  | cons passage rest inductionHypothesis =>
      rw [draftsOf, draftsOf, List.append_assoc, List.append_assoc]
      cases passage with
      | database line =>
          refine .cons ⟨rfl, rfl, rfl, ?_⟩ (inductionHypothesis _ _)
          intro other
          exact (other rfl).elim
      | skipped line =>
          exact inductionHypothesis _ _
      | insert line | definition form first rest =>
          exact .cons (.refl _) (inductionHypothesis _ _)
      | delimited token marker body closing =>
          rw [Passage.draft?, Passage.draft?]
          split
          · exact inductionHypothesis _ _
          · exact .cons (.refl _) (inductionHypothesis _ _)

/-- A script that is read for two names in the place of one placeholder. -/
theorem sameOutcome_read
    (first second : Substitution)
    (samePlaceholder : first.placeholder = second.placeholder)
    (script : Text) :
    SameOutcome (List.Forall₂ Block.SameButForName)
      (read first script).blocks (read second script).blocks := by
  obtain ⟨passages, ending, divides⟩ :=
    exists_divides first.placeholder (Text.lines script)
  have dividesSecond := divides
  rw [samePlaceholder] at dividesSecond
  rw [blocks_of_divides divides, blocks_of_divides dividesSecond, samePlaceholder]
  dsimp only
  generalize ending.scan second.placeholder (1 + (linesOf passages).length) = rest
  cases rest.failure with
  | some failure =>
      exact .error failure
  | none =>
      exact .ok (forall₂_numberDrafts_draftsOf first second 0 1 passages rest.drafts)

end Script

end TenantSchema
