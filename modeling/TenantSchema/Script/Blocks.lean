import TenantSchema.Script.Scan
import TenantSchema.Text.Lines

/-!
# The blocks of a script

The blocks that a scan finishes are numbered from zero in the order of their lines.
-/

namespace TenantSchema.Script

/-- Give every finished block its place, the first one the given place. -/
def numberDrafts (place : Nat) : List Draft → List Block
  | [] =>
      []
  | draft :: rest =>
      {
        kind := draft.kind
        text := draft.text
        order := place
        lineNumber := draft.lineNumber
      } :: numberDrafts (place + 1) rest

/-- A script that was read: its blocks or why there are none, the notes and the last state. -/
structure Reading where
  blocks : Except ScriptError (List Block)
  notes : List Note
  state : ScanState

/-- Cut a script into blocks. -/
def read (substitution : Substitution) (script : Text) : Reading :=
  let scan := scanLines substitution .outside 1 (Text.lines script)
  match scan.failure with
  | some failure =>
      { blocks := .error failure, notes := scan.notes, state := scan.state }
  | none =>
      {
        blocks := .ok (numberDrafts 0 scan.drafts)
        notes := scan.notes ++ [.scriptRead scan.drafts.length]
        state := scan.state
      }

/-- Numbering keeps every block. -/
@[simp] theorem length_numberDrafts
    (place : Nat)
    (drafts : List Draft) :
    (numberDrafts place drafts).length = drafts.length := by
  induction drafts generalizing place with
  | nil =>
      rfl
  | cons draft rest inductionHypothesis =>
      simp [numberDrafts, inductionHypothesis]

/-- The blocks of a script are those of its scan, if that meets no error. -/
theorem blocks_eq_ok_iff
    {substitution : Substitution}
    {script : Text}
    {blocks : List Block} :
    (read substitution script).blocks = .ok blocks ↔
      (scanLines substitution .outside 1 (Text.lines script)).failure = none ∧
        blocks =
          numberDrafts 0 (scanLines substitution .outside 1 (Text.lines script)).drafts := by
  unfold read
  dsimp only
  cases (scanLines substitution .outside 1 (Text.lines script)).failure with
  | none =>
      simp [eq_comm]
  | some failure =>
      simp

/-- A script has no blocks exactly if its scan meets an error. -/
theorem blocks_eq_error_iff
    {substitution : Substitution}
    {script : Text}
    {failure : ScriptError} :
    (read substitution script).blocks = .error failure ↔
      (scanLines substitution .outside 1 (Text.lines script)).failure = some failure := by
  unfold read
  dsimp only
  cases (scanLines substitution .outside 1 (Text.lines script)).failure with
  | none =>
      simp
  | some failure =>
      simp

end TenantSchema.Script
