import TenantSchema.Proofs.Text.Encoding
import TenantSchema.Proofs.Text.NewlineTranslation
import TenantSchema.Script.Blocks
import TenantSchema.Template.Load

namespace TenantSchema

open Text

/-!
# Scripts loaded from files

A script is loaded with its newlines translated, and then it is cut at boundaries of lines, of which
newlines are only one kind.  The two do not get into each other's way: what is read from a loaded
script, up to the number of every line, is what is read from the text in its file.
-/

namespace Template

/-- A file that holds a text in UTF-8 is loaded as that text with translated newlines. -/
theorem load_of_readFile
    {tree : FileTree}
    {path : Path}
    {text : Text}
    (named : path.hasNul = false)
    (stored : tree.readFile path = .ok (Utf8.encode text)) :
    load tree path = .ok (translateNewlines text) := by
  have noNul : ¬ path.hasNul = true := by
    rw [named]
    exact Bool.false_ne_true
  rw [load, if_neg noNul, stored]
  dsimp only
  rw [Utf8.decode?_encode]

end Template

namespace Script

/-- Nothing but its lines is read from a script. -/
theorem read_congr
    {first second : Text}
    (sameLines : lines first = lines second)
    (substitution : Substitution) :
    read substitution first = read substitution second := by
  rw [read, read, sameLines]

/--
Whatever mixture of line boundaries a file holds, its script is loaded with a newline for every
carriage return, with or without a newline behind it.  The loaded script has the blocks of the text
in the file, each with its line number, or it is refused with the same error.
-/
theorem loaded_script_reads_as_stored
    {tree : FileTree}
    {path : Path}
    {text : Text}
    (named : path.hasNul = false)
    (stored : tree.readFile path = .ok (Utf8.encode text)) :
    ∃ loaded,
      Template.load tree path = .ok loaded ∧
        loaded = replaceAll ['\r'] ['\n'] (replaceAll ['\r', '\n'] ['\n'] text) ∧
        '\r' ∉ loaded ∧
        ∀ substitution, read substitution loaded = read substitution text := by
  have sameLines : lines (translateNewlines text) = lines text := lines_translateNewlines text
  exact ⟨translateNewlines text, Template.load_of_readFile named stored,
    translateNewlines_eq_replaceAll text, not_mem_translateNewlines text, read_congr sameLines⟩

namespace Sample

/-- A script whose lines end in many ways, with two carriage returns before a newline. -/
def mixed : Text :=
  ("CREATE TABLE t (\r\r\n  id INT\u2028) ENGINE=InnoDB;\r\n\x0bINSERT INTO t VALUES (1);\r" ++
    "DELIMITER ;;\nSELECT 1;;\r\nDELIMITER ;\r").toList

/-- Where a script is kept. -/
def scriptPath : Path :=
  .ofText "mixed.sql".toList

/-- A directory with one script in it. -/
def directoryOf (content : List UInt8) : FileTree :=
  { files := [(["mixed.sql".toList], content)], directories := [], working := .ofText [] }

theorem readFile_directoryOf (content : List UInt8) :
    (directoryOf content).readFile scriptPath = .ok content :=
  rfl

end Sample

/-- Blocks behind boundaries of five kinds are found where the text in the file has them. -/
theorem mixed_boundaries_read_as_stored :
    let tree := Sample.directoryOf (Utf8.encode Sample.mixed)
    let acme : Substitution := { placeholder := defaultPlaceholder, target := "acme".toList }
    Sample.scriptPath.hasNul = false ∧
      tree.readFile Sample.scriptPath = .ok (Utf8.encode Sample.mixed) ∧
      (∃ loaded,
        Template.load tree Sample.scriptPath = .ok loaded ∧
          loaded =
            replaceAll ['\r'] ['\n'] (replaceAll ['\r', '\n'] ['\n'] Sample.mixed) ∧
          '\r' ∉ loaded ∧
          ∀ substitution, read substitution loaded = read substitution Sample.mixed) ∧
      (read acme Sample.mixed).blocks.toOption.map (·.map (·.lineNumber)) = some [1, 6, 8] := by
  intro tree acme
  have named : Sample.scriptPath.hasNul = false := by
    decide +kernel
  have stored := Sample.readFile_directoryOf (Utf8.encode Sample.mixed)
  have numbers :
      (read acme Sample.mixed).blocks.toOption.map (·.map (·.lineNumber)) = some [1, 6, 8] := by
    decide +kernel
  exact ⟨named, stored, loaded_script_reads_as_stored named stored, numbers⟩

end Script

end TenantSchema
