import TenantSchema.FileTree
import TenantSchema.Text.Lines

/-!
# Loading a template

A template is a file in UTF-8.  A byte-order mark stays; carriage returns become newlines.
-/

namespace TenantSchema.Template

/-- Why a template cannot be read. -/
inductive LoadError where
  | unreadableFile (fault : FileFault) (path : Path)
  | undecodable (fault : Text.Utf8.Fault) (path : Path)
  /-- No file can have such a name. -/
  | impossibleName
  deriving Repr, DecidableEq

namespace LoadError

/-- The wording of an error. -/
def message : LoadError → String
  | .unreadableFile _ path | .undecodable _ path =>
      "Failed to read template resource: " ++ Text.toOutput path.text
  | .impossibleName =>
      "embedded null byte"

/-- What made the file unreadable, and its path. -/
def reason? : LoadError → Option (String × Path)
  | .unreadableFile fault path =>
      some (fault.message path, path)
  | .undecodable fault path =>
      some (fault.message, path)
  | .impossibleName =>
      none

end LoadError

/-- The text of the template at a path. -/
def load (tree : FileTree) (path : Path) : Except LoadError Text :=
  if path.hasNul then
    .error .impossibleName
  else
    match tree.readFile path with
    | .error fault =>
        .error (.unreadableFile fault path)
    | .ok bytes =>
        match Text.Utf8.decode? bytes with
        | .error fault =>
            .error (.undecodable fault path)
        | .ok text =>
            .ok (Text.translateNewlines text)

end TenantSchema.Template
