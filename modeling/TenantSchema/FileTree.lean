import TenantSchema.Path
import TenantSchema.Text.Utf8

/-!
# Trees of files

Files are known by the components of their paths from the root.  A directory exists when it
is listed or when something lies in it.  Following a path goes from component to component, so
the first one that cannot be followed decides what is reported.
-/

namespace TenantSchema

/-- Why a file cannot be read. -/
inductive FileFault where
  | notFound
  | notDirectory
  | isDirectory
  | nameTooLong
  deriving Repr, DecidableEq

namespace FileFault

/-- The number of a fault. -/
def number : FileFault → Nat
  | .notFound =>
      2
  | .notDirectory =>
      20
  | .isDirectory =>
      21
  | .nameTooLong =>
      36

/-- The words for a fault. -/
def words : FileFault → String
  | .notFound =>
      "No such file or directory"
  | .notDirectory =>
      "Not a directory"
  | .isDirectory =>
      "Is a directory"
  | .nameTooLong =>
      "File name too long"

/-- The message about a fault at a path. -/
def message (fault : FileFault) (path : Path) : String :=
  s!"[Errno {fault.number}] {fault.words}: " ++ Text.quoted path.text

end FileFault

/-- Files by the components of their paths, directories that need not hold any, and the
directory that relative paths are read from. -/
structure FileTree where
  files : List (List Text × List UInt8)
  directories : List (List Text)
  working : Path

namespace FileTree

/-- The content of a file. -/
def file? (tree : FileTree) (place : List Text) : Option (List UInt8) :=
  (tree.files.find? (·.1 == place)).map (·.2)

/-- Whether a place is a directory. -/
def isDirectory (tree : FileTree) (place : List Text) : Bool :=
  place.isEmpty ||
    tree.directories.any (place.isPrefixOf ·) ||
    tree.files.any fun (file, _) => place.isPrefixOf file && place.length < file.length

/-- The most bytes of one component. -/
def longestComponent : Nat :=
  255

/-- The most bytes of a whole path. -/
def longestPath : Nat :=
  4095

/-- What stands at a place. -/
inductive Entry where
  | file (content : List UInt8)
  | directory

/-- Follow components from a directory. -/
def follow (tree : FileTree) (place : List Text) : List Text → Except FileFault Entry
  | [] =>
      .ok .directory
  | component :: rest =>
      if component = ['.', '.'] then
        follow tree place.dropLast rest
      else if longestComponent < (Text.Utf8.encode component).length then
        .error .nameTooLong
      else
        let next := place ++ [component]
        match tree.file? next with
        | some content =>
            if rest.isEmpty then .ok (.file content) else .error .notDirectory
        | none =>
            if tree.isDirectory next then
              follow tree next rest
            else
              .error .notFound

/-- What stands at a path. -/
def entry (tree : FileTree) (path : Path) : Except FileFault Entry :=
  if longestPath < (Text.Utf8.encode path.text).length then
    .error .nameTooLong
  else
    follow tree [] (Path.under tree.working path).components

/-- The content of the file at a path. -/
def readFile (tree : FileTree) (path : Path) : Except FileFault (List UInt8) :=
  match tree.entry path with
  | .error fault =>
      .error fault
  | .ok .directory =>
      .error .isDirectory
  | .ok (.file content) =>
      .ok content

end FileTree

end TenantSchema
