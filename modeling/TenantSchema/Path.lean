import TenantSchema.Text.Basic

/-!
# Paths

A path is a root and the components below it.  Repeated separators and components of one dot
say nothing and are dropped; two dots are kept.  Exactly two separators in front are a root of
their own.
-/

namespace TenantSchema

/-- Where a path starts. -/
inductive PathRoot where
  | relative
  | absolute
  /-- Two separators in front. -/
  | double
  deriving Repr, DecidableEq

/-- A path. -/
structure Path where
  root : PathRoot
  components : List Text
  deriving Repr, DecidableEq

namespace Path

/-- Whether a component says something. -/
def counts (component : Text) : Bool :=
  !component.isEmpty && component != ['.']

/-- The root that a text starts with. -/
def rootOf (text : Text) : PathRoot :=
  match (text.takeWhile (· == '/')).length with
  | 0 =>
      .relative
  | 2 =>
      .double
  | _ =>
      .absolute

/-- The path that a text writes. -/
def ofText (text : Text) : Path :=
  { root := rootOf text, components := (Text.splitAt '/' text).filter counts }

/-- The separators in front of a path. -/
def rootText : PathRoot → Text
  | .relative =>
      []
  | .absolute =>
      ['/']
  | .double =>
      ['/', '/']

/-- The text of a path; the path that says nothing is one dot. -/
def text (path : Path) : Text :=
  if path.root = .relative ∧ path.components = [] then
    ['.']
  else
    rootText path.root ++ Text.joinWith ['/'] path.components

/-- Whether a path does not depend on where it is read. -/
def isAbsolute (path : Path) : Bool :=
  path.root != .relative

/-- Whether a path holds the character that ends a name for the system; no file has such a path. -/
def hasNul (path : Path) : Bool :=
  path.components.any fun component => component.elem '\x00'

/-- A path read from a directory: an absolute one stands for itself. -/
def under (directory path : Path) : Path :=
  if path.isAbsolute then
    path
  else
    { directory with components := directory.components ++ path.components }

end Path

end TenantSchema
