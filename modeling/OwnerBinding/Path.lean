/-!
# Paths

A path is a list of components under a root. Empty components and the component `.` mean nothing and
are dropped when a path is read; `..` is kept, since what it means depends on the file tree. A text
that begins with exactly two slashes has a root of its own, and more slashes count as one. A path
that begins at a root replaces what it is joined to.
-/

namespace OwnerBinding

inductive Path.Root where
  /-- At the current place. -/
  | here
  /-- At the root of the file tree. -/
  | top
  /-- At the root written with two slashes. -/
  | doubleTop
  deriving DecidableEq, Repr

def Path.Root.text : Path.Root → String
  | .here => ""
  | .top => "/"
  | .doubleTop => "//"

/-- A root and the components under it. -/
structure Path where
  root : Path.Root
  components : List String
  deriving DecidableEq, Repr

namespace Path

def current : Path := { root := .here, components := [] }

/-- Whether a component between slashes means something. -/
def isMeaningful (component : String) : Bool := component != "" && component != "."

/-- The root that a text begins with, given its characters. -/
def rootOf (text : List Char) : Root :=
  match (text.takeWhile (· == '/')).length with
  | 0 => .here
  | 2 => .doubleTop
  | _ => .top

def ofString (text : String) : Path where
  root := rootOf text.toList
  components := ((text.toList.splitOn '/').map String.ofList).filter isMeaningful

/-- The text of a path; the current place is a dot. -/
def toString (path : Path) : String :=
  match path.root, path.components with
  | .here, [] => "."
  | root, components => root.text ++ "/".intercalate components

/-- The path reached by going on along another one. -/
def join (path next : Path) : Path :=
  match next.root with
  | .here => { path with components := path.components ++ next.components }
  | _ => next

def ofSegments (segments : List String) : Path :=
  segments.foldl (fun path segment => path.join (ofString segment)) current

end Path

end OwnerBinding
