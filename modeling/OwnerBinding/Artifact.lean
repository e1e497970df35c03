import OwnerBinding.Path
import OwnerBinding.Text.Dotted

/-!
# Artifacts

An artifact is a generated module that is not stored yet: where it belongs, its text, and how many
branches each of its methods has. The components of the package are directories, and the module is a
file in the innermost of them.
-/

namespace OwnerBinding

structure Artifact where
  package : String
  module : String
  source : String
  fragmentBranches : Nat
  activityBranches : Nat
  deriving DecidableEq, Repr

namespace Artifact

def fileName (module : String) : String := module ++ ".py"

/-- The path of the module below the output directory. The empty package has no directory. -/
def relativePath (artifact : Artifact) : Path :=
  let directories :=
    if artifact.package.isEmpty then [] else Text.components artifact.package
  Path.ofSegments (directories ++ [fileName artifact.module])

/-- The name by which the module is imported. -/
def dottedName (artifact : Artifact) : String :=
  if artifact.package.isEmpty then artifact.module
  else artifact.package ++ "." ++ artifact.module

/-- The path of the module when it is stored under an output directory. -/
def pathUnder (artifact : Artifact) (outputDirectory : Path) : Path :=
  outputDirectory.join artifact.relativePath

end Artifact

end OwnerBinding
