import OwnerBinding.Text.Dotted

/-!
# Names of types

A type is named by the module that it is declared in and its name there, which is dotted when the
type is nested in others. The qualified name joins both. Two different types can share a qualified
name: `C` in `a.b` and `b.C` in `a` are both called `a.b.C`, so identity is decided on the pair.
-/

namespace OwnerBinding

/-- A type by its module and its name within the module. A type of the empty module is global. -/
structure TypeName where
  module : String
  name : String
  deriving DecidableEq, Repr

namespace TypeName

/-- Module and name joined by a dot, or the bare name of a global type. -/
def qualifiedName (t : TypeName) : String :=
  if t.module.isEmpty then t.name else t.module ++ "." ++ t.name

/-- The type that a qualified name is read as: the name is what follows the last dot. -/
def ofQualifiedName (name : String) : TypeName :=
  let parts := Text.splitLast name
  { module := parts.1, name := parts.2 }

@[simp] theorem qualifiedName_global (name : String) :
    qualifiedName { module := "", name := name } = name := by
  simp [qualifiedName]

end TypeName

end OwnerBinding
