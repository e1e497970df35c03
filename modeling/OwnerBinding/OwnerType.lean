import OwnerBinding.Declaration.Graph

/-!
# Owner types

An owner type is what a dispatch decides on: the name of a marked type, with the number of its type
parameters. A generic owner is written with a wildcard for each parameter. The number takes no part
in the decision whether two owner types are the same (`OwnerType.sameAs`): the raw and the
parameterized form of a type are one key.
-/

namespace OwnerBinding

/-- The key of a dispatch branch. -/
structure OwnerType extends TypeName where
  arity : Int
  deriving DecidableEq, Repr

/-- The argument list that has a wildcard for each of a number of parameters. -/
def wildcards (arity : Int) : String :=
  "[" ++ ", ".intercalate (List.replicate arity.toNat "Any") ++ "]"

namespace OwnerType

def isGeneric (owner : OwnerType) : Bool := 0 < owner.arity

/-- Whether two owner types are the same key. -/
def sameAs (owner other : OwnerType) : Bool := owner.toTypeName = other.toTypeName

/-- The text shown for an owner type: its qualified name, with wildcards unless the number of
parameters is zero. -/
def label (owner : OwnerType) : String :=
  if owner.arity = 0 then owner.qualifiedName else owner.qualifiedName ++ wildcards owner.arity

@[simp] theorem sameAs_iff (owner other : OwnerType) :
    owner.sameAs other = true ↔ owner.toTypeName = other.toTypeName := by
  simp [sameAs]

end OwnerType

def Declaration.ownerType (d : Declaration) : OwnerType :=
  { d.toTypeName with arity := d.arity }

/-- A marked declaration with the key that it is dispatched by. -/
structure ScannedOwner where
  declaration : Declaration
  ownerType : OwnerType
  deriving DecidableEq

/-- The owners of a kind among declarations, in their order. -/
def scan (declarations : List Declaration) (kind : OwnerKind) : List ScannedOwner :=
  (declarations.filter (·.isMarked kind)).map fun d =>
    { declaration := d, ownerType := d.ownerType }

@[simp] theorem scan_nil (kind : OwnerKind) : scan [] kind = [] := rfl

end OwnerBinding
