import OwnerBinding.TypeName
import OwnerBinding.Text.NameSet

/-!
# Declarations

A declaration describes one type of the scanned program: its name, its type parameters in order, the
superclass that it extends directly with the arguments given there, the interfaces that it
implements directly, and the owner kinds that it is marked with.

Interfaces and markers are sets, kept in a canonical form, so equality of declarations is equality
of their contents.
-/

namespace OwnerBinding

/-- What a type reference refers to. -/
inductive TypeKind where
  | declared
  | primitive
  | wildcard
  | typeVariable
  deriving DecidableEq, Repr

/-- The kinds in the order in which they are listed to a reader. -/
def TypeKind.all : List TypeKind := [.declared, .primitive, .wildcard, .typeVariable]

/-- The word for a kind in documents. -/
def TypeKind.word : TypeKind → String
  | .declared => "declared"
  | .primitive => "primitive"
  | .wildcard => "wildcard"
  | .typeVariable => "type_variable"

inductive OwnerKind where
  | activity
  | fragment
  deriving DecidableEq, Repr

/-- The categories in the order in which they are listed to a reader. -/
def OwnerKind.all : List OwnerKind := [.activity, .fragment]

/-- The word for the marker of a category in documents. -/
def OwnerKind.marker : OwnerKind → String
  | .activity => "activity_owner"
  | .fragment => "fragment_owner"

/-- One argument of a superclass: the qualified name of a declared type, or the name of a primitive
type or of a type parameter. A wildcard needs no name. -/
structure TypeArgument where
  kind : TypeKind
  name : Option String
  deriving DecidableEq, Repr

structure Superclass where
  name : String
  kind : TypeKind
  arguments : List TypeArgument
  deriving DecidableEq, Repr

/-- The set of owner kinds that a declaration is marked with. -/
structure MarkerSet where
  activity : Bool
  fragment : Bool
  deriving DecidableEq, Repr

namespace MarkerSet

def empty : MarkerSet := { activity := false, fragment := false }

def has (markers : MarkerSet) : OwnerKind → Bool
  | .activity => markers.activity
  | .fragment => markers.fragment

def insert (kind : OwnerKind) (markers : MarkerSet) : MarkerSet :=
  match kind with
  | .activity => { markers with activity := true }
  | .fragment => { markers with fragment := true }

/-- The markers of a list, whatever their order and repetitions. -/
def ofList (kinds : List OwnerKind) : MarkerSet := kinds.foldr insert empty

def toList (markers : MarkerSet) : List OwnerKind := OwnerKind.all.filter markers.has

@[simp] theorem has_empty (kind : OwnerKind) : empty.has kind = false := by
  cases kind <;> rfl

@[simp] theorem has_insert (kind other : OwnerKind) (markers : MarkerSet) :
    (insert kind markers).has other = (decide (other = kind) || markers.has other) := by
  cases kind <;> cases other <;> simp [insert, has]

@[simp] theorem has_ofList (kinds : List OwnerKind) (kind : OwnerKind) :
    (ofList kinds).has kind = decide (kind ∈ kinds) := by
  induction kinds with
  | nil => simp [ofList]
  | cons head rest ih =>
      rw [show ofList (head :: rest) = insert head (ofList rest) from rfl]
      simp [ih, Bool.decide_or]

end MarkerSet

/-- A named type of the scanned program with its structure. -/
structure Declaration extends TypeName where
  typeParameters : List String
  superclass : Option Superclass
  /-- Qualified names of the directly implemented interfaces. -/
  interfaces : NameSet
  markers : MarkerSet
  deriving DecidableEq

namespace Declaration

def arity (d : Declaration) : Nat := d.typeParameters.length

def isMarked (d : Declaration) (kind : OwnerKind) : Bool := d.markers.has kind

/-- Whether the interface is among those that the declaration implements directly. -/
def implements (d : Declaration) (interface : String) : Bool := decide (interface ∈ d.interfaces)

end Declaration

end OwnerBinding
