import Mathlib.Data.List.Forall2
import OwnerBinding.Manifest

/-!
# Which values are manifests, and what they list

`IsManifest` says which values are manifests and `Lists` what a value lists, without a word on how
this is checked. A shape (`IsText`, `IsListOf`, ...) is a property of values; what a value means
(`TextMeans`, `ListMeans`, ...) is a relation between values and what is read from them. Objects are
described by their members, each looked up by its key, so the order of keys plays no part.
-/

namespace OwnerBinding

namespace Manifest

variable {α : Type}

/-! ## Shapes -/

def IsText (value : Json) : Prop := ∃ text, value = .string text

def IsNonemptyText (value : Json) : Prop := ∃ text, value = .string text ∧ text ≠ ""

/-- One of the words for a type kind. -/
def IsKind (value : Json) : Prop := ∃ kind : TypeKind, value = .string kind.word

/-- One of the words for a marker. -/
def IsMarker (value : Json) : Prop := ∃ kind : OwnerKind, value = .string kind.marker

def IsNullOr (shape : Json → Prop) (value : Json) : Prop := value = .null ∨ shape value

def IsListOf (shape : Json → Prop) (value : Json) : Prop :=
  ∃ items, value = .array items ∧ ∀ item ∈ items, shape item

/-- An object without other keys than those expected. -/
def IsObjectOf (expected : List String) (shape : List (String × Json) → Prop) (value : Json) :
    Prop :=
  ∃ members, value = .object members ∧ (∀ member ∈ members, member.1 ∈ expected) ∧ shape members

/-- There is a member with the key, and its value has the shape. -/
def Has (key : String) (shape : Json → Prop) (members : List (String × Json)) : Prop :=
  ∃ value, Json.member? key members = some value ∧ shape value

/-- A member with the key need not be there, but its value has the shape. -/
def MayHave (key : String) (shape : Json → Prop) (members : List (String × Json)) : Prop :=
  ∀ value, Json.member? key members = some value → shape value

/-- A type argument is declared unless it says otherwise, and has a name unless it is a wildcard. -/
structure ArgumentShape (members : List (String × Json)) : Prop where
  kind : MayHave "kind" IsKind members
  name : MayHave "name" (IsNullOr IsText) members
  named : Json.member? "kind" members ≠ some (.string "wildcard") → Has "name" IsNonemptyText members

def IsTypeArgument : Json → Prop := IsObjectOf ["kind", "name"] ArgumentShape

structure SuperclassShape (members : List (String × Json)) : Prop where
  name : Has "name" IsText members
  kind : MayHave "kind" IsKind members
  arguments : MayHave "arguments" (IsListOf IsTypeArgument) members

def IsSuperclass : Json → Prop := IsObjectOf ["name", "kind", "arguments"] SuperclassShape

structure DeclarationShape (members : List (String × Json)) : Prop where
  module : Has "module" IsNonemptyText members
  name : Has "name" IsNonemptyText members
  typeParameters : MayHave "type_parameters" (IsListOf IsText) members
  superclass : MayHave "superclass" (IsNullOr IsSuperclass) members
  interfaces : MayHave "interfaces" (IsListOf IsText) members
  markers : MayHave "markers" (IsListOf IsMarker) members

def IsDeclaration : Json → Prop :=
  IsObjectOf ["module", "name", "type_parameters", "superclass", "interfaces", "markers"]
    DeclarationShape

def IsManifest : Json → Prop :=
  IsObjectOf ["declarations"] (MayHave "declarations" (IsListOf IsDeclaration))

/-! ## Meanings -/

def TextMeans (value : Json) (text : String) : Prop := value = .string text

def KindMeans (value : Json) (kind : TypeKind) : Prop := value = .string kind.word

def MarkerMeans (value : Json) (kind : OwnerKind) : Prop := value = .string kind.marker

/-- Null means nothing. -/
def NullableMeans (means : Json → α → Prop) (value : Json) : Option α → Prop
  | none => value = .null
  | some a => means value a

/-- A list means what its items mean, in their order. -/
def ListMeans (means : Json → α → Prop) (value : Json) (as : List α) : Prop :=
  ∃ items, value = .array items ∧ List.Forall₂ means items as

def ObjectMeans (means : List (String × Json) → α → Prop) (value : Json) (a : α) : Prop :=
  ∃ members, value = .object members ∧ means members a

/-- What the value of a member means. -/
def MemberMeans (key : String) (means : Json → α → Prop) (members : List (String × Json)) (a : α) :
    Prop :=
  ∃ value, Json.member? key members = some value ∧ means value a

/-- What the value of a member means, or the default if there is no such member. -/
def MemberMeansOr (key : String) (default : α) (means : Json → α → Prop)
    (members : List (String × Json)) (a : α) : Prop :=
  match Json.member? key members with
  | some value => means value a
  | none => a = default

structure ArgumentMeans (members : List (String × Json)) (argument : TypeArgument) : Prop where
  kind : MemberMeansOr "kind" .declared KindMeans members argument.kind
  name : MemberMeansOr "name" none (NullableMeans TextMeans) members argument.name

structure SuperclassMeans (members : List (String × Json)) (superclass : Superclass) : Prop where
  name : MemberMeans "name" TextMeans members superclass.name
  kind : MemberMeansOr "kind" .declared KindMeans members superclass.kind
  arguments : MemberMeansOr "arguments" [] (ListMeans (ObjectMeans ArgumentMeans)) members
    superclass.arguments

/-- The interfaces and the markers of a declaration are those that are listed, whatever their order
and repetitions. -/
structure DeclarationMeans (members : List (String × Json)) (d : Declaration) : Prop where
  module : MemberMeans "module" TextMeans members d.module
  name : MemberMeans "name" TextMeans members d.name
  typeParameters : MemberMeansOr "type_parameters" [] (ListMeans TextMeans) members d.typeParameters
  superclass : MemberMeansOr "superclass" none (NullableMeans (ObjectMeans SuperclassMeans)) members
    d.superclass
  interfaces : ∃ names, MemberMeansOr "interfaces" [] (ListMeans TextMeans) members names ∧
    ∀ name, name ∈ d.interfaces ↔ name ∈ names
  markers : ∃ kinds, MemberMeansOr "markers" [] (ListMeans MarkerMeans) members kinds ∧
    ∀ kind, d.isMarked kind = true ↔ kind ∈ kinds

/-- The declarations that a manifest lists, in its order and as often as it lists them. -/
def Lists : Json → List Declaration → Prop :=
  ObjectMeans (MemberMeansOr "declarations" [] (ListMeans (ObjectMeans DeclarationMeans)))

end Manifest

end OwnerBinding
