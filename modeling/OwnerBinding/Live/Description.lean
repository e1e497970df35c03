import OwnerBinding.Live.Class

/-!
# Declarations of live classes

A live class is described by a declaration. Its superclass is the first written base that is not the
root or a mere marker, with the arguments written there; its interfaces are all classes that it
inherits from directly, with the same exceptions. An argument is a wildcard, a type parameter, a
provided class under its bare name, or any other class under its full name. A base that is no class is
described like a class that the language does not provide.

`references` lists the classes that the direct base and its arguments are, or are subscripted from,
without those that the language provides.
-/

namespace OwnerBinding

namespace Live

/-- The classes that count neither as superclass nor as interface. -/
def ignoredBases : List ClassId := [objectId, genericId, protocolId]

def Base.isIgnored (base : Base) : Bool := base.origin?.any ignoredBases.contains

/-- The type parameters in a value, in the order in which they stand there. -/
def Value.parameters : Value → List String
  | .parameter name => [name]
  | .cls _ arguments => arguments.flatMap fun a => a.parameters
  | .union members => members.flatMap fun m => m.parameters
  | _ => []

/-- A list with each member at its first place only. -/
def distinct {α : Type} [BEq α] (values : List α) : List α :=
  values.foldl (fun seen value => if seen.contains value then seen else seen ++ [value]) []

namespace LiveClass

/-- The first written base that is not the root or a mere marker. -/
def directBase? (c : LiveClass) : Option Base :=
  c.bases.find? fun base => !base.isIgnored

/-- Whether the class keeps a list of type parameters, which only generic classes do. -/
def isGeneric (c : LiveClass) : Bool :=
  c.ancestors.contains genericId || c.ancestors.contains protocolId

/-- The type parameters of a class: those listed by the marker for generic classes, and without it
those in the arguments of the bases. -/
def typeParameters (c : LiveClass) : List String :=
  if !c.isGeneric || !c.bases.any Base.isSubscripted then []
  else
    match c.bases.find? fun base => base.origin? == some genericId && base.isSubscripted with
    | some base => distinct (base.arguments.flatMap Value.parameters)
    | none => distinct (c.bases.flatMap fun base => base.arguments.flatMap Value.parameters)

end LiveClass

namespace ClassTable

/-- Whether a value is a class that the language provides. -/
def isProvidedClass (table : ClassTable) : Value → Bool
  | .cls origin [] => (table.get origin).isProvided
  | _ => false

/-- An argument of a base as an argument of a superclass. -/
def typeArgument (table : ClassTable) : Value → TypeArgument
  | .cls origin arguments =>
      if origin = anyId ∧ arguments.isEmpty then { kind := .wildcard, name := none }
      else if (table.get origin).isProvided then
        { kind := .primitive, name := some (table.get origin).name }
      else { kind := .declared, name := some (table.fullName origin) }
  | .parameter name => { kind := .typeVariable, name := some name }
  | _ => { kind := .wildcard, name := none }

/-- A base as a superclass. -/
def superclass (table : ClassTable) : Base → Superclass
  | .cls origin arguments =>
      { name := table.fullName origin
        kind := if (table.get origin).isProvided then .primitive else .declared
        arguments := arguments.map table.typeArgument }
  | .standIn t _ => { name := t.module ++ "." ++ t.name, kind := .declared, arguments := [] }

/-- The full names of the classes that a class inherits from directly. -/
def interfaces (table : ClassTable) (c : LiveClass) : NameSet :=
  NameSet.ofList ((c.parents.filter fun id => !ignoredBases.contains id).map table.fullName)

/-- The declaration of a class. -/
def declaration (table : ClassTable) (id : ClassId) : Declaration :=
  let c := table.get id
  { module := c.module
    name := c.name
    typeParameters := c.typeParameters
    superclass := c.directBase?.map table.superclass
    interfaces := table.interfaces c
    markers := c.markers }

/-- The classes that are followed from a class: its direct base, if that is a class, and then the
arguments, without the classes that the language provides. -/
def references (table : ClassTable) (id : ClassId) : List ClassId :=
  match (table.get id).directBase? with
  | none => []
  | some base =>
      (base.origin?.toList ++ base.arguments.filterMap Value.origin?).filter fun reference =>
        !(table.get reference).isProvided

end ClassTable

end Live

end OwnerBinding
