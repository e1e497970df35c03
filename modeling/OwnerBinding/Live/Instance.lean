import OwnerBinding.Live.Program

/-!
# Instances of live classes

An instance is made in two steps. First every provided class that it inherits from has to accept the
values that it is made from. Then the nearest ancestor that sets instances up does so
(`Program.initializer`), and the others are not asked: an owner gets its inflater only if
`ViewOwner` is that ancestor, and a binding keeps what it was made from only if `ViewBinding` is.
-/

namespace OwnerBinding

namespace Live

/-- An object by its class, by how it is shown, and whether it holds an inflater. -/
structure Instance where
  cls : ClassId
  shown : String
  holdsInflater : Bool

/-- What sets up the instances of a class. -/
inductive Initializer where
  | owner
  | binding
  | provided (id : ClassId)
  /-- The root, which has nothing to set up. -/
  | root
  deriving DecidableEq, Repr

/-- The provided classes that accept no instance without values. -/
def refusingNothing : List String :=
  ["BaseExceptionGroup", "enumerate", "filter", "map", "reversed", "type"]

/-- The provided classes that accept no instance from an inflater and a container. -/
def refusingPair : List String :=
  refusingNothing ++ ["bytes", "complex", "float", "frozenset", "int", "str", "tuple", "zip"]

/-- The provided classes, apart from exceptions, that set up instances. -/
def initializers : List String :=
  ["bytearray", "classmethod", "dict", "list", "property", "set", "staticmethod", "super"]

/-- The provided classes that cannot set up an instance without values. -/
def initializersOfSome : List String :=
  ["classmethod", "staticmethod", "super", "UnicodeDecodeError", "UnicodeEncodeError",
    "UnicodeTranslateError"]

/-- The exceptions that cannot be set up from an inflater and a container. -/
def exceptionsOfSome : List String :=
  ["IndentationError", "SyntaxError", "TabError", "UnicodeDecodeError", "UnicodeEncodeError",
    "UnicodeTranslateError"]

namespace Program

def contract? (program : Program) (name : String) : Option ClassId :=
  program.workshop.find? (contractsModule ++ "." ++ name)

/-- Whether a class inherits from a class of the contracts module. -/
def inheritsContract (program : Program) (id : ClassId) (name : String) : Bool :=
  match program.contract? name with
  | some contract => program.table.inherits id contract
  | none => false

/-- Whether a class only describes others, and so has no instances of its own. -/
def isDescriptive (program : Program) (id : ClassId) : Bool :=
  (program.table.get id).parents.contains protocolId

def isException (program : Program) (id : ClassId) : Bool :=
  match program.workshop.provided? "BaseException" with
  | some base => program.table.inherits id base
  | none => false

/-- Whether the language provides a class under one of some names. -/
def isProvidedAs (program : Program) (names : List String) (id : ClassId) : Bool :=
  let c := program.table.get id
  c.isProvided && names.contains c.name

/-- How a class sets up instances, if it does. -/
def initializesAs? (program : Program) (id : ClassId) : Option Initializer :=
  if program.contract? "ViewOwner" = some id then some .owner
  else if program.contract? "ViewBinding" = some id then some .binding
  else if program.isProvidedAs initializers id ||
      ((program.table.get id).isProvided && program.isException id) then
    some (.provided id)
  else none

/-- What sets up the instances of a class: the nearest of its ancestors that does. -/
def initializer (program : Program) (id : ClassId) : Initializer :=
  ((program.table.lookupOrder id).findSome? program.initializesAs?).getD .root

/-- Whether the classes that a class inherits from accept an instance, where some of the provided
classes do not. -/
def isAccepted (program : Program) (refusing : List String) (id : ClassId) : Bool :=
  !program.isDescriptive id &&
    !(program.table.lookupOrder id).any (program.isProvidedAs refusing)

/-- An instance of a class that is made without values. -/
def instantiate (program : Program) (id : ClassId) : Except LiveFault Instance :=
  let made : Instance :=
    { cls := id
      shown := "<" ++ program.table.fullName id ++ ">"
      holdsInflater := program.initializer id = .owner }
  if !program.isAccepted refusingNothing id then .error .unsuitable
  else
    match program.initializer id with
    | .binding => .error .unsuitable
    | .provided initial =>
        if program.isProvidedAs initializersOfSome initial then .error .unsuitable else .ok made
    | _ => .ok made

/-- Whether an instance of a class can be made from an inflater and a container. What is set up by
an exception or by a property is made, and has no inflater to show. -/
def checkBinding (program : Program) (id : ClassId) : Except LiveFault Unit :=
  if !program.isAccepted refusingPair id then .error .unsuitable
  else
    match program.initializer id with
    | .binding => .ok ()
    | .provided initial =>
        if program.isProvidedAs ["property"] initial ||
            (program.isException initial && !program.isProvidedAs exceptionsOfSome initial) then
          .error (.attributeNotFound "inflater")
        else .error .unsuitable
    | _ => .error .unsuitable

end Program

end Live

end OwnerBinding
