import OwnerBinding.Live.Ancestry

/-!
# Blueprints of live classes

A blueprint says what the body of a module binds, one item after the other: a class with its bases,
its markers and a body of its own, or any other value. Making it gives a namespace and adds the
classes to a table, each reachable by a handle from then on. The body of a class is made before the
class itself.
-/

namespace OwnerBinding

namespace Live

inductive Expr where
  /-- The class with a handle, subscripted if there are arguments. -/
  | handle (name : String) (arguments : List Expr)
  /-- What the language provides under a name, subscripted if there are arguments. -/
  | provided (name : String) (arguments : List Expr)
  | parameter (name : String)
  | any
  | nothing
  | forward (name : String)
  | other
  /-- Something with the name of a type that is no class itself and stands for classes. -/
  | standIn (t : TypeName) (classes : List Expr)
  | union (members : List Expr)
  /-- The marker of generic classes with its parameters. -/
  | generic (parameters : List Expr)
  /-- The marker of classes that describe others, with or without parameters. -/
  | protocol (parameters : List Expr)
  deriving Inhabited

inductive Item where
  | assign (name : String) (value : Expr)
  /-- A class, bound under a name that may differ from its own, with a handle that may differ from
  its full name. -/
  | define (name : String) (boundAs handle : Option String) (bases : List Expr)
      (markers : List OwnerKind) (body : List Item)
  deriving Inhabited

/-- The classes made so far and their handles. -/
structure Workshop where
  table : ClassTable
  handles : List (String × ClassId)

namespace Workshop

/-- The class with a handle, the last one made if there are several. -/
def find? (workshop : Workshop) (handle : String) : Option ClassId :=
  workshop.handles.lookup handle

/-- The class that the language provides under a name. Two names mean the same class as another. -/
def provided? (workshop : Workshop) (name : String) : Option ClassId :=
  let name := if name = "EnvironmentError" ∨ name = "IOError" then "OSError" else name
  workshop.table.classes.findIdx? fun c => c.isProvided && c.name == name

end Workshop

/-- The provided classes that can be subscripted by rules of their own. -/
def subscriptable : List String :=
  ["dict", "enumerate", "frozenset", "list", "set", "tuple", "BaseExceptionGroup"]

/-- Whether subscripting a class goes by the rules for generic classes: among the classes that bring
rules for it, the marker of generic classes is the nearest ancestor. -/
def ClassTable.isTyped (table : ClassTable) (id : ClassId) : Bool :=
  let decisive := (table.lookupOrder id).find? fun ancestor =>
    let c := table.get ancestor
    ancestor == genericId || (c.isProvided && subscriptable.contains c.name)
  decisive == some genericId

/-- The absent value as a type is its class. -/
def Value.asType : Value → Value
  | .nothing => .cls noneTypeId []
  | value => value

mutual

def Value.same : Value → Value → Bool
  | .cls a as, .cls b bs => a == b && Value.sameAll as bs
  | .parameter a, .parameter b => a == b
  | .union as, .union bs => Value.sameAll as bs
  | .forward a, .forward b => a == b
  | .standIn t _, .standIn u _ => t == u
  | .module a, .module b => a == b
  | .nothing, .nothing => true
  | .other, .other => false
  | _, _ => false

/-- Whether two lists of values are equal member by member. -/
def Value.sameAll : List Value → List Value → Bool
  | [], [] => true
  | a :: as, b :: bs => Value.same a b && Value.sameAll as bs
  | _, _ => false

end

/-- The union of values. Unions in it are opened, equal members count once, and the union of one
value is that value. -/
def Value.unionOf (values : List Value) : Value :=
  let members := values.flatMap fun value =>
    match value.asType with
    | .union members => members
    | single => [single]
  let different := members.foldl
    (fun seen value => if seen.any (Value.same value) then seen else seen ++ [value]) []
  match different with
  | [single] => single
  | several => .union several

mutual

def Expr.value (workshop : Workshop) : Expr → Value
  | .handle name arguments =>
      match workshop.find? name with
      | none => .other
      | some id =>
          let values := Expr.values workshop arguments
          .cls id (if workshop.table.isTyped id then values.map Value.asType else values)
  | .provided name arguments =>
      match workshop.provided? name with
      | none => if name = "None" then .nothing else .other
      | some id => .cls id (Expr.values workshop arguments)
  | .parameter name => .parameter name
  | .any => .cls anyId []
  | .nothing => .nothing
  | .forward name => .forward name
  | .other => .other
  | .standIn t classes =>
      .standIn t ((Expr.values workshop classes).filterMap Value.origin?)
  | .union members => .unionOf (Expr.values workshop members)
  | .generic parameters => .cls genericId (Expr.values workshop parameters)
  | .protocol parameters => .cls protocolId (Expr.values workshop parameters)

def Expr.values (workshop : Workshop) : List Expr → List Value
  | [] => []
  | expr :: rest => expr.value workshop :: Expr.values workshop rest

end

/-- A value as a base. Only classes and what stands for them can be bases. -/
def Value.base? : Value → Option Base
  | .cls origin arguments => some (.cls origin arguments)
  | .standIn t classes => some (.standIn t classes)
  | _ => none

def Base.same : Base → Base → Bool
  | .cls a as, .cls b bs => a == b && Value.sameAll as bs
  | .standIn t _, .standIn u _ => t == u
  | _, _ => false

/-- Whether some other base brings the marker of generic classes along, so that the base that only
writes it is left out: the marker of descriptive classes, or a generic class behind the first
mention of the base. -/
def ClassTable.isBroughtAlong (table : ClassTable) (bases : List Base) (base : Base) : Bool :=
  base.origin? == some genericId && base.isSubscripted &&
    (bases.any (fun other => other.origin? == some protocolId && !other.isSubscripted) ||
      (bases.dropWhile fun other => !base.same other).any fun later =>
        later.isSubscripted && later.origin?.any table.isTyped && !base.same later)

/-- The classes that a class with these bases inherits from, which is the root if there is no
other. -/
def ClassTable.parentsOf (table : ClassTable) (bases : List Base) : List ClassId :=
  match (bases.filter fun base => !table.isBroughtAlong bases base).flatMap Base.classes with
  | [] => [objectId]
  | parents => parents

/-- Makes a class from its bases and its namespace, and applies its markers, the last one first. -/
def Workshop.make (workshop : Workshop) (t : TypeName) (handle : String) (bases : List Base)
    (markers : List OwnerKind) (attributes : Namespace) : ClassId × Workshop :=
  let parents := workshop.table.parentsOf bases
  let recorded := if bases.all Base.isPlain then parents.map (.cls · []) else bases
  let c : LiveClass :=
    { t with
      isProvided := false
      bases := recorded
      parents
      ancestors := workshop.table.ancestorsOf parents
      attributes }
  let (id, table) := workshop.table.add (markers.foldr LiveClass.mark c)
  (id, { table, handles := (handle, id) :: workshop.handles })

mutual

/-- Makes one item of a body. `scope` is put before the names of the classes made there. -/
def Item.make (module scope : String) (workshop : Workshop) (bound : Namespace) :
    Item → Workshop × Namespace
  | .assign name value => (workshop, bound.put name (value.value workshop))
  | .define name boundAs handle bases markers body =>
      let t : TypeName := { module, name := scope ++ name }
      let (inside, attributes) := Item.makeAll module (t.name ++ ".") workshop [] body
      let values := Expr.values inside bases
      let (id, done) := inside.make t (handle.getD (module ++ "." ++ t.name))
        (values.filterMap Value.base?) markers attributes
      (done, bound.put (boundAs.getD name) (.cls id []))

def Item.makeAll (module scope : String) (workshop : Workshop) (bound : Namespace) :
    List Item → Workshop × Namespace
  | [] => (workshop, bound)
  | item :: rest =>
      let (next, more) := Item.make module scope workshop bound item
      Item.makeAll module scope next more rest

end

end Live

end OwnerBinding
