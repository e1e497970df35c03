import OwnerBinding.Declaration
import OwnerBinding.Entries

/-!
# Live classes

The classes of a running program stand in a table and refer to each other by their places in it, so
a class can mention itself. A class is known by the module that it was made in and its name there.
It keeps the bases that it was made with, with their arguments, and apart from them the classes that
it inherits from, nearest first. A base need not be a class: it can be something that stands for
classes, and then these are inherited from in its place. The namespace of a class lists what names in
its body are bound to, in the order in which they were first bound.

The owner kinds that a class is marked with are kept in its namespace, under a reserved name. They are
read from the namespace of the class itself, and not from those of the classes that it inherits from.

The first places of a table belong to the classes that have a meaning of their own: the root of all
classes, the class that stands for any type, the class of the absent value, and the two classes that
only mark other classes as generic.
-/

namespace OwnerBinding

namespace Live

/-- The place of a class in its table. -/
abbrev ClassId := Nat

/-- The root of all classes. -/
def objectId : ClassId := 0

/-- The class that stands for any type. -/
def anyId : ClassId := 1

/-- The class of the absent value. -/
def noneTypeId : ClassId := 2

/-- The marker of generic classes. -/
def genericId : ClassId := 3

/-- The marker of classes that only describe others. -/
def protocolId : ClassId := 4

/-- What a name can be bound to, and what can stand as an argument of a class. -/
inductive Value where
  /-- A class, with arguments if it is subscripted. -/
  | cls (origin : ClassId) (arguments : List Value)
  | parameter (name : String)
  | union (members : List Value)
  /-- A type by a name that is looked up later. -/
  | forward (name : String)
  /-- The absent value. -/
  | nothing
  /-- Something with the name of a type that is no class itself. As a base it stands for classes. -/
  | standIn (t : TypeName) (classes : List ClassId)
  /-- A module, by its name. -/
  | module (name : String)
  /-- The owner kinds that a class is marked with. -/
  | markers (kinds : MarkerSet)
  | other
  deriving Repr, Inhabited

namespace Value

/-- The class that a value is or is subscripted from. -/
def origin? : Value → Option ClassId
  | .cls origin _ => some origin
  | _ => none

def isClass : Value → Bool
  | .cls _ arguments => arguments.isEmpty
  | _ => false

end Value

/-- A base as it is written. -/
inductive Base where
  /-- A class, with arguments if it is subscripted. -/
  | cls (origin : ClassId) (arguments : List Value)
  /-- Something that is no class itself, with the classes that it stands for. -/
  | standIn (t : TypeName) (classes : List ClassId)

namespace Base

def arguments : Base → List Value
  | .cls _ arguments => arguments
  | .standIn _ _ => []

def isSubscripted (base : Base) : Bool := !base.arguments.isEmpty

/-- Whether a base is a class as it stands. -/
def isPlain : Base → Bool
  | .cls _ arguments => arguments.isEmpty
  | .standIn _ _ => false

/-- The class that a base is or is subscripted from. -/
def origin? : Base → Option ClassId
  | .cls origin _ => some origin
  | .standIn _ _ => none

/-- The classes that are inherited from for a base. -/
def classes : Base → List ClassId
  | .cls origin _ => [origin]
  | .standIn _ classes => classes

end Base

/-- What names are bound to, in the order in which they were first bound. -/
abbrev Namespace := Entries Value

structure LiveClass extends TypeName where
  /-- Whether the language itself provides the class under its name. -/
  isProvided : Bool
  /-- The bases as they are written, or the parents if all of them are plain. -/
  bases : List Base
  parents : List ClassId
  /-- The classes that it inherits from, nearest first. -/
  ancestors : List ClassId
  attributes : Namespace

def LiveClass.object : LiveClass where
  module := "builtins"
  name := "object"
  isProvided := true
  bases := []
  parents := []
  ancestors := []
  attributes := []

/-- The name that the markers of a class are bound to in its namespace. -/
def markersName : String := "__bindwire_markers__"

/-- The markers in the namespace of a class, without those of the classes that it inherits from. The
reserved name stands for no markers where it is bound to anything else. -/
def LiveClass.markers (c : LiveClass) : MarkerSet :=
  match c.attributes.lookup markersName with
  | some (.markers kinds) => kinds
  | _ => .empty

/-- The class with one more marker in its namespace. -/
def LiveClass.mark (kind : OwnerKind) (c : LiveClass) : LiveClass :=
  { c with attributes := c.attributes.put markersName (.markers (c.markers.insert kind)) }

theorem LiveClass.markers_mark (kind : OwnerKind) (c : LiveClass) :
    (c.mark kind).markers = c.markers.insert kind := by
  rw [LiveClass.markers, mark, Entries.lookup_put, if_pos rfl]

/-- The name by which a class is identified: its module and its name, always with a dot. -/
def LiveClass.fullName (c : LiveClass) : String := c.module ++ "." ++ c.name

structure ClassTable where
  classes : List LiveClass

namespace ClassTable

/-- The class at a place. Beyond the table there is nothing but the root. -/
def get (table : ClassTable) (id : ClassId) : LiveClass := table.classes.getD id .object

/-- The name by which the class at a place is identified. -/
def fullName (table : ClassTable) (id : ClassId) : String := (table.get id).fullName

/-- The classes in which the attributes of a class are looked up, in order. -/
def lookupOrder (table : ClassTable) (id : ClassId) : List ClassId :=
  id :: (table.get id).ancestors

def inherits (table : ClassTable) (id ancestor : ClassId) : Bool :=
  (table.lookupOrder id).contains ancestor

def add (table : ClassTable) (c : LiveClass) : ClassId × ClassTable :=
  (table.classes.length, { classes := table.classes ++ [c] })

/-- The table with one more marker on a class. -/
def mark (table : ClassTable) (id : ClassId) (kind : OwnerKind) : ClassTable where
  classes := table.classes.modify id (.mark kind)

theorem get_mem (table : ClassTable) (id : ClassId) :
    table.get id ∈ LiveClass.object :: table.classes := by
  unfold get
  rcases Nat.lt_or_ge id table.classes.length with h | h
  · simp [List.getD, List.getElem?_eq_getElem h]
  · simp [List.getD, List.getElem?_eq_none h]

/-- A marker is added to one class and no other. -/
theorem markers_mark (table : ClassTable) (id other : ClassId) (kind : OwnerKind)
    (h : id < table.classes.length) :
    ((table.mark id kind).get other).markers =
      if other = id then (table.get other).markers.insert kind else (table.get other).markers := by
  unfold get mark
  by_cases ho : other = id
  · subst ho
    simp [List.getD, h, LiveClass.markers_mark]
  · simp [List.getD, ho, Ne.symm ho]

end ClassTable

end Live

end OwnerBinding
