/-!
# Views

The objects that a factory module works with when it is called: inflaters, groups of views, owners
with the inflater they hold, and bindings with what they were made from. Objects live in a store and
refer to each other by their numbers there, so groups can contain each other.
-/

namespace OwnerBinding

/-- The number of an object in its store. -/
abbrev ViewId := Nat

inductive ViewObject where
  | inflater
  /-- A group with its children in the order in which they were added. A child may be nothing. -/
  | group (children : List (Option ViewId))
  | owner (inflater : ViewId)
  | binding (className : String) (inflater parent : Option ViewId)
  deriving DecidableEq, Repr

structure ViewStore where
  objects : List ViewObject
  deriving DecidableEq, Repr

namespace ViewStore

def empty : ViewStore := { objects := [] }

def get? (store : ViewStore) (id : ViewId) : Option ViewObject := store.objects[id]?

def add (store : ViewStore) (object : ViewObject) : ViewId × ViewStore :=
  (store.objects.length, { objects := store.objects ++ [object] })

/-- Makes an owner. An owner that is not given an inflater makes its own. -/
def addOwner (store : ViewStore) (inflater : Option ViewId) : ViewId × ViewStore :=
  match inflater with
  | some inflater => store.add (.owner inflater)
  | none =>
      let (made, store) := store.add .inflater
      store.add (.owner made)

def inflaterOf? (store : ViewStore) (owner : ViewId) : Option ViewId :=
  match store.get? owner with
  | some (.owner inflater) => some inflater
  | _ => none

/-- Adds a child at the end of a group. Only groups take children. -/
def addView (store : ViewStore) (group : ViewId) (view : Option ViewId) : Option ViewStore :=
  match store.get? group with
  | some (.group children) =>
      some { objects := store.objects.set group (.group (children ++ [view])) }
  | _ => none

/-- Makes a binding of a class, and adds it to its parent if it is to be attached and has one. -/
def inflate (store : ViewStore) (className : String) (inflater parent : Option ViewId)
    (attach : Bool) : Option (ViewId × ViewStore) :=
  let (binding, made) := store.add (.binding className inflater parent)
  match attach, parent with
  | true, some group => (made.addView group (some binding)).map fun attached => (binding, attached)
  | _, _ => some (binding, made)

end ViewStore

end OwnerBinding
