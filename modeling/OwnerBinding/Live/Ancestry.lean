import OwnerBinding.Live.Class

/-!
# The order of ancestors

The classes that a class inherits from stand in one order, nearest first. It comes from merging the
orders of its parents and the list of the parents itself: the next class is the first head of these
lists that is in the tail of none of them. So a class stands before its parents, and parents stand
in the order in which they are written.
-/

namespace OwnerBinding

namespace Live

/-- The first head that is in no tail. -/
def nextAncestor? (orders : List (List ClassId)) : Option ClassId :=
  (orders.filterMap List.head?).find? fun head =>
    orders.all fun order => !order.tail.contains head

/-- The orders without a class at their heads. -/
def dropHead (id : ClassId) (orders : List (List ClassId)) : List (List ClassId) :=
  orders.map fun order => if order.head? = some id then order.tail else order

/-- The classes merged from orders in at most so many steps. Orders that contradict each other have
no next class, and the merge stops there. -/
def mergeWithin : (steps : Nat) → (orders : List (List ClassId)) → List ClassId
  | 0, _ => []
  | steps + 1, orders =>
      match nextAncestor? orders with
      | none => []
      | some id => id :: mergeWithin steps (dropHead id orders)

/-- The classes merged from orders. Each step takes a class out of some order, so there are no more
steps than members. -/
def mergeOrders (orders : List (List ClassId)) : List ClassId :=
  mergeWithin orders.flatten.length orders

/-- The order of the ancestors of a class with the given parents. -/
def ClassTable.ancestorsOf (table : ClassTable) (parents : List ClassId) : List ClassId :=
  mergeOrders (parents.map table.lookupOrder ++ [parents])

end Live

end OwnerBinding
