/-!
# Sets of names

A set of names is kept as the strictly increasing list of its members in code point order. Two sets
with the same members are equal, and listing a set always gives the same order.
-/

namespace OwnerBinding

/-- Puts a name into an increasing list, unless it is there already. -/
def insertName (name : String) : List String → List String
  | [] => [name]
  | head :: rest =>
      if name < head then name :: head :: rest
      else if name = head then head :: rest
      else head :: insertName name rest

theorem mem_insertName (name other : String) (names : List String) :
    other ∈ insertName name names ↔ other = name ∨ other ∈ names := by
  induction names with
  | nil => simp [insertName]
  | cons head rest ih =>
      rw [insertName]
      split
      · simp
      · split
        · next h => subst h; simp
        · simp only [List.mem_cons, ih]
          constructor
          · rintro (h | h | h) <;> simp [h]
          · rintro (h | h | h) <;> simp [h]

theorem pairwise_insertName (name : String) {names : List String}
    (sorted : names.Pairwise (· < ·)) : (insertName name names).Pairwise (· < ·) := by
  induction names with
  | nil => simp [insertName]
  | cons head rest ih =>
      have ⟨below, sortedRest⟩ := List.pairwise_cons.1 sorted
      rw [insertName]
      split
      · next h =>
          refine List.pairwise_cons.2 ⟨?_, sorted⟩
          intro other member
          rcases List.mem_cons.1 member with rfl | member
          · exact h
          · exact String.lt_trans h (below other member)
      · split
        · exact sorted
        · next notBelow different =>
            refine List.pairwise_cons.2 ⟨?_, ih sortedRest⟩
            intro other member
            rcases (mem_insertName name other rest).1 member with rfl | member
            · have := String.not_lt.1 notBelow
              grind
            · exact below other member

/-- A finite set of names, as the strictly increasing list of its members. -/
structure NameSet where
  /-- The members in code point order. -/
  toList : List String
  sorted : toList.Pairwise (· < ·) := by simp
  deriving DecidableEq

namespace NameSet

def empty : NameSet := { toList := [] }

def insert (name : String) (names : NameSet) : NameSet where
  toList := insertName name names.toList
  sorted := pairwise_insertName name names.sorted

/-- The set of the names of a list, whatever their order and repetitions. -/
def ofList (names : List String) : NameSet := names.foldr insert empty

instance : Membership String NameSet where
  mem names name := name ∈ names.toList

instance (name : String) (names : NameSet) : Decidable (name ∈ names) :=
  inferInstanceAs (Decidable (name ∈ names.toList))

@[simp] theorem mem_toList (name : String) (names : NameSet) :
    name ∈ names.toList ↔ name ∈ names := Iff.rfl

@[simp] theorem mem_insert (name other : String) (names : NameSet) :
    other ∈ insert name names ↔ other = name ∨ other ∈ names :=
  mem_insertName name other names.toList

@[simp] theorem mem_ofList (name : String) (names : List String) :
    name ∈ ofList names ↔ name ∈ names := by
  induction names with
  | nil => simp [ofList, empty, ← mem_toList]
  | cons head rest ih =>
      rw [show ofList (head :: rest) = insert head (ofList rest) from rfl]
      simp [ih]

end NameSet

end OwnerBinding
