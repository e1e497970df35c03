import Mathlib.Data.List.Sort
import OwnerBinding.Text.NameSet

/-!
# Sets of names are told by their members

A set of names lists its members in increasing order, and there is one such list for given members.
So what a set was made from cannot be seen in it, but for the members: neither their order nor their
repetitions.
-/

namespace OwnerBinding

namespace NameSet

/-- A set of names is told by its members. -/
theorem ofList_eq_iff (names : List String) (set : NameSet) :
    ofList names = set ↔ ∀ name, name ∈ set ↔ name ∈ names := by
  constructor
  · rintro rfl name
    exact mem_ofList name names
  · intro h
    have hmem : ∀ name, name ∈ (ofList names).toList ↔ name ∈ set.toList := by
      intro name
      rw [mem_toList, mem_toList, mem_ofList, h]
    have hlist := (ofList names).sorted.eq_of_mem_iff set.sorted hmem
    rcases hset : ofList names with ⟨own, _⟩
    cases set
    simp_all

end NameSet

end OwnerBinding
