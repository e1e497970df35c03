import OwnerBinding.Live.Collection

/-!
# What the collection of classes reaches

A class is met when some collected class has its name. Collecting a queue meets every class in it and
every class that a collected class refers to, unless its name was met before. Without anything met
before, the collection is closed under references.
-/

namespace OwnerBinding

namespace Live

namespace ClassTable

/-- Some class of a list has the name of a class. -/
def Meets (table : ClassTable) (collected : List ClassId) (id : ClassId) : Prop :=
  ∃ met ∈ collected, table.fullName met = table.fullName id

variable {table : ClassTable}

theorem Meets.cons {collected : List ClassId} {id : ClassId} (h : table.Meets collected id)
    (first : ClassId) : table.Meets (first :: collected) id := by
  obtain ⟨met, hmet, hname⟩ := h
  exact ⟨met, List.mem_cons_of_mem first hmet, hname⟩

theorem collectFrom_nil (seen : List String) : table.collectFrom seen [] = [] := by
  rw [collectFrom]

theorem collectFrom_cons_of_mem {seen : List String} {id : ClassId}
    (h : table.fullName id ∈ seen) (rest : List ClassId) :
    table.collectFrom seen (id :: rest) = table.collectFrom seen rest := by
  rw [collectFrom, if_pos h]

theorem collectFrom_cons_of_notMem {seen : List String} {id : ClassId}
    (h : table.fullName id ∉ seen) (rest : List ClassId) :
    table.collectFrom seen (id :: rest) =
      id :: table.collectFrom (table.fullName id :: seen) (rest ++ table.references id) := by
  rw [collectFrom, if_neg h]

/-- Every class of the queue is met, unless its name was met before. -/
theorem meets_collectFrom_of_mem_queue (seen : List String) (queue : List ClassId) :
    ∀ id ∈ queue, table.fullName id ∉ seen → table.Meets (table.collectFrom seen queue) id := by
  induction seen, queue using collectFrom.induct table with
  | case1 seen =>
      intro id hid
      cases hid
  | case2 seen first rest hseen ih =>
      intro id hid hfresh
      rw [collectFrom_cons_of_mem hseen]
      rcases List.mem_cons.1 hid with rfl | hid
      · exact absurd hseen hfresh
      · exact ih id hid hfresh
  | case3 seen first rest hfirst ih =>
      intro id hid hfresh
      rw [collectFrom_cons_of_notMem hfirst]
      by_cases hname : table.fullName id = table.fullName first
      · exact ⟨first, List.mem_cons_self, hname.symm⟩
      · have hrest : id ∈ rest := by
          rcases List.mem_cons.1 hid with rfl | hid
          · exact absurd rfl hname
          · exact hid
        have hfresh' : table.fullName id ∉ table.fullName first :: seen := by
          simp [hname, hfresh]
        exact (ih id (List.mem_append_left _ hrest) hfresh').cons first

theorem meets_collectFrom_of_mem_references (seen : List String) (queue : List ClassId) :
    ∀ id ∈ table.collectFrom seen queue, ∀ reference ∈ table.references id,
      table.fullName reference ∉ seen →
        table.Meets (table.collectFrom seen queue) reference := by
  induction seen, queue using collectFrom.induct table with
  | case1 seen =>
      intro id hid
      rw [collectFrom_nil] at hid
      cases hid
  | case2 seen first rest hseen ih =>
      rw [collectFrom_cons_of_mem hseen]
      exact ih
  | case3 seen first rest hfirst ih =>
      rw [collectFrom_cons_of_notMem hfirst]
      intro id hid reference hreference hfresh
      by_cases hname : table.fullName reference = table.fullName first
      · exact ⟨first, List.mem_cons_self, hname.symm⟩
      · have hfresh' : table.fullName reference ∉ table.fullName first :: seen := by
          simp [hname, hfresh]
        rcases List.mem_cons.1 hid with rfl | hid
        · -- The references of the class just taken wait in the queue from now on.
          have hqueue := List.mem_append_right rest hreference
          exact (meets_collectFrom_of_mem_queue _ _ reference hqueue hfresh').cons id
        · exact (ih id hid reference hreference hfresh').cons first

theorem meets_closure_of_mem {roots : List ClassId} {id : ClassId} (h : id ∈ roots) :
    table.Meets (table.closure roots) id :=
  meets_collectFrom_of_mem_queue [] roots id h (by simp)

/-- The collected classes are closed under references, whatever the roots are. -/
theorem meets_closure_of_mem_references {roots : List ClassId} {id reference : ClassId}
    (h : id ∈ table.closure roots) (hreference : reference ∈ table.references id) :
    table.Meets (table.closure roots) reference :=
  meets_collectFrom_of_mem_references [] roots id h reference hreference (by simp)

end ClassTable

end Live

end OwnerBinding
