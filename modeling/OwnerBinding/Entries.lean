/-!
# Entries under names

What the names of a namespace are bound to, and what the keys of an object stand for, are lists of
entries in the order of their first mention. Setting a name that is there keeps its place
(`Entries.put`), and is seen by that name alone (`Entries.lookup_put`).
-/

namespace OwnerBinding

abbrev Entries (α : Type) := List (String × α)

namespace Entries

variable {α β : Type}

/-- Sets what a name stands for. A name that is there keeps its place. -/
def put (name : String) (value : α) : Entries α → Entries α
  | [] => [(name, value)]
  | entry :: rest =>
      if entry.1 = name then (name, value) :: rest else entry :: put name value rest

theorem lookup_put (name other : String) (value : α) (entries : Entries α) :
    (put name value entries).lookup other =
      if other = name then some value else entries.lookup other := by
  induction entries with
  | nil => by_cases h : other = name <;> simp [put, h, List.lookup_cons, beq_false_of_ne]
  | cons entry rest ih =>
      obtain ⟨bound, old⟩ := entry
      rw [put]
      by_cases hbound : bound = name
      · subst hbound
        by_cases h : other = bound <;> simp [h, List.lookup_cons, beq_false_of_ne]
      · by_cases h : other = bound
        · subst h
          simp [hbound]
        · simp [hbound, List.lookup_cons, beq_false_of_ne h, ih]

/-- A name that is set twice in a row stands for what comes last. -/
theorem put_put (name : String) (first second : α) (entries : Entries α) :
    put name second (put name first entries) = put name second entries := by
  induction entries with
  | nil => simp [put]
  | cons entry rest ih =>
      rw [put, put]
      by_cases hname : entry.1 = name
      · simp [hname, put]
      · rw [if_neg hname, if_neg hname, put, if_neg hname, ih]

theorem mem_put {name : String} {value : α} {entries : Entries α} {entry : String × α}
    (h : entry ∈ put name value entries) : entry = (name, value) ∨ entry ∈ entries := by
  induction entries with
  | nil => exact .inl (List.mem_singleton.1 h)
  | cons first rest ih =>
      rw [put] at h
      split at h
      · rcases List.mem_cons.1 h with hnew | hrest
        · exact .inl hnew
        · exact .inr (List.mem_cons_of_mem first hrest)
      · rcases List.mem_cons.1 h with rfl | hrest
        · exact .inr List.mem_cons_self
        · exact (ih hrest).imp id (List.mem_cons_of_mem first)

/-- What the other names give does not change when a name is set that gives nothing. -/
theorem filterMap_put {f : String × α → Option β} {name : String} {value : α} {entries : Entries α}
    (hnew : f (name, value) = none) (hold : ∀ entry ∈ entries, entry.1 = name → f entry = none) :
    (put name value entries).filterMap f = entries.filterMap f := by
  induction entries with
  | nil => simp [put, hnew]
  | cons first rest ih =>
      rw [List.forall_mem_cons] at hold
      rw [put]
      split
      · next hname => rw [List.filterMap_cons_none hnew, List.filterMap_cons_none (hold.1 hname)]
      · rw [List.filterMap_cons, List.filterMap_cons, ih hold.2]

end Entries

end OwnerBinding
