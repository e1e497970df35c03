import Mathlib.Data.List.Dedup
import Mathlib.Data.List.Induction
import OwnerBinding.Association

/-!
# What an association records

`Association.ofList` binds pairs one after the other. It keeps the owner types in the order in which
they are first met, each in the form in which it is first met, and the binding that comes last for
each of them (`find?_ofList`).
-/

namespace OwnerBinding

namespace Association

theorem find?_setEntry (owner : OwnerType) (binding : Declaration) (t : OwnerType)
    (entries : List Entry) :
    (setEntry owner binding entries).find? (·.1.sameAs t) =
      if owner.sameAs t then
        some (((entries.find? (·.1.sameAs owner)).map Prod.fst).getD owner, binding)
      else entries.find? (·.1.sameAs t) := by
  induction entries with
  | nil => by_cases ht : owner.sameAs t <;> simp [setEntry, ht]
  | cons entry rest ih =>
      rw [setEntry]
      by_cases hs : entry.1.sameAs owner
      · have hsame : entry.1.sameAs t = owner.sameAs t := by
          rw [OwnerType.sameAs_iff] at hs
          simp [OwnerType.sameAs, hs]
        by_cases ht : owner.sameAs t <;> simp [hs, hsame, ht]
      · by_cases ht : owner.sameAs t
        · have hentry : entry.1.sameAs t = false := by
            simp only [OwnerType.sameAs_iff] at hs ht
            simp [OwnerType.sameAs, ← ht, hs]
          simp [hs, ih, ht, hentry]
        · simp only [hs, Bool.false_eq_true, ↓reduceIte, List.find?_cons, ih, ht]

theorem find?_set (association : Association) (owner : OwnerType) (binding : Declaration)
    (t : OwnerType) :
    (association.set owner binding).find? t =
      if owner.sameAs t then
        some (((association.find? owner).map Prod.fst).getD owner, binding)
      else association.find? t :=
  find?_setEntry owner binding t association.entries

theorem find?_eq_some_of_mem {entries : List Entry} {entry : Entry}
    (nodup : (keys entries).Nodup) (h : entry ∈ entries) :
    entries.find? (·.1.sameAs entry.1) = some entry := by
  induction entries with
  | nil => cases h
  | cons head rest ih =>
      obtain ⟨hhead, hrest⟩ := List.nodup_cons.1 nodup
      rcases List.mem_cons.1 h with rfl | hmem
      · simp [OwnerType.sameAs]
      · have hkey : entry.1.toTypeName ∈ keys rest := List.mem_map_of_mem hmem
        have hne : head.1.sameAs entry.1 = false := by
          rw [Bool.eq_false_iff, ne_eq, OwnerType.sameAs_iff]
          intro heq
          rw [← heq] at hkey
          exact hhead hkey
        rw [List.find?_cons]
        simp only [hne, ih hrest hmem]

theorem find?_of_mem {association : Association} {entry : Entry}
    (h : entry ∈ association.entries) : association.find? entry.1 = some entry :=
  find?_eq_some_of_mem association.nodup_keys h

@[simp] theorem ofList_nil : ofList [] = empty := rfl

@[simp] theorem ofList_append_singleton (pairs : List Entry) (pair : Entry) :
    ofList (pairs ++ [pair]) = (ofList pairs).set pair.1 pair.2 := by
  simp [ofList]

/-- A type is recorded in the form that is met first and with the binding that comes last. -/
theorem find?_ofList (pairs : List Entry) (t : OwnerType) :
    (ofList pairs).find? t =
      (pairs.find? (·.1.sameAs t)).bind fun first =>
        (pairs.reverse.find? (·.1.sameAs t)).map fun last => (first.1, last.2) := by
  induction pairs using List.reverseRecOn generalizing t with
  | nil => rfl
  | append_singleton pairs pair ih =>
      rw [ofList_append_singleton, find?_set, List.find?_append, List.reverse_append]
      by_cases ht : pair.1.sameAs t
      · have hsame : ∀ other : Entry, other.1.sameAs pair.1 = other.1.sameAs t := by
          rw [OwnerType.sameAs_iff] at ht
          simp [OwnerType.sameAs, ht]
        simp only [ht, ↓reduceIte, ih, hsame, List.find?_cons, List.reverse_singleton,
          List.singleton_append, Option.map_some]
        cases hfirst : pairs.find? (·.1.sameAs t) with
        | none => simp
        | some first =>
            have htype := List.find?_some hfirst
            have hmem := List.mem_of_find?_eq_some hfirst
            have hlast : (pairs.reverse.find? (·.1.sameAs t)).isSome := by
              rw [List.find?_isSome]
              exact ⟨first, List.mem_reverse.2 hmem, htype⟩
            obtain ⟨last, hlast⟩ := Option.isSome_iff_exists.1 hlast
            simp [hlast]
      · simp [ht, ih]

theorem keys_ofList_append_singleton (pairs : List Entry) (pair : Entry) :
    keys (ofList (pairs ++ [pair])).entries =
      if pair.1.toTypeName ∈ keys (ofList pairs).entries then keys (ofList pairs).entries
      else keys (ofList pairs).entries ++ [pair.1.toTypeName] := by
  rw [ofList_append_singleton]
  exact keys_setEntry pair.1 pair.2 (ofList pairs).entries

theorem mem_keys_ofList (pairs : List Entry) (t : TypeName) :
    t ∈ keys (ofList pairs).entries ↔ t ∈ keys pairs := by
  induction pairs using List.reverseRecOn with
  | nil => rfl
  | append_singleton pairs pair ih =>
      rw [keys_ofList_append_singleton]
      have hkeys : keys (pairs ++ [pair]) = keys pairs ++ [pair.1.toTypeName] := by simp [keys]
      split
      · next hmem =>
          rw [hkeys, List.mem_append, ih, List.mem_singleton]
          constructor
          · exact Or.inl
          · rintro (h | rfl)
            · exact h
            · exact ih.1 hmem
      · rw [hkeys, List.mem_append, List.mem_append, ih]

/-- The first type with a property is the same among the recorded types as among all that were
given. -/
theorem find?_keys_ofList (p : TypeName → Bool) (pairs : List Entry) :
    (keys (ofList pairs).entries).find? p = (keys pairs).find? p := by
  induction pairs using List.reverseRecOn with
  | nil => rfl
  | append_singleton pairs pair ih =>
      have hkeys : keys (pairs ++ [pair]) = keys pairs ++ [pair.1.toTypeName] := by simp [keys]
      rw [keys_ofList_append_singleton, hkeys, List.find?_append, ← ih]
      split
      · next hmem =>
          cases hfind : (keys (ofList pairs).entries).find? p with
          | some t => simp
          | none =>
              have hp := List.find?_eq_none.1 hfind _ hmem
              simp [hp]
      · rw [List.find?_append]

theorem size_ofList (pairs : List Entry) : (ofList pairs).size = (keys pairs).dedup.length := by
  have hperm : (keys (ofList pairs).entries).Perm (keys pairs).dedup := by
    rw [List.perm_ext_iff_of_nodup (ofList pairs).nodup_keys (List.nodup_dedup _)]
    intro t
    rw [mem_keys_ofList, List.mem_dedup]
  rw [← hperm.length_eq]
  simp [size, keys]

/-! ## Binding one owner -/

variable {association : Association} {owner key : OwnerType} {existing binding : Declaration}
  {allowOverrides : Bool}

theorem bindOwner_of_same
    (h : ∀ entry, association.find? owner = some entry →
      entry.2.qualifiedName = binding.qualifiedName) :
    association.bindOwner allowOverrides owner binding = pure (association.set owner binding) := by
  rw [bindOwner]
  split
  · rfl
  · next key existing hfind =>
      rw [if_pos (h _ hfind)]

theorem bindOwner_of_override (h : association.find? owner = some (key, existing))
    (hne : existing.qualifiedName ≠ binding.qualifiedName) :
    association.bindOwner true owner binding =
      ⟨[.rebound key.label existing.qualifiedName binding.qualifiedName],
        .ok (association.set owner binding)⟩ := by
  rw [bindOwner, h]
  simp only [hne, ↓reduceIte]
  rfl

theorem bindOwner_of_conflict (h : association.find? owner = some (key, existing))
    (hne : existing.qualifiedName ≠ binding.qualifiedName) :
    association.bindOwner false owner binding =
      ⟨[.resolutionFailed
          (.ownerTypeConflict key.label existing.qualifiedName binding.qualifiedName)],
        .error (.ownerTypeConflict key.label existing.qualifiedName binding.qualifiedName)⟩ := by
  rw [bindOwner, h]
  simp only [hne, ↓reduceIte, Bool.false_eq_true]
  rfl

end Association

end OwnerBinding
