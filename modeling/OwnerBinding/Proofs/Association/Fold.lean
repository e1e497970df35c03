import Mathlib.Order.Bounds.Basic
import OwnerBinding.Proofs.Association.Obstruction
import OwnerBinding.Proofs.First

/-!
# What a sequence of owners comes to

Owners are associated one after the other, and the least position at which this cannot go on decides
the failure (`AssociationOutcome`). If there is no such position, the association has the types of
the owners in the order in which they are first met, each in the form of its first owner and with
the binding of its last one (`Association.Records`).

The position is described here by the owners before it alone: one of them with the same type and a
binding of another name is enough, whichever it is. That it comes to the same as a comparison with
the first of them (`Resolver.Obstruction`) is because no earlier position was in the way.
-/

namespace OwnerBinding

namespace Association

theorem keys_append_singleton (pairs : List Entry) (pair : Entry) :
    keys (pairs ++ [pair]) = keys pairs ++ [pair.1.toTypeName] := by
  simp [keys]

theorem eraseDups_append_singleton (names : List TypeName) (t : TypeName) :
    (names ++ [t]).eraseDups =
      if t ∈ names.eraseDups then names.eraseDups else names.eraseDups ++ [t] := by
  rw [List.eraseDups_append]
  by_cases h : t ∈ names
  · simp [List.removeAll, h]
  · simp [List.removeAll, h, List.eraseDups_cons]

theorem keys_ofList (pairs : List Entry) :
    keys (ofList pairs).entries = (keys pairs).eraseDups := by
  induction pairs using List.reverseRecOn with
  | nil => rfl
  | append_singleton pairs pair ih =>
      rw [keys_ofList_append_singleton, ih, keys_append_singleton, eraseDups_append_singleton]

/-- What an association says about the owners that it was made from. -/
structure Records (resolver : Resolver) (owners : List ScannedOwner) (association : Association) :
    Prop where
  keys_eq : keys association.entries = (owners.map (·.ownerType.toTypeName)).eraseDups
  /-- A type is recorded in the form of its first owner. -/
  first_form : ∀ entry ∈ association.entries, ∃ first,
    IsFirst (fun o => o.ownerType.toTypeName = entry.1.toTypeName) owners first ∧
      entry.1 = first.ownerType
  /-- A type is recorded with the binding of its last owner. -/
  last_binding : ∀ entry ∈ association.entries, ∃ last,
    IsFirst (fun o => o.ownerType.toTypeName = entry.1.toTypeName) owners.reverse last ∧
      (resolver.resolve last.declaration).result = .ok entry.2
  /-- A binding is what the graph has under its name, and it implements the contract. -/
  binding_found : ∀ entry ∈ association.entries,
    resolver.graph.get? entry.2.qualifiedName = some entry.2 ∧
      entry.2.implements resolver.contract = true

end Association

namespace Resolver

/-- An owner cannot follow the owners before it: it has no binding, or overrides are not allowed and
one of the others has the same type and a binding of another name. -/
def Stuck (resolver : Resolver) (allowOverrides : Bool) (earlier : List ScannedOwner)
    (owner : ScannedOwner) : Prop :=
  (∀ binding, (resolver.resolve owner.declaration).result ≠ .ok binding) ∨
    allowOverrides = false ∧ ∃ other ∈ earlier,
      other.ownerType.toTypeName = owner.ownerType.toTypeName ∧
        ∃ existing incoming, (resolver.resolve other.declaration).result = .ok existing ∧
          (resolver.resolve owner.declaration).result = .ok incoming ∧
            existing.qualifiedName ≠ incoming.qualifiedName

/-- The owner at a position cannot follow those before it. -/
def StuckAt (resolver : Resolver) (allowOverrides : Bool) (owners : List ScannedOwner) (i : Nat) :
    Prop :=
  ∃ owner, owners[i]? = some owner ∧ resolver.Stuck allowOverrides (owners.take i) owner

end Resolver

/-- How associating owners ends. -/
structure AssociationOutcome (resolver : Resolver) (allowOverrides : Bool)
    (owners : List ScannedOwner) (result : Except Failure Association) : Prop where
  unresolved : ∀ i owner, IsLeast {j | resolver.StuckAt allowOverrides owners j} i →
    owners[i]? = some owner →
      (∀ binding, (resolver.resolve owner.declaration).result ≠ .ok binding) →
        result = .error (.bindingNotFound owner.declaration.qualifiedName resolver.contract)
  /-- The conflict is told with the form of the first owner of the type, and with the name that the
  bindings of all owners of the type before this one have. -/
  conflict : ∀ i owner incoming, IsLeast {j | resolver.StuckAt allowOverrides owners j} i →
    owners[i]? = some owner → (resolver.resolve owner.declaration).result = .ok incoming →
      ∃ first existing,
        IsFirst (fun o => o.ownerType.toTypeName = owner.ownerType.toTypeName) (owners.take i)
          first ∧
        (resolver.resolve first.declaration).result = .ok existing ∧
        existing.qualifiedName ≠ incoming.qualifiedName ∧
        (∀ other ∈ owners.take i, other.ownerType.toTypeName = owner.ownerType.toTypeName →
          ∀ binding, (resolver.resolve other.declaration).result = .ok binding →
            binding.qualifiedName = existing.qualifiedName) ∧
        result = .error (.ownerTypeConflict first.ownerType.label existing.qualifiedName
          incoming.qualifiedName)
  recorded : (∀ i, ¬ resolver.StuckAt allowOverrides owners i) →
    ∃ association, result = .ok association ∧ Association.Records resolver owners association

namespace Resolver

variable {resolver : Resolver} {allowOverrides : Bool} {owners : List ScannedOwner}

theorem forall_result_resolve_ne_ok_iff {d : Declaration} :
    (∀ binding, (resolver.resolve d).result ≠ .ok binding) ↔ resolver.binding? d = none := by
  simp [result_resolve_eq_ok_iff, Option.eq_none_iff_forall_ne_some]

/-- What obstructs an owner leaves it stuck. -/
theorem Obstruction.stuck {earlier : List ScannedOwner} {owner : ScannedOwner} {failure : Failure}
    (h : resolver.Obstruction allowOverrides earlier owner failure) :
    resolver.Stuck allowOverrides earlier owner := by
  cases h with
  | unresolved hnone => exact .inl (forall_result_resolve_ne_ok_iff.2 hnone)
  | @conflict first existing incoming hallow hfirst hexisting hincoming hne =>
      have htype := List.find?_some hfirst
      rw [OwnerType.sameAs_iff] at htype
      exact .inr ⟨hallow, first, List.mem_of_find?_eq_some hfirst, htype, existing, incoming,
        result_resolve_eq_ok_iff.2 hexisting, result_resolve_eq_ok_iff.2 hincoming, hne⟩

theorem exists_find?_sameAs {t : OwnerType} {other : ScannedOwner} (hother : other ∈ owners)
    (htype : other.ownerType.toTypeName = t.toTypeName) :
    ∃ first, owners.find? (·.ownerType.sameAs t) = some first := by
  have hsome : (owners.find? (·.ownerType.sameAs t)).isSome := by
    rw [List.find?_isSome]
    exact ⟨other, hother, by simpa using htype⟩
  exact Option.isSome_iff_exists.1 hsome

/-- The owners before all stuck positions are unobstructed. -/
theorem unobstructed_take {i : Nat} (h : ∀ j < i, ¬ resolver.StuckAt allowOverrides owners j) :
    resolver.Unobstructed allowOverrides (owners.take i) := by
  have hcases : resolver.Unobstructed allowOverrides (owners.take i) ∨
      ∃ failure, resolver.FirstObstruction allowOverrides (owners.take i) failure :=
    unobstructed_or_firstObstruction _
  rcases hcases with hclear | hfirst
  · exact hclear
  · obtain ⟨failure, earlier, owner, later, hsplit, _, hobstruction⟩ := hfirst
    have howners : owners = earlier ++ owner :: (later ++ owners.drop i) := by
      calc
        owners = owners.take i ++ owners.drop i := (List.take_append_drop i owners).symm
        _ = earlier ++ owner :: (later ++ owners.drop i) := by simp [hsplit]
    have hlength : earlier.length < i := by
      have hle := List.length_take_le i owners
      rw [hsplit, List.length_append, List.length_cons] at hle
      omega
    have hget : owners[earlier.length]? = some owner := by
      rw [howners]
      simp
    have htake : owners.take earlier.length = earlier := by
      rw [howners]
      simp
    have hstuck : resolver.Stuck allowOverrides (owners.take earlier.length) owner := by
      rw [htake]
      exact hobstruction.stuck
    exact absurd ⟨owner, hget, hstuck⟩ (h earlier.length hlength)

/-- At the least stuck position stands the first obstructed owner. -/
theorem firstObstruction_of_isLeast {i : Nat} {owner : ScannedOwner} {failure : Failure}
    (h : IsLeast {j | resolver.StuckAt allowOverrides owners j} i) (howner : owners[i]? = some owner)
    (hobstruction : resolver.Obstruction allowOverrides (owners.take i) owner failure) :
    resolver.FirstObstruction allowOverrides owners failure := by
  obtain ⟨hlt, hget⟩ := List.getElem?_eq_some_iff.1 howner
  have hsplit : owners = owners.take i ++ owner :: owners.drop (i + 1) := by
    rw [← hget, List.getElem_cons_drop, List.take_append_drop]
  refine ⟨owners.take i, owner, owners.drop (i + 1), hsplit, unobstructed_take ?_, hobstruction⟩
  intro j hj hstuck
  exact absurd (h.2 hstuck) (Nat.not_le.2 hj)

end Resolver

namespace Association

open Resolver

variable {resolver : Resolver} {allowOverrides : Bool} {owners : List ScannedOwner}

theorem records_ofList_pairs
    (h : ∀ owner ∈ owners, ∃ binding, resolver.binding? owner.declaration = some binding) :
    Records resolver owners (ofList (resolver.pairs owners)) := by
  have hreverse : (resolver.pairs owners).reverse = resolver.pairs owners.reverse := by
    simp [Resolver.pairs]
  have h' : ∀ owner ∈ owners.reverse,
      ∃ binding, resolver.binding? owner.declaration = some binding := by
    simpa using h
  -- An entry is what is found for its type: the form of the first pair, the binding of the last.
  have hentry : ∀ entry ∈ (ofList (resolver.pairs owners)).entries, ∃ first last,
      owners.find? (·.ownerType.sameAs entry.1) = some first ∧
      owners.reverse.find? (·.ownerType.sameAs entry.1) = some last ∧
      entry.1 = first.ownerType ∧ resolver.binding? last.declaration = some entry.2 := by
    intro entry hmem
    have hfind := find?_of_mem hmem
    rw [find?_ofList, hreverse, find?_pairs h, find?_pairs h', Option.bind_eq_some_iff] at hfind
    obtain ⟨firstPair, hfirstPair, hlastPair⟩ := hfind
    obtain ⟨first, hfirst, hfirstMap⟩ := Option.bind_eq_some_iff.1 hfirstPair
    obtain ⟨lastPair, hlastBind, hpair⟩ := Option.map_eq_some_iff.1 hlastPair
    obtain ⟨last, hlast, hlastMap⟩ := Option.bind_eq_some_iff.1 hlastBind
    obtain ⟨_, _, rfl⟩ := Option.map_eq_some_iff.1 hfirstMap
    obtain ⟨binding, hbinding, rfl⟩ := Option.map_eq_some_iff.1 hlastMap
    refine ⟨first, last, hfirst, hlast, ?_, ?_⟩
    · rw [← hpair]
    · rw [← hpair]
      exact hbinding
  constructor
  · rw [keys_ofList, keys_pairs h]
  · intro entry hmem
    obtain ⟨first, _, hfirst, _, hform, _⟩ := hentry entry hmem
    exact ⟨first, (isFirst_iff_find? _ _ _).2 hfirst, hform⟩
  · intro entry hmem
    obtain ⟨_, last, _, hlast, _, hbinding⟩ := hentry entry hmem
    exact ⟨last, (isFirst_iff_find? _ _ _).2 hlast, result_resolve_eq_ok_iff.2 hbinding⟩
  · intro entry hmem
    obtain ⟨_, _, _, _, _, hbinding⟩ := hentry entry hmem
    exact ⟨get?_qualifiedName_of_binding? hbinding, implements_of_binding? hbinding⟩

/-- Every sequence of owners is associated up to its least stuck position, or as a whole. -/
theorem associate_outcome (resolver : Resolver) (allowOverrides : Bool)
    (owners : List ScannedOwner) :
    AssociationOutcome resolver allowOverrides owners
      (associate resolver allowOverrides owners).result where
  unresolved := by
    intro i owner hleast howner hnone
    have hobstruction : resolver.Obstruction allowOverrides (owners.take i) owner
        (resolver.notFound owner.declaration) :=
      .unresolved (forall_result_resolve_ne_ok_iff.1 hnone)
    exact result_associate_of_firstObstruction
      (firstObstruction_of_isLeast hleast howner hobstruction)
  conflict := by
    intro i owner incoming hleast howner hincoming
    have hclear : resolver.Unobstructed allowOverrides (owners.take i) := by
      refine unobstructed_take ?_
      intro j hj hstuck
      exact absurd (hleast.2 hstuck) (Nat.not_le.2 hj)
    obtain ⟨found, hfound, hstuck⟩ := hleast.1
    obtain rfl : found = owner := Option.some.inj (hfound.symm.trans howner)
    rcases hstuck with hnone | ⟨hallow, other, hother, htype, existing, incoming', hexisting,
      hincoming', hne⟩
    · exact absurd hincoming (hnone incoming)
    · obtain rfl : incoming' = incoming := Except.ok.inj (hincoming'.symm.trans hincoming)
      obtain ⟨first, hfirst⟩ := exists_find?_sameAs hother htype
      have hfirstMem := List.mem_of_find?_eq_some hfirst
      have hfirstType := List.find?_some hfirst
      rw [OwnerType.sameAs_iff] at hfirstType
      obtain ⟨binding, hbinding⟩ := hclear.exists_binding hfirstMem
      -- The owners of the type before this one agree, so the first of them is in conflict too.
      have hagree : ∀ o ∈ owners.take i, o.ownerType.toTypeName = found.ownerType.toTypeName →
          ∀ b, (resolver.resolve o.declaration).result = .ok b →
            b.qualifiedName = binding.qualifiedName := by
        intro o ho hotype b hb
        exact hclear.qualifiedName_eq hallow ho hfirstMem (hotype.trans hfirstType.symm)
          (result_resolve_eq_ok_iff.1 hb) hbinding
      have hne' : binding.qualifiedName ≠ incoming'.qualifiedName := by
        rw [← hagree other hother htype existing hexisting]
        exact hne
      have hobstruction := Obstruction.conflict hallow hfirst hbinding
        (result_resolve_eq_ok_iff.1 hincoming) hne'
      exact ⟨first, binding, (isFirst_iff_find? _ _ _).2 hfirst,
        result_resolve_eq_ok_iff.2 hbinding, hne', hagree, result_associate_of_firstObstruction
          (firstObstruction_of_isLeast hleast howner hobstruction)⟩
  recorded := by
    intro hnone
    have hclear : resolver.Unobstructed allowOverrides owners := by
      have htake : resolver.Unobstructed allowOverrides (owners.take owners.length) :=
        unobstructed_take fun j _ => hnone j
      rwa [List.take_length] at htake
    exact ⟨_, (result_associate_eq_ok_iff owners _).2 ⟨hclear, rfl⟩,
      records_ofList_pairs fun owner howner => hclear.exists_binding howner⟩

end Association

end OwnerBinding
