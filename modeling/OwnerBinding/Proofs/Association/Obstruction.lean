import OwnerBinding.Proofs.Association.Record
import OwnerBinding.Proofs.Resolution

/-!
# What stands in the way of an association

An owner is obstructed behind the owners before it if it has no binding, or if overrides are not
allowed and the first of those with its type has a binding of another name. Owners are associated
exactly when none of them is obstructed, and then the association records the bindings that are
resolved for them (`result_associate_eq_ok_iff`). Otherwise the first obstructed owner decides the
failure (`result_associate_eq_error_iff`), whatever follows it.
-/

namespace OwnerBinding

namespace Resolver

/-- The types of owners with the bindings that are resolved for them. -/
def pairs (resolver : Resolver) (owners : List ScannedOwner) : List Association.Entry :=
  owners.filterMap fun owner =>
    (resolver.binding? owner.declaration).map fun binding => (owner.ownerType, binding)

/-- The binding of the last owner of a type, with the type in the form of the first. -/
def recorded? (resolver : Resolver) (owners : List ScannedOwner) (t : OwnerType) :
    Option Association.Entry :=
  (owners.find? (·.ownerType.sameAs t)).bind fun first =>
    (owners.reverse.find? (·.ownerType.sameAs t)).bind fun last =>
      (resolver.binding? last.declaration).map fun existing => (first.ownerType, existing)

/-- The failure that an owner brings about behind the owners before it. -/
inductive Obstruction (resolver : Resolver) (allowOverrides : Bool)
    (earlier : List ScannedOwner) (owner : ScannedOwner) : Failure → Prop
  | unresolved (h : resolver.binding? owner.declaration = none) :
      Obstruction resolver allowOverrides earlier owner (resolver.notFound owner.declaration)
  | conflict {first : ScannedOwner} {existing incoming : Declaration}
      (hallow : allowOverrides = false)
      (hfirst : earlier.find? (·.ownerType.sameAs owner.ownerType) = some first)
      (hexisting : resolver.binding? first.declaration = some existing)
      (hincoming : resolver.binding? owner.declaration = some incoming)
      (hne : existing.qualifiedName ≠ incoming.qualifiedName) :
      Obstruction resolver allowOverrides earlier owner
        (.ownerTypeConflict first.ownerType.label existing.qualifiedName incoming.qualifiedName)

/-- No owner is obstructed behind those before it. -/
def Unobstructed (resolver : Resolver) (allowOverrides : Bool) (owners : List ScannedOwner) :
    Prop :=
  ∀ earlier owner later, owners = earlier ++ owner :: later →
    ∀ failure, ¬ resolver.Obstruction allowOverrides earlier owner failure

/-- The failure of the first obstructed owner. -/
def FirstObstruction (resolver : Resolver) (allowOverrides : Bool) (owners : List ScannedOwner)
    (failure : Failure) : Prop :=
  ∃ earlier owner later, owners = earlier ++ owner :: later ∧
    resolver.Unobstructed allowOverrides earlier ∧
      resolver.Obstruction allowOverrides earlier owner failure

variable {resolver : Resolver} {allowOverrides : Bool}

theorem Obstruction.ne_missingOutputDirectory {earlier : List ScannedOwner} {owner : ScannedOwner}
    {failure : Failure} (h : resolver.Obstruction allowOverrides earlier owner failure)
    (option : String) : failure ≠ .missingOutputDirectory option := by
  cases h with
  | unresolved _ => simp [notFound]
  | conflict _ _ _ _ _ => simp

theorem unobstructed_nil : resolver.Unobstructed allowOverrides [] := by
  intro earlier owner later h
  simp at h

theorem Unobstructed.of_append {owners rest : List ScannedOwner}
    (h : resolver.Unobstructed allowOverrides (owners ++ rest)) :
    resolver.Unobstructed allowOverrides owners := by
  rintro earlier owner later rfl
  exact h earlier owner (later ++ rest) (by simp)

theorem unobstructed_append_singleton_iff (owners : List ScannedOwner) (owner : ScannedOwner) :
    resolver.Unobstructed allowOverrides (owners ++ [owner]) ↔
      resolver.Unobstructed allowOverrides owners ∧
        ∀ failure, ¬ resolver.Obstruction allowOverrides owners owner failure := by
  constructor
  · intro h
    exact ⟨h.of_append, h owners owner [] rfl⟩
  · rintro ⟨hbefore, hlast⟩ earlier other later heq
    rcases List.eq_nil_or_concat later with rfl | ⟨later', last, rfl⟩
    · obtain ⟨rfl, hother⟩ := List.append_inj' heq rfl
      obtain rfl := List.singleton_inj.1 hother
      exact hlast
    · rw [List.concat_eq_append, ← List.cons_append, ← List.append_assoc] at heq
      exact hbefore earlier other later' (List.append_inj' heq rfl).1

/-- Obstruction comes first somewhere, if it comes at all. -/
theorem unobstructed_or_firstObstruction (owners : List ScannedOwner) :
    resolver.Unobstructed allowOverrides owners ∨
      ∃ failure, resolver.FirstObstruction allowOverrides owners failure := by
  induction owners using List.reverseRecOn with
  | nil => exact .inl unobstructed_nil
  | append_singleton owners owner ih =>
      rcases ih with hclear | ⟨failure, earlier, other, later, rfl, hearlier, hother⟩
      · by_cases hlast : ∃ failure, resolver.Obstruction allowOverrides owners owner failure
        · obtain ⟨failure, hlast⟩ := hlast
          exact .inr ⟨failure, owners, owner, [], rfl, hclear, hlast⟩
        · rw [not_exists] at hlast
          exact .inl ((unobstructed_append_singleton_iff owners owner).2 ⟨hclear, hlast⟩)
      · exact .inr ⟨failure, earlier, other, later ++ [owner], by simp, hearlier, hother⟩

theorem Unobstructed.exists_binding {owners : List ScannedOwner} {owner : ScannedOwner}
    (h : resolver.Unobstructed allowOverrides owners) (howner : owner ∈ owners) :
    ∃ binding, resolver.binding? owner.declaration = some binding := by
  obtain ⟨earlier, later, rfl⟩ := List.append_of_mem howner
  cases hbinding : resolver.binding? owner.declaration with
  | some binding => exact ⟨binding, rfl⟩
  | none => exact absurd (.unresolved hbinding) (h earlier owner later rfl _)

/-- Without overrides, the binding of an unobstructed owner has the name of the binding of the first
owner of its type. -/
theorem Unobstructed.qualifiedName_eq_first {owners : List ScannedOwner}
    {owner first : ScannedOwner} {existing binding : Declaration}
    (h : resolver.Unobstructed allowOverrides owners) (hallow : allowOverrides = false)
    (howner : owner ∈ owners)
    (hfirst : owners.find? (·.ownerType.sameAs owner.ownerType) = some first)
    (hexisting : resolver.binding? first.declaration = some existing)
    (hbinding : resolver.binding? owner.declaration = some binding) :
    existing.qualifiedName = binding.qualifiedName := by
  obtain ⟨earlier, later, rfl⟩ := List.append_of_mem howner
  rw [List.find?_append] at hfirst
  cases hearlier : earlier.find? (·.ownerType.sameAs owner.ownerType) with
  | none =>
      -- The owner itself is the first of its type.
      have hself : owner.ownerType.sameAs owner.ownerType = true := by simp
      rw [hearlier, Option.none_or, List.find?_cons] at hfirst
      simp only [hself, Option.some.injEq] at hfirst
      rw [← hfirst, hbinding] at hexisting
      rw [Option.some.inj hexisting]
  | some other =>
      rw [hearlier, Option.some_or] at hfirst
      rw [hfirst] at hearlier
      by_contra hne
      exact h earlier owner later rfl _ (.conflict hallow hearlier hexisting hbinding hne)

theorem Unobstructed.qualifiedName_eq {owners : List ScannedOwner} {owner other : ScannedOwner}
    {binding binding' : Declaration} (h : resolver.Unobstructed allowOverrides owners)
    (hallow : allowOverrides = false) (howner : owner ∈ owners) (hother : other ∈ owners)
    (htype : owner.ownerType.toTypeName = other.ownerType.toTypeName)
    (hbinding : resolver.binding? owner.declaration = some binding)
    (hbinding' : resolver.binding? other.declaration = some binding') :
    binding.qualifiedName = binding'.qualifiedName := by
  have hsome : (owners.find? (·.ownerType.sameAs other.ownerType)).isSome := by
    rw [List.find?_isSome]
    exact ⟨other, hother, by simp⟩
  obtain ⟨first, hfirst⟩ := Option.isSome_iff_exists.1 hsome
  obtain ⟨existing, hexisting⟩ := h.exists_binding (List.mem_of_find?_eq_some hfirst)
  have hfirst' : owners.find? (·.ownerType.sameAs owner.ownerType) = some first := by
    simpa only [OwnerType.sameAs, htype] using hfirst
  rw [← h.qualifiedName_eq_first hallow howner hfirst' hexisting hbinding,
    ← h.qualifiedName_eq_first hallow hother hfirst hexisting hbinding']

/-- Owners are unobstructed when all of them have bindings and, unless overrides are allowed, owners
of one type have bindings of one name. -/
theorem unobstructed_iff (owners : List ScannedOwner) :
    resolver.Unobstructed allowOverrides owners ↔
      (∀ owner ∈ owners, ∃ binding, resolver.binding? owner.declaration = some binding) ∧
        (allowOverrides = false → ∀ owner ∈ owners, ∀ other ∈ owners,
          owner.ownerType.toTypeName = other.ownerType.toTypeName →
            ∀ binding binding', resolver.binding? owner.declaration = some binding →
              resolver.binding? other.declaration = some binding' →
                binding.qualifiedName = binding'.qualifiedName) := by
  constructor
  · intro h
    refine ⟨fun owner howner => h.exists_binding howner, ?_⟩
    intro hallow owner howner other hother htype binding binding' hbinding hbinding'
    exact h.qualifiedName_eq hallow howner hother htype hbinding hbinding'
  · rintro ⟨hresolves, hagree⟩ earlier owner later rfl failure hobstruction
    cases hobstruction with
    | unresolved h =>
        obtain ⟨binding, hbinding⟩ := hresolves owner (by simp)
        rw [h] at hbinding
        cases hbinding
    | conflict hallow hfirst hexisting hincoming hne =>
        have htype := List.find?_some hfirst
        rw [OwnerType.sameAs_iff] at htype
        have hmem := List.mem_of_find?_eq_some hfirst
        exact hne (hagree hallow _ (by simp [hmem]) owner (by simp) htype _ _ hexisting hincoming)

end Resolver

namespace Association

open Resolver

variable {resolver : Resolver} {allowOverrides : Bool}

theorem pairs_append_singleton (owners : List ScannedOwner) {owner : ScannedOwner}
    {binding : Declaration} (h : resolver.binding? owner.declaration = some binding) :
    resolver.pairs (owners ++ [owner]) = resolver.pairs owners ++ [(owner.ownerType, binding)] := by
  simp [Resolver.pairs, h]

theorem keys_pairs {owners : List ScannedOwner}
    (h : ∀ owner ∈ owners, ∃ binding, resolver.binding? owner.declaration = some binding) :
    keys (resolver.pairs owners) = owners.map (·.ownerType.toTypeName) := by
  induction owners with
  | nil => rfl
  | cons owner rest ih =>
      obtain ⟨binding, hbinding⟩ := h owner (by simp)
      have hrest := ih fun other hother => h other (List.mem_cons_of_mem _ hother)
      simp only [Resolver.pairs] at hrest ⊢
      simp [hbinding, hrest]

theorem find?_pairs {owners : List ScannedOwner}
    (h : ∀ owner ∈ owners, ∃ binding, resolver.binding? owner.declaration = some binding)
    (t : OwnerType) :
    (resolver.pairs owners).find? (·.1.sameAs t) =
      (owners.find? (·.ownerType.sameAs t)).bind fun owner =>
        (resolver.binding? owner.declaration).map fun binding => (owner.ownerType, binding) := by
  induction owners with
  | nil => rfl
  | cons owner rest ih =>
      obtain ⟨binding, hbinding⟩ := h owner (by simp)
      have hrest := ih fun other hother => h other (List.mem_cons_of_mem _ hother)
      simp only [Resolver.pairs] at hrest ⊢
      by_cases ht : owner.ownerType.sameAs t <;> simp [hbinding, ht, hrest]

theorem find?_ofList_pairs_eq {owners : List ScannedOwner}
    (h : ∀ owner ∈ owners, ∃ binding, resolver.binding? owner.declaration = some binding)
    (t : OwnerType) :
    (ofList (resolver.pairs owners)).find? t = resolver.recorded? owners t := by
  have hreverse : (resolver.pairs owners).reverse = resolver.pairs owners.reverse := by
    simp [Resolver.pairs]
  have h' : ∀ owner ∈ owners.reverse,
      ∃ binding, resolver.binding? owner.declaration = some binding := by
    simpa using h
  rw [find?_ofList, hreverse, find?_pairs h, find?_pairs h', recorded?]
  cases hfirst : owners.find? (·.ownerType.sameAs t) with
  | none => rfl
  | some first =>
      obtain ⟨binding, hbinding⟩ := h first (List.mem_of_find?_eq_some hfirst)
      simp only [Option.bind_some, hbinding, Option.map_some]
      cases owners.reverse.find? (·.ownerType.sameAs t) with
      | none => rfl
      | some last => cases hlast : resolver.binding? last.declaration <;> simp [hlast]

/-- Without overrides, what is recorded for a type is what its first owner brought. -/
theorem find?_ofList_pairs {owners : List ScannedOwner}
    (h : resolver.Unobstructed allowOverrides owners) (hallow : allowOverrides = false)
    (t : OwnerType) :
    (ofList (resolver.pairs owners)).find? t =
      (owners.find? (·.ownerType.sameAs t)).bind fun owner =>
        (resolver.binding? owner.declaration).map fun binding => (owner.ownerType, binding) := by
  have hresolves := fun owner (howner : owner ∈ owners) => h.exists_binding howner
  rw [find?_ofList_pairs_eq hresolves, recorded?]
  cases hfirst : owners.find? (·.ownerType.sameAs t) with
  | none => rfl
  | some first =>
      have hmem := List.mem_of_find?_eq_some hfirst
      have htype := List.find?_some hfirst
      have hlast : (owners.reverse.find? (·.ownerType.sameAs t)).isSome := by
        rw [List.find?_isSome]
        exact ⟨first, List.mem_reverse.2 hmem, htype⟩
      obtain ⟨last, hlast⟩ := Option.isSome_iff_exists.1 hlast
      have hmem' := List.mem_reverse.1 (List.mem_of_find?_eq_some hlast)
      have htype' := List.find?_some hlast
      rw [OwnerType.sameAs_iff] at htype htype'
      obtain ⟨existing, hexisting⟩ := hresolves first hmem
      obtain ⟨final, hfinal⟩ := hresolves last hmem'
      have hname := h.qualifiedName_eq hallow hmem hmem' (htype.trans htype'.symm) hexisting hfinal
      have hsame := binding?_eq_of_qualifiedName_eq hexisting hfinal hname
      simp [hlast, hexisting, hfinal, hsame]

theorem result_bindOwner_of_clear {owners : List ScannedOwner} {owner : ScannedOwner}
    {binding : Declaration} (h : resolver.Unobstructed allowOverrides owners)
    (hbinding : resolver.binding? owner.declaration = some binding)
    (hclear : ∀ failure, ¬ resolver.Obstruction allowOverrides owners owner failure) :
    ((ofList (resolver.pairs owners)).bindOwner allowOverrides owner.ownerType binding).result =
      .ok (ofList (resolver.pairs (owners ++ [owner]))) := by
  rw [pairs_append_singleton owners hbinding, ofList_append_singleton]
  cases hentry : (ofList (resolver.pairs owners)).find? owner.ownerType with
  | none =>
      rw [bindOwner_of_same (by simp [hentry])]
      rfl
  | some entry =>
      obtain ⟨key, existing⟩ := entry
      by_cases hname : existing.qualifiedName = binding.qualifiedName
      · rw [bindOwner_of_same (by simp [hentry, hname])]
        rfl
      · cases hallow : allowOverrides with
        | true => rw [bindOwner_of_override hentry hname]
        | false =>
            rw [find?_ofList_pairs h hallow, Option.bind_eq_some_iff] at hentry
            obtain ⟨first, hfirst, hmap⟩ := hentry
            obtain ⟨found, hfound, hpair⟩ := Option.map_eq_some_iff.1 hmap
            obtain ⟨rfl, rfl⟩ := Prod.mk.inj hpair
            exact absurd (.conflict hallow hfirst hfound hbinding hname) (hclear _)

/-- An owner in conflict with the first one of its type is refused with a notice. -/
theorem bindOwner_of_first {owners : List ScannedOwner} {owner first : ScannedOwner}
    {existing incoming : Declaration} (h : resolver.Unobstructed false owners)
    (hfirst : owners.find? (·.ownerType.sameAs owner.ownerType) = some first)
    (hexisting : resolver.binding? first.declaration = some existing)
    (hne : existing.qualifiedName ≠ incoming.qualifiedName) :
    (ofList (resolver.pairs owners)).bindOwner false owner.ownerType incoming =
      ⟨[.resolutionFailed (.ownerTypeConflict first.ownerType.label existing.qualifiedName
          incoming.qualifiedName)],
        .error (.ownerTypeConflict first.ownerType.label existing.qualifiedName
          incoming.qualifiedName)⟩ := by
  have hfind : (ofList (resolver.pairs owners)).find? owner.ownerType =
      some (first.ownerType, existing) := by
    rw [find?_ofList_pairs h rfl, hfirst]
    simp [hexisting]
  exact bindOwner_of_conflict hfind hne

theorem extend_cons (association : Association) (owner : ScannedOwner)
    (rest : List ScannedOwner) :
    association.extend resolver allowOverrides (owner :: rest) = (do
      let binding ← resolver.resolve owner.declaration
      let extended ← association.bindOwner allowOverrides owner.ownerType binding
      extended.extend resolver allowOverrides rest) := rfl

theorem result_extend_cons (owners : List ScannedOwner) {owner : ScannedOwner}
    (rest : List ScannedOwner) (h : resolver.Unobstructed allowOverrides (owners ++ [owner])) :
    ((ofList (resolver.pairs owners)).extend resolver allowOverrides (owner :: rest)).result =
      ((ofList (resolver.pairs (owners ++ [owner]))).extend resolver allowOverrides rest).result := by
  obtain ⟨howners, hclear⟩ := (unobstructed_append_singleton_iff owners owner).1 h
  obtain ⟨binding, hbinding⟩ := h.exists_binding List.mem_concat_self
  rw [extend_cons, Reported.bind_eq_of_ok (result_resolve_eq_ok_iff.2 hbinding),
    Reported.bind_eq_of_ok (result_bindOwner_of_clear howners hbinding hclear)]

theorem result_extend_of_unobstructed (owners rest : List ScannedOwner)
    (h : resolver.Unobstructed allowOverrides (owners ++ rest)) :
    ((ofList (resolver.pairs owners)).extend resolver allowOverrides rest).result =
      .ok (ofList (resolver.pairs (owners ++ rest))) := by
  induction rest generalizing owners with
  | nil => simp [extend]
  | cons owner rest ih =>
      rw [List.append_cons] at h ⊢
      rw [result_extend_cons owners rest h.of_append, ih _ h]

theorem result_extend_of_obstruction (owners between : List ScannedOwner) {owner : ScannedOwner}
    {later : List ScannedOwner} {failure : Failure}
    (h : resolver.Unobstructed allowOverrides (owners ++ between))
    (hobstruction : resolver.Obstruction allowOverrides (owners ++ between) owner failure) :
    ((ofList (resolver.pairs owners)).extend resolver allowOverrides
      (between ++ owner :: later)).result = .error failure := by
  induction between generalizing owners with
  | nil =>
      rw [List.append_nil] at h hobstruction
      rw [List.nil_append, extend_cons]
      cases hobstruction with
      | unresolved hnone => rw [resolve_of_none hnone, Reported.bind_eq_of_error rfl]
      | conflict hallow hfirst hexisting hincoming hne =>
          subst hallow
          rw [resolve_of_some hincoming, Reported.bind_eq_of_ok rfl,
            bindOwner_of_first h hfirst hexisting hne, Reported.bind_eq_of_error rfl]
  | cons next between ih =>
      rw [List.append_cons] at h hobstruction
      rw [List.cons_append, result_extend_cons owners _ h.of_append, ih _ h hobstruction]

theorem result_associate_of_firstObstruction {owners : List ScannedOwner} {failure : Failure}
    (h : resolver.FirstObstruction allowOverrides owners failure) :
    (associate resolver allowOverrides owners).result = .error failure := by
  obtain ⟨earlier, owner, later, rfl, hearlier, hobstruction⟩ := h
  exact result_extend_of_obstruction [] earlier hearlier hobstruction

/-- Owners are associated exactly when none of them is obstructed, and then the association records
their bindings. -/
theorem result_associate_eq_ok_iff (owners : List ScannedOwner) (association : Association) :
    (associate resolver allowOverrides owners).result = .ok association ↔
      resolver.Unobstructed allowOverrides owners ∧
        association = ofList (resolver.pairs owners) := by
  rcases unobstructed_or_firstObstruction owners with h | ⟨failure, h⟩
  · have hresult : (associate resolver allowOverrides owners).result =
        .ok (ofList (resolver.pairs owners)) :=
      result_extend_of_unobstructed [] owners h
    rw [hresult, Except.ok.injEq]
    exact ⟨fun heq => ⟨h, heq.symm⟩, fun heq => heq.2.symm⟩
  · have hresult := result_associate_of_firstObstruction h
    obtain ⟨earlier, owner, later, rfl, _, hobstruction⟩ := h
    rw [hresult]
    constructor
    · intro heq
      cases heq
    · rintro ⟨hclear, _⟩
      exact absurd hobstruction (hclear earlier owner later rfl failure)

/-- An association fails exactly as its first obstructed owner makes it fail. -/
theorem result_associate_eq_error_iff (owners : List ScannedOwner) (failure : Failure) :
    (associate resolver allowOverrides owners).result = .error failure ↔
      resolver.FirstObstruction allowOverrides owners failure := by
  refine ⟨?_, result_associate_of_firstObstruction⟩
  intro h
  rcases unobstructed_or_firstObstruction owners with hclear | ⟨failure', hfailure'⟩
  · rw [(result_associate_eq_ok_iff owners _).2 ⟨hclear, rfl⟩] at h
    cases h
  · rw [result_associate_of_firstObstruction hfailure', Except.error.injEq] at h
    rw [← h]
    exact hfailure'

end Association

end OwnerBinding
