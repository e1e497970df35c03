import OwnerBinding.Proofs.Association.Obstruction

/-!
# What is told while owners are associated

Each owner that has a binding is told about once. Where overrides are allowed, a second notice follows
at once if the last owner of its type before it has a binding of another name: this binding is
replaced, and the type is told in the form of the first owner. `toldBehind` carries the owners that
stand before along; `told` is what is told about all owners together.

An association tells this about all of its owners if none of them is obstructed. Otherwise it tells
it up to the first obstructed one, and after that the failure (`reports_associate_of_obstruction`).
-/

namespace OwnerBinding

namespace Resolver

variable (resolver : Resolver) (allowOverrides : Bool)

/-- The notice that a binding replaces another one behind the owners before it. -/
def toldOfReplacement (earlier : List ScannedOwner) (owner : ScannedOwner)
    (binding : Declaration) : List Notice :=
  match resolver.recorded? earlier owner.ownerType with
  | none => []
  | some (key, existing) =>
      if allowOverrides = true ∧ existing.qualifiedName ≠ binding.qualifiedName then
        [.rebound key.label existing.qualifiedName binding.qualifiedName]
      else []

/-- What is told about an owner behind the owners before it. -/
def toldOf (earlier : List ScannedOwner) (owner : ScannedOwner) : List Notice :=
  match resolver.binding? owner.declaration with
  | none => []
  | some binding =>
      .resolved binding.qualifiedName owner.declaration.qualifiedName ::
        resolver.toldOfReplacement allowOverrides earlier owner binding

/-- What is told about owners behind the owners before them. -/
def toldBehind : (earlier owners : List ScannedOwner) → List Notice
  | _, [] => []
  | earlier, owner :: rest =>
      resolver.toldOf allowOverrides earlier owner ++ toldBehind (earlier ++ [owner]) rest

/-- What is told about owners. -/
def told (owners : List ScannedOwner) : List Notice :=
  resolver.toldBehind allowOverrides [] owners

variable {resolver : Resolver} {allowOverrides : Bool} {earlier : List ScannedOwner}
  {owner : ScannedOwner} {binding : Declaration}

@[simp] theorem toldBehind_nil (earlier : List ScannedOwner) :
    resolver.toldBehind allowOverrides earlier [] = [] := rfl

theorem toldBehind_cons (earlier : List ScannedOwner) (owner : ScannedOwner)
    (rest : List ScannedOwner) :
    resolver.toldBehind allowOverrides earlier (owner :: rest) =
      resolver.toldOf allowOverrides earlier owner ++
        resolver.toldBehind allowOverrides (earlier ++ [owner]) rest := rfl

theorem toldOf_of_none (h : resolver.binding? owner.declaration = none) :
    resolver.toldOf allowOverrides earlier owner = [] := by
  rw [toldOf, h]

theorem toldOf_of_some (h : resolver.binding? owner.declaration = some binding) :
    resolver.toldOf allowOverrides earlier owner =
      .resolved binding.qualifiedName owner.declaration.qualifiedName ::
        resolver.toldOfReplacement allowOverrides earlier owner binding := by
  rw [toldOf, h]

theorem toldOfReplacement_false :
    resolver.toldOfReplacement false earlier owner binding = [] := by
  rw [toldOfReplacement]
  split <;> simp

theorem level_of_mem_toldOfReplacement {notice : Notice}
    (h : notice ∈ resolver.toldOfReplacement allowOverrides earlier owner binding) :
    notice.level = .warning := by
  rw [toldOfReplacement] at h
  split at h
  · cases h
  · split at h
    · rw [List.mem_singleton.1 h]
      rfl
    · cases h

/-- Nothing that is told about owners is an error. -/
theorem level_ne_error_of_mem_toldBehind {owners : List ScannedOwner} {notice : Notice}
    (h : notice ∈ resolver.toldBehind allowOverrides earlier owners) : notice.level ≠ .error := by
  induction owners generalizing earlier with
  | nil => cases h
  | cons owner rest ih =>
      rw [toldBehind_cons, List.mem_append] at h
      rcases h with h | h
      · cases hbinding : resolver.binding? owner.declaration with
        | none =>
            rw [toldOf_of_none hbinding] at h
            cases h
        | some binding =>
            rw [toldOf_of_some hbinding, List.mem_cons] at h
            rcases h with rfl | h
            · simp [Notice.level]
            · simp [level_of_mem_toldOfReplacement h]
      · exact ih h

end Resolver

namespace Association

open Resolver

variable {resolver : Resolver} {allowOverrides : Bool} {owners : List ScannedOwner}
  {owner : ScannedOwner} {binding : Declaration}

theorem reports_bindOwner_of_clear (h : resolver.Unobstructed allowOverrides owners)
    (hbinding : resolver.binding? owner.declaration = some binding)
    (hclear : ∀ failure, ¬ resolver.Obstruction allowOverrides owners owner failure) :
    ((ofList (resolver.pairs owners)).bindOwner allowOverrides owner.ownerType binding).reports =
      resolver.toldOfReplacement allowOverrides owners owner binding := by
  have hfind := find?_ofList_pairs_eq (fun owner howner => h.exists_binding howner)
    owner.ownerType
  rw [toldOfReplacement, ← hfind]
  cases hentry : (ofList (resolver.pairs owners)).find? owner.ownerType with
  | none =>
      rw [bindOwner_of_same (by simp [hentry])]
      rfl
  | some entry =>
      obtain ⟨key, existing⟩ := entry
      by_cases hname : existing.qualifiedName = binding.qualifiedName
      · rw [bindOwner_of_same (by simp [hentry, hname])]
        simp [hname]
      · cases hallow : allowOverrides with
        | true =>
            rw [bindOwner_of_override hentry hname]
            simp [hname]
        | false =>
            -- A binding of another name would obstruct the owner.
            have hresult := result_bindOwner_of_clear h hbinding hclear
            rw [hallow, bindOwner_of_conflict hentry hname] at hresult
            cases hresult

theorem reports_extend_cons (rest : List ScannedOwner)
    (h : resolver.Unobstructed allowOverrides (owners ++ [owner])) :
    ((ofList (resolver.pairs owners)).extend resolver allowOverrides (owner :: rest)).reports =
      resolver.toldOf allowOverrides owners owner ++
        ((ofList (resolver.pairs (owners ++ [owner]))).extend resolver allowOverrides
          rest).reports := by
  obtain ⟨howners, hclear⟩ := (unobstructed_append_singleton_iff owners owner).1 h
  obtain ⟨binding, hbinding⟩ := h.exists_binding List.mem_concat_self
  rw [extend_cons, resolve_of_some hbinding, Reported.bind_eq_of_ok rfl,
    Reported.bind_eq_of_ok (result_bindOwner_of_clear howners hbinding hclear),
    reports_bindOwner_of_clear howners hbinding hclear, toldOf_of_some hbinding]
  rfl

theorem reports_extend_of_unobstructed (owners rest : List ScannedOwner)
    (h : resolver.Unobstructed allowOverrides (owners ++ rest)) :
    ((ofList (resolver.pairs owners)).extend resolver allowOverrides rest).reports =
      resolver.toldBehind allowOverrides owners rest := by
  induction rest generalizing owners with
  | nil => rfl
  | cons owner rest ih =>
      rw [List.append_cons] at h
      rw [reports_extend_cons rest h.of_append, ih _ h, toldBehind_cons]

/-- The first obstructed owner is told about, as far as it has a binding, and then its failure. -/
theorem reports_extend_of_obstruction (owners between : List ScannedOwner)
    {later : List ScannedOwner} {failure : Failure}
    (h : resolver.Unobstructed allowOverrides (owners ++ between))
    (hobstruction : resolver.Obstruction allowOverrides (owners ++ between) owner failure) :
    ((ofList (resolver.pairs owners)).extend resolver allowOverrides
        (between ++ owner :: later)).reports =
      resolver.toldBehind allowOverrides owners (between ++ [owner]) ++
        [.resolutionFailed failure] := by
  induction between generalizing owners with
  | nil =>
      rw [List.append_nil] at h hobstruction
      rw [List.nil_append, List.nil_append, extend_cons, toldBehind_cons, toldBehind_nil,
        List.append_nil]
      cases hobstruction with
      | unresolved hnone =>
          rw [resolve_of_none hnone, Reported.bind_eq_of_error rfl, toldOf_of_none hnone]
          rfl
      | conflict hallow hfirst hexisting hincoming hne =>
          subst hallow
          rw [resolve_of_some hincoming, Reported.bind_eq_of_ok rfl,
            bindOwner_of_first h hfirst hexisting hne, Reported.bind_eq_of_error rfl,
            toldOf_of_some hincoming, toldOfReplacement_false]
  | cons next between ih =>
      rw [List.append_cons] at h hobstruction
      rw [List.cons_append, List.cons_append, reports_extend_cons _ h.of_append,
        ih _ h hobstruction, toldBehind_cons, List.append_assoc]

theorem reports_associate_of_unobstructed (h : resolver.Unobstructed allowOverrides owners) :
    (associate resolver allowOverrides owners).reports = resolver.told allowOverrides owners :=
  reports_extend_of_unobstructed [] owners h

/-- The first obstructed owner is the last one that is told about, before its failure. -/
theorem reports_associate_of_obstruction {earlier later : List ScannedOwner} {failure : Failure}
    (h : resolver.Unobstructed allowOverrides earlier)
    (hobstruction : resolver.Obstruction allowOverrides earlier owner failure) :
    (associate resolver allowOverrides (earlier ++ owner :: later)).reports =
      resolver.told allowOverrides (earlier ++ [owner]) ++ [.resolutionFailed failure] :=
  reports_extend_of_obstruction [] earlier h hobstruction

end Association

end OwnerBinding
