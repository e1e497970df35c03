import OwnerBinding.Proofs.Association.Obstruction

/-!
# What allowing overrides changes

The same owners are gone through twice, once with overrides and once without. Both runs keep the same
association and tell the same, as long as no binding is replaced by one of another name. There they
part (`Forks`): with overrides the replacement is told as a warning and the run goes on, and without
them a conflict of the same type and the same two names ends it. What comes later in the run with
overrides does not matter to the other one, not even if it brings the first binding back.
-/

namespace OwnerBinding

namespace Association

/-- How a run without overrides compares with the run over the same owners that allows them. -/
inductive Forks : (strict allowed : Reported Notice Failure Association) → Prop
  /-- Nothing is replaced, and both runs are the same. -/
  | together {run : Reported Notice Failure Association}
      (hquiet : ∀ notice ∈ run.reports, notice.level ≠ .warning)
      (hresult : ∀ ownerType existing incoming,
        run.result ≠ .error (.ownerTypeConflict ownerType existing incoming)) :
      Forks run run
  /-- The first replacement ends one of the runs. -/
  | apart (before : List Notice) {after : List Notice} {key existing incoming : String}
      {result : Except Failure Association}
      (hquiet : ∀ notice ∈ before, notice.level ≠ .warning)
      (hresult : ∀ ownerType existing incoming,
        result ≠ .error (.ownerTypeConflict ownerType existing incoming)) :
      Forks
        ⟨before ++ [.resolutionFailed (.ownerTypeConflict key existing incoming)],
          .error (.ownerTypeConflict key existing incoming)⟩
        ⟨before ++ .rebound key existing incoming :: after, result⟩

variable {resolver : Resolver} {strict allowed : Reported Notice Failure Association}

theorem Forks.result_ne_conflict (h : Forks strict allowed) (ownerType existing incoming : String) :
    allowed.result ≠ .error (.ownerTypeConflict ownerType existing incoming) := by
  cases h with
  | together _ hresult => exact hresult ownerType existing incoming
  | apart _ _ hresult => exact hresult ownerType existing incoming

/-- Two runs compare in the same way when both tell something else first. -/
theorem Forks.behind {notices : List Notice} (h : Forks strict allowed)
    (hnotices : ∀ notice ∈ notices, notice.level ≠ .warning) :
    Forks ⟨notices ++ strict.reports, strict.result⟩
      ⟨notices ++ allowed.reports, allowed.result⟩ := by
  cases h with
  | together hquiet hresult =>
      exact .together (List.forall_mem_append.2 ⟨hnotices, hquiet⟩) hresult
  | apart before hquiet hresult =>
      simp only [← List.append_assoc]
      exact .apart _ (List.forall_mem_append.2 ⟨hnotices, hquiet⟩) hresult

/-- An owner is bound alike with and without overrides, unless a binding of another name is there. -/
theorem bindOwner_cases (association : Association) (owner : OwnerType) (binding : Declaration) :
    (∀ allowOverrides, association.bindOwner allowOverrides owner binding =
        ⟨[], .ok (association.set owner binding)⟩) ∨
      ∃ key existing, association.find? owner = some (key, existing) ∧
        existing.qualifiedName ≠ binding.qualifiedName := by
  by_cases h : ∀ entry, association.find? owner = some entry →
      entry.2.qualifiedName = binding.qualifiedName
  · exact .inl fun _ => bindOwner_of_same h
  · push Not at h
    obtain ⟨⟨key, existing⟩, hfind, hne⟩ := h
    exact .inr ⟨key, existing, hfind, hne⟩

theorem extend_cons_of_some (association : Association) (allowOverrides : Bool)
    {owner : ScannedOwner} {binding : Declaration} (rest : List ScannedOwner)
    (h : resolver.binding? owner.declaration = some binding) :
    association.extend resolver allowOverrides (owner :: rest) =
      let going := association.bindOwner allowOverrides owner.ownerType binding >>=
        fun extended => extended.extend resolver allowOverrides rest
      ⟨[.resolved binding.qualifiedName owner.declaration.qualifiedName] ++ going.reports,
        going.result⟩ := by
  rw [extend_cons, Resolver.resolve_of_some h, Reported.bind_eq_of_ok rfl]

/-- Owners are gone through in step, on top of any association, up to the first replacement. -/
theorem forks_extend (association : Association) (owners : List ScannedOwner) :
    Forks (association.extend resolver false owners)
      (association.extend resolver true owners) := by
  induction owners generalizing association with
  | nil => exact .together (by simp [extend]) (by simp [extend])
  | cons owner rest ih =>
      cases hbinding : resolver.binding? owner.declaration with
      | none =>
          have hrun : ∀ allowOverrides, association.extend resolver allowOverrides (owner :: rest) =
              ⟨[.resolutionFailed (resolver.notFound owner.declaration)],
                .error (resolver.notFound owner.declaration)⟩ := by
            intro allowOverrides
            rw [extend_cons, Resolver.resolve_of_none hbinding, Reported.bind_eq_of_error rfl]
          rw [hrun, hrun]
          exact .together (by simp [Notice.level]) (by simp [Resolver.notFound])
      | some binding =>
          rw [extend_cons_of_some association false rest hbinding,
            extend_cons_of_some association true rest hbinding]
          refine Forks.behind ?_ (by simp [Notice.level])
          have hnext := ih (association.set owner.ownerType binding)
          rcases association.bindOwner_cases owner.ownerType binding with
            hsame | ⟨key, existing, hfind, hne⟩
          · rw [hsame false, hsame true]
            exact hnext
          · rw [bindOwner_of_conflict hfind hne, bindOwner_of_override hfind hne]
            exact .apart [] (by simp) hnext.result_ne_conflict

/-- What a run that allows overrides says about the run over the same owners that does not. -/
structure OverridesMatterInConflicts (strict allowed : Reported Notice Failure Association) :
    Prop where
  /-- Where nothing is refused, overrides change neither the association nor the notices. -/
  same_of_strict : ∀ association, strict.result = .ok association → allowed = strict
  /-- Where nothing is replaced, nothing is refused either. -/
  same_of_quiet : ∀ association, allowed.result = .ok association →
    (∀ notice ∈ allowed.reports, notice.level ≠ .warning) → strict = allowed
  /-- The first warning tells the conflict, and everything before it is told in both runs. -/
  conflict_of_warning : ∀ association, allowed.result = .ok association →
    (∃ notice ∈ allowed.reports, notice.level = .warning) →
      ∃ before after key existing incoming,
        allowed.reports = before ++ .rebound key existing incoming :: after ∧
        (Notice.rebound key existing incoming).level = .warning ∧
        (∀ notice ∈ before, notice.level ≠ .warning) ∧
        strict.reports =
          before ++ [.resolutionFailed (.ownerTypeConflict key existing incoming)] ∧
        strict.result = .error (.ownerTypeConflict key existing incoming)
  no_conflict : ∀ key existing incoming,
    allowed.result ≠ .error (.ownerTypeConflict key existing incoming)

theorem Forks.overridesMatterInConflicts (h : Forks strict allowed) :
    OverridesMatterInConflicts strict allowed := by
  cases h with
  | @together run hquiet hresult =>
      constructor
      · exact fun _ _ => rfl
      · exact fun _ _ _ => rfl
      · rintro _ _ ⟨notice, hnotice, hwarning⟩
        exact absurd hwarning (hquiet notice hnotice)
      · exact hresult
  | @apart before after key existing incoming result hquiet hresult =>
      constructor
      · intro association hstrict
        cases hstrict
      · intro association _ hnone
        exact absurd rfl (hnone (.rebound key existing incoming) (by simp))
      · intro association _ _
        exact ⟨before, after, key, existing, incoming, rfl, rfl, hquiet, rfl, rfl⟩
      · exact hresult

/-- Any owners are associated alike with and without overrides, except where owners of one type are
in conflict. -/
theorem associate_overrides (resolver : Resolver) (owners : List ScannedOwner) :
    OverridesMatterInConflicts (associate resolver false owners)
      (associate resolver true owners) :=
  (forks_extend empty owners).overridesMatterInConflicts

end Association

end OwnerBinding
