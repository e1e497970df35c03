import Mathlib.Data.List.Basic
import OwnerBinding.Resolution

/-!
# Bindings are found under their own names

A resolver looks every candidate up by name in its graph, so the binding that it gives for an owner
is what the graph finds under the qualified name of that binding. Bindings of one resolver with
equal names are therefore the same declaration, and a conflict that is told by names is a conflict
of declarations. Nothing else is looked up: what is found under the names that an owner asks for
decides its binding (`Resolver.resolve_congr`).
-/

namespace OwnerBinding

theorem DeclarationGraph.get?_qualifiedName_of_argument? {graph : DeclarationGraph}
    {argument : TypeArgument} {d : Declaration} (h : graph.argument? argument = some d) :
    graph.get? d.qualifiedName = some d := by
  unfold argument? at h
  split at h
  · obtain ⟨_, hname⟩ := get?_eq_some h
    rw [hname]
    exact h
  · cases h

/-- The binding of a declaration is looked up by the name of a declared argument of its superclass,
if that is declared too. -/
def Declaration.AsksFor (d : Declaration) (name : String) : Prop :=
  ∃ superclass, d.superclass = some superclass ∧ superclass.kind = .declared ∧
    ∃ argument ∈ superclass.arguments, argument.kind = .declared ∧ argument.name = some name

namespace Resolver

variable {resolver : Resolver} {d e binding other : Declaration}

theorem get?_qualifiedName_of_mem_candidates (h : binding ∈ resolver.candidates d) :
    resolver.graph.get? binding.qualifiedName = some binding := by
  unfold candidates at h
  split at h
  · split at h
    · obtain ⟨argument, _, hargument⟩ := List.mem_filterMap.1 h
      exact DeclarationGraph.get?_qualifiedName_of_argument? hargument
    · cases h
  · cases h

theorem get?_qualifiedName_of_binding? (h : resolver.binding? d = some binding) :
    resolver.graph.get? binding.qualifiedName = some binding :=
  get?_qualifiedName_of_mem_candidates (List.mem_of_find?_eq_some h)

theorem implements_of_binding? (h : resolver.binding? d = some binding) :
    binding.implements resolver.contract = true := by
  rw [binding?] at h
  have himplements := List.find?_some h
  simpa using himplements

/-- The name of a binding tells which declaration it is. -/
theorem binding?_eq_of_qualifiedName_eq (h : resolver.binding? d = some binding)
    (h' : resolver.binding? e = some other)
    (hname : binding.qualifiedName = other.qualifiedName) : binding = other := by
  have hbinding := get?_qualifiedName_of_binding? h
  rw [hname, get?_qualifiedName_of_binding? h'] at hbinding
  exact (Option.some.inj hbinding).symm

theorem result_resolve_eq_ok_iff :
    (resolver.resolve d).result = .ok binding ↔ resolver.binding? d = some binding := by
  cases h : resolver.binding? d with
  | none => simp [resolve_of_none h]
  | some found => simp [resolve_of_some h]

theorem result_resolve_eq_error_iff {failure : Failure} :
    (resolver.resolve d).result = .error failure ↔
      resolver.binding? d = none ∧ failure = resolver.notFound d := by
  cases h : resolver.binding? d with
  | none => simp [resolve_of_none h, eq_comm]
  | some found => simp [resolve_of_some h]

/-- The candidates depend on nothing but what is found under the names that are asked for. -/
theorem candidates_congr {other : Resolver}
    (h : ∀ name, d.AsksFor name → resolver.graph.get? name = other.graph.get? name) :
    resolver.candidates d = other.candidates d := by
  rw [candidates, candidates]
  cases hsuperclass : d.superclass with
  | none => rfl
  | some superclass =>
      by_cases hkind : superclass.kind = .declared
      · simp only [hkind, ↓reduceIte]
        apply List.filterMap_congr
        intro argument hargument
        rw [DeclarationGraph.argument?, DeclarationGraph.argument?]
        split
        · next name hdeclared hname =>
            exact h name ⟨superclass, hsuperclass, hkind, argument, hargument, hdeclared, hname⟩
        · rfl
      · simp only [hkind, ↓reduceIte]

theorem resolve_congr {other : Resolver} (hcontract : resolver.contract = other.contract)
    (h : ∀ name, d.AsksFor name → resolver.graph.get? name = other.graph.get? name) :
    resolver.resolve d = other.resolve d := by
  have hbinding : resolver.binding? d = other.binding? d := by
    rw [binding?, binding?, candidates_congr h, hcontract]
  rw [resolve, resolve, hbinding, notFound, notFound, hcontract]

end Resolver

end OwnerBinding
