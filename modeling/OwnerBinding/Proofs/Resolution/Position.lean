import Mathlib.Data.Nat.Find
import OwnerBinding.Proofs.Declaration.Lookup
import OwnerBinding.Proofs.Resolution

/-!
# Bindings by position

The binding of a declaration stands at the least position of its superclass that qualifies: the argument
there is declared, and the first declaration of its name in the graph lists the contract among its own
interfaces (`Resolver.QualifiesAt`). There is no binding exactly if no position qualifies.

So resolution is one step. It does not matter what a later declaration of a name says, or a declaration
whose name is not asked for, such as an ancestor (`Resolver.resolve_replace`). Of the declarations that
are asked for only the names and the interfaces count, so no superclass of theirs is ever looked at
(`Resolver.exists_qualifiesFirstAt_congr`).
-/

namespace OwnerBinding

/-- The superclass is declared, and so is its argument at a position, with a name. -/
def Declaration.NamesAt (d : Declaration) (i : Nat) (name : String) : Prop :=
  ∃ superclass, d.superclass = some superclass ∧ superclass.kind = .declared ∧
    superclass.arguments[i]? = some { kind := .declared, name := some name }

theorem DeclarationGraph.argument?_eq_some_iff {graph : DeclarationGraph} {argument : TypeArgument}
    {d : Declaration} : graph.argument? argument = some d ↔
      ∃ name, argument = { kind := .declared, name := some name } ∧ graph.get? name = some d := by
  obtain ⟨kind, name?⟩ := argument
  cases kind <;> cases name? <;> simp [argument?]

/-- A search through images finds the image of the member at the least position whose image counts. -/
theorem find?_filterMap_eq_some_iff {α β : Type} {f : α → Option β} {p : β → Bool} {xs : List α}
    {y : β} : (xs.filterMap f).find? p = some y ↔
      ∃ i : Nat, (∃ x, xs[i]? = some x ∧ f x = some y ∧ p y = true) ∧
        ∀ j < i, ∀ x z, xs[j]? = some x → f x = some z → p z = false := by
  rw [List.find?_filterMap, Option.bind_eq_some_iff]
  simp only [List.find?_eq_some_iff_getElem]
  constructor
  · rintro ⟨x, ⟨hx, i, hi, rfl, hbefore⟩, hy⟩
    rw [hy] at hx
    refine ⟨i, ⟨xs[i], List.getElem?_eq_getElem hi, hy, hx⟩, ?_⟩
    intro j hj x z hxj hz
    have hjlt : j < xs.length := hj.trans hi
    rw [List.getElem?_eq_getElem hjlt, Option.some.injEq] at hxj
    have hnot := hbefore j hj
    rw [hxj, hz] at hnot
    simpa using hnot
  · rintro ⟨i, ⟨x, hxi, hy, hp⟩, hbefore⟩
    obtain ⟨hi, rfl⟩ := List.getElem?_eq_some_iff.1 hxi
    refine ⟨xs[i], ⟨by simp [hy, hp], i, hi, rfl, ?_⟩, hy⟩
    intro j hj
    have hjlt : j < xs.length := hj.trans hi
    cases hz : f xs[j] with
    | none => rfl
    | some z => simpa using hbefore j hj xs[j] z (List.getElem?_eq_getElem hjlt) hz

namespace Resolver

/-- The first declaration of the name at a position lists the contract among its own interfaces. -/
def QualifiesAt (resolver : Resolver) (d : Declaration) (i : Nat) (binding : Declaration) : Prop :=
  ∃ name, d.NamesAt i name ∧
    IsFirst (fun e => e.qualifiedName = name) resolver.graph.declarations binding ∧
      resolver.contract ∈ binding.interfaces

/-- A declaration qualifies at a position, and none at a position before. -/
def QualifiesFirstAt (resolver : Resolver) (d : Declaration) (i : Nat) (binding : Declaration) :
    Prop :=
  resolver.QualifiesAt d i binding ∧ ∀ j < i, ∀ other, ¬ resolver.QualifiesAt d j other

variable {resolver : Resolver} {d binding : Declaration}

theorem qualifiesAt_iff {superclass : Superclass} (hsuperclass : d.superclass = some superclass)
    (hkind : superclass.kind = .declared) (i : Nat) (binding : Declaration) :
    resolver.QualifiesAt d i binding ↔
      ∃ argument, superclass.arguments[i]? = some argument ∧
        resolver.graph.argument? argument = some binding ∧
          binding.implements resolver.contract = true := by
  simp only [QualifiesAt, Declaration.NamesAt, hsuperclass, Option.some.injEq,
    DeclarationGraph.argument?_eq_some_iff, DeclarationGraph.get?_eq_some_iff,
    Declaration.implements, decide_eq_true_iff]
  constructor
  · rintro ⟨name, ⟨_, rfl, _, hargument⟩, hfirst, hcontract⟩
    exact ⟨_, hargument, ⟨name, rfl, hfirst⟩, hcontract⟩
  · rintro ⟨_, hargument, ⟨name, rfl, hfirst⟩, hcontract⟩
    exact ⟨name, ⟨superclass, rfl, hkind, hargument⟩, hfirst, hcontract⟩

theorem binding?_eq_some_iff : resolver.binding? d = some binding ↔
    ∃ i, resolver.QualifiesFirstAt d i binding := by
  cases hsuperclass : d.superclass with
  | none =>
      simp [binding?, candidates, hsuperclass, QualifiesFirstAt, QualifiesAt, Declaration.NamesAt]
  | some superclass =>
      by_cases hkind : superclass.kind = .declared
      · have hcandidates : resolver.candidates d =
            superclass.arguments.filterMap resolver.graph.argument? := by
          simp only [candidates, hsuperclass, if_pos hkind]
        simp only [binding?, hcandidates, find?_filterMap_eq_some_iff, QualifiesFirstAt,
          qualifiesAt_iff hsuperclass hkind]
        refine exists_congr fun i => and_congr_right fun _ => forall₂_congr fun j _ => ?_
        constructor
        · rintro hbefore other ⟨argument, hargument, hother, himplements⟩
          rw [hbefore argument other hargument hother] at himplements
          cases himplements
        · intro hbefore argument other hargument hother
          rw [← Bool.not_eq_true]
          exact fun himplements => hbefore other ⟨argument, hargument, hother, himplements⟩
      · simp [binding?, candidates, hsuperclass, hkind, QualifiesFirstAt, QualifiesAt,
          Declaration.NamesAt]

theorem exists_qualifiesFirstAt {i : Nat} (h : resolver.QualifiesAt d i binding) :
    ∃ j other, resolver.QualifiesFirstAt d j other := by
  classical
  have hsome : ∃ i other, resolver.QualifiesAt d i other := ⟨i, binding, h⟩
  obtain ⟨other, hother⟩ := Nat.find_spec hsome
  refine ⟨Nat.find hsome, other, hother, ?_⟩
  intro j hj before hbefore
  exact Nat.find_min hsome hj ⟨before, hbefore⟩

theorem binding?_eq_none_iff : resolver.binding? d = none ↔
    ∀ i other, ¬ resolver.QualifiesAt d i other := by
  constructor
  · intro hnone i other hother
    obtain ⟨j, first, hfirst⟩ := exists_qualifiesFirstAt hother
    rw [binding?_eq_some_iff.2 ⟨j, hfirst⟩] at hnone
    cases hnone
  · intro hnone
    cases hbinding : resolver.binding? d with
    | none => rfl
    | some binding =>
        obtain ⟨i, hqualifies, _⟩ := binding?_eq_some_iff.1 hbinding
        exact absurd hqualifies (hnone i binding)

/-- A declaration can be replaced by any other one of its name, if its name is not asked for or an
earlier declaration has it. -/
theorem resolve_replace {other : Resolver} {before after : List Declaration} {e e' : Declaration}
    (hcontract : other.contract = resolver.contract)
    (hgraph : resolver.graph.declarations = before ++ e :: after)
    (hother : other.graph.declarations = before ++ e' :: after)
    (hname : e'.qualifiedName = e.qualifiedName)
    (hspare : ¬ d.AsksFor e.qualifiedName ∨
      ∃ earlier ∈ before, earlier.qualifiedName = e.qualifiedName) :
    other.resolve d = resolver.resolve d := by
  apply resolve_congr hcontract
  intro name hasks
  rw [DeclarationGraph.get?_eq_find?, DeclarationGraph.get?_eq_find?, hgraph, hother,
    List.find?_append, List.find?_append]
  cases hbefore : before.find? fun earlier => earlier.qualifiedName = name with
  | some found => rfl
  | none =>
      have hne : e.qualifiedName ≠ name := by
        rintro rfl
        rcases hspare with hunasked | ⟨earlier, hearlier, hsame⟩
        · exact hunasked hasks
        · simpa [hsame] using List.find?_eq_none.1 hbefore earlier hearlier
      simp [hname, hne]

/-- Only names and interfaces of the declarations in a graph decide which position qualifies. -/
theorem exists_qualifiesAt_congr {other : Resolver} (hcontract : resolver.contract = other.contract)
    (hgraph : resolver.graph.declarations.map (fun e => (e.qualifiedName, e.interfaces)) =
      other.graph.declarations.map fun e => (e.qualifiedName, e.interfaces)) (i : Nat) :
    (∃ binding, resolver.QualifiesAt d i binding) ↔ ∃ binding, other.QualifiesAt d i binding := by
  have himages : ∀ (ds : List Declaration) (contract name : String),
      (∃ e, IsFirst (fun e => e.qualifiedName = name) ds e ∧ contract ∈ e.interfaces) ↔
        ∃ image : String × NameSet, IsFirst (fun image => image.1 = name)
          (ds.map fun e => (e.qualifiedName, e.interfaces)) image ∧ contract ∈ image.2 := by
    intro ds contract name
    simp only [IsFirst.map_iff]
    constructor
    · rintro ⟨e, hfirst, hmem⟩
      exact ⟨_, ⟨e, hfirst, rfl⟩, hmem⟩
    · rintro ⟨_, ⟨e, hfirst, rfl⟩, hmem⟩
      exact ⟨e, hfirst, hmem⟩
  have hposition : ∀ r : Resolver, (∃ binding, r.QualifiesAt d i binding) ↔
      ∃ name, d.NamesAt i name ∧ ∃ e,
        IsFirst (fun e => e.qualifiedName = name) r.graph.declarations e ∧
          r.contract ∈ e.interfaces := by
    intro r
    constructor
    · rintro ⟨e, name, hname, hqualifies⟩
      exact ⟨name, hname, e, hqualifies⟩
    · rintro ⟨name, hname, e, hqualifies⟩
      exact ⟨e, name, hname, hqualifies⟩
  simp only [hposition, himages, hgraph, hcontract]

theorem exists_qualifiesFirstAt_congr {other : Resolver}
    (hcontract : resolver.contract = other.contract)
    (hgraph : resolver.graph.declarations.map (fun e => (e.qualifiedName, e.interfaces)) =
      other.graph.declarations.map fun e => (e.qualifiedName, e.interfaces)) (i : Nat) :
    (∃ binding, resolver.QualifiesFirstAt d i binding) ↔
      ∃ binding, other.QualifiesFirstAt d i binding := by
  simp only [QualifiesFirstAt, exists_and_right, ← not_exists,
    exists_qualifiesAt_congr hcontract hgraph]

/-- What the resolution of a declaration gives. -/
structure ResolvesByPosition (resolver : Resolver) (d : Declaration) : Prop where
  ok_iff : ∀ binding, (resolver.resolve d).result = .ok binding ↔
    ∃ i, resolver.QualifiesFirstAt d i binding
  error_iff : ∀ failure, (resolver.resolve d).result = .error failure ↔
    (∀ i other, ¬ resolver.QualifiesAt d i other) ∧
      failure = .bindingNotFound d.qualifiedName resolver.contract
  /-- A later declaration of a name never counts, and neither does one whose name is not asked for. -/
  replace : ∀ before e after, resolver.graph.declarations = before ++ e :: after →
    (¬ d.AsksFor e.qualifiedName ∨
      ∃ earlier ∈ before, earlier.qualifiedName = e.qualifiedName) →
    ∀ e', e'.qualifiedName = e.qualifiedName →
      ({ resolver with graph := { declarations := before ++ e' :: after } } : Resolver).resolve d =
        resolver.resolve d
  /-- Nothing in the graph decides on the position but names and interfaces. -/
  position : ∀ other : DeclarationGraph,
    resolver.graph.declarations.map (fun e => (e.qualifiedName, e.interfaces)) =
      other.declarations.map (fun e => (e.qualifiedName, e.interfaces)) →
    ∀ i, (∃ binding, resolver.QualifiesFirstAt d i binding) ↔
      ∃ binding, ({ resolver with graph := other } : Resolver).QualifiesFirstAt d i binding

/-- In every graph the first argument that qualifies is the binding, and none is found exactly if no
argument qualifies. -/
theorem resolvesByPosition (resolver : Resolver) (d : Declaration) :
    resolver.ResolvesByPosition d where
  ok_iff _ := by rw [result_resolve_eq_ok_iff, binding?_eq_some_iff]
  error_iff _ := by rw [result_resolve_eq_error_iff, binding?_eq_none_iff, notFound]
  replace before e after hsplit hspare e' hname := by
    have hcontract : ({ resolver with graph := { declarations := before ++ e' :: after } } :
        Resolver).contract = resolver.contract := rfl
    exact resolve_replace hcontract hsplit rfl hname hspare
  position other hgraph i := by
    have hcontract : resolver.contract = ({ resolver with graph := other } : Resolver).contract :=
      rfl
    exact exists_qualifiesFirstAt_congr hcontract hgraph i

end Resolver

end OwnerBinding
