import Mathlib.Logic.Relation
import OwnerBinding.Proofs.First
import OwnerBinding.Proofs.Generation

/-!
# Which branch an owner reaches

The branches of a dispatch method stand in the order in which their types are first met in the
graph, and an object takes the first branch whose type it is an instance of. An object of a class is
also an instance of everything that the class is derived from, so a marked class can lose its objects
to a marked base that stands before it.

Without overrides, the branch that the objects of a marked declaration reach is the one of the first
marked declaration that they are instances of (`constructs_iff`). So they get their own binding
exactly when this declaration has the same binding.
-/

namespace OwnerBinding

namespace Declaration

/-- The names that a declaration is derived from: its superclass, if that is declared, and its
interfaces. -/
def parentNames (d : Declaration) : List String :=
  (match d.superclass with
    | some superclass => if superclass.kind = .declared then [superclass.name] else []
    | none => []) ++ d.interfaces.toList

end Declaration

namespace DeclarationGraph

/-- One step up from a declaration to what the graph finds under one of its parent names. -/
def Extends (graph : DeclarationGraph) (d e : Declaration) : Prop :=
  ∃ name ∈ d.parentNames, graph.get? name = some e

/-- An object whose class is exactly a declaration is an instance of a type: that of the declaration
or of one that it is derived from in any number of steps. -/
def IsInstance (graph : DeclarationGraph) (d : Declaration) (t : TypeName) : Prop :=
  ∃ e, Relation.ReflTransGen graph.Extends d e ∧ e.toTypeName = t

theorem isInstance_self (graph : DeclarationGraph) (d : Declaration) :
    graph.IsInstance d d.toTypeName :=
  ⟨d, .refl, rfl⟩

theorem isInstance_of_extends {graph : DeclarationGraph} {d e : Declaration}
    (h : graph.Extends d e) : graph.IsInstance d e.toTypeName :=
  ⟨e, .single h, rfl⟩

end DeclarationGraph

/-- The branch that is taken constructs a binding: it is the first branch of the method whose owner,
read through the imports, is among the accepted types. -/
def FactoryModule.Constructs (m : FactoryModule) (kind : OwnerKind) (accepted : TypeName → Prop)
    (binding : TypeName) : Prop :=
  ∃ branch,
    IsFirst (fun b => ∃ t, b.owner.denoted? m.imports = some t ∧ accepted t)
      (m.method kind).branches branch ∧
    branch.binding.denoted? m.imports = some binding

namespace Association

/-- Without overrides, the first entry with a property of its type belongs to the first owner with
the property, and holds the binding of that owner. -/
theorem isFirst_entries {resolver : Resolver} {owners : List ScannedOwner}
    (h : resolver.Unobstructed false owners) {p : TypeName → Prop} {first : ScannedOwner}
    {binding : Declaration} (hfirst : IsFirst (fun o => p o.ownerType.toTypeName) owners first)
    (hbinding : resolver.binding? first.declaration = some binding) :
    ∃ entry, IsFirst (fun e : Entry => p e.1.toTypeName) (ofList (resolver.pairs owners)).entries
      entry ∧ entry.2 = binding := by
  classical
  have hresolves := fun owner (howner : owner ∈ owners) => h.exists_binding howner
  have hkeys : IsFirst p (keys (ofList (resolver.pairs owners)).entries)
      first.ownerType.toTypeName := by
    rw [isFirst_iff_find?, find?_keys_ofList, keys_pairs hresolves, ← isFirst_iff_find?,
      IsFirst.map_iff]
    exact ⟨first, hfirst, rfl⟩
  obtain ⟨entry, hentry, htype⟩ := IsFirst.map_iff.1 hkeys
  refine ⟨entry, hentry, ?_⟩
  -- The entry is what is recorded for its type, and so comes from the first owner of the type.
  have hfind := find?_of_mem hentry.mem
  rw [find?_ofList_pairs h rfl, Option.bind_eq_some_iff] at hfind
  obtain ⟨owner, howner, hmap⟩ := hfind
  obtain ⟨found, hfound, rfl⟩ := Option.map_eq_some_iff.1 hmap
  exact Resolver.binding?_eq_of_qualifiedName_eq hfound hbinding
    (h.qualifiedName_eq rfl (List.mem_of_find?_eq_some howner) hfirst.mem htype hfound hbinding)

end Association

namespace Generation

/-- The aliases of the imports of a run. -/
def aliases (settings : Settings) (graph : DeclarationGraph) : ModuleAliases :=
  FactoryModule.aliases settings.bindingContract (association settings graph .fragment)
    (association settings graph .activity)

variable {settings : Settings} {graph : DeclarationGraph}

theorem branches_method (kind : OwnerKind) :
    ((factory settings graph).method kind).branches =
      (association settings graph kind).entries.map (Branch.ofEntry (aliases settings graph)) := by
  cases kind <;> rfl

theorem imports_factory :
    (factory settings graph).imports = (aliases settings graph).imports := by
  rw [factory, FactoryModule.imports_ofAssociations, aliases, Settings.factoryOptions]

theorem denoted?_ofEntry (kind : OwnerKind) {entry : Association.Entry}
    (h : entry ∈ (association settings graph kind).entries) :
    (Branch.ofEntry (aliases settings graph) entry).owner.denoted?
        (factory settings graph).imports = some entry.1.toTypeName ∧
      (Branch.ofEntry (aliases settings graph) entry).binding.denoted?
        (factory settings graph).imports = some entry.2.toTypeName := by
  have hkind : association settings graph kind = association settings graph .fragment ∨
      association settings graph kind = association settings graph .activity := by
    cases kind
    · exact .inr rfl
    · exact .inl rfl
  obtain ⟨howner, hbinding⟩ := FactoryModule.covers_entry settings.bindingContract _ _ hkind h
  rw [imports_factory, aliases]
  exact ⟨ModuleAliases.denoted?_refer howner, ModuleAliases.denoted?_refer hbinding⟩

/-- The branch that is taken constructs the binding of the first marked declaration whose type is
accepted. -/
theorem constructs_iff (hallow : settings.allowOwnerOverrides = false) {kind : OwnerKind}
    (hassociable : Associable settings graph kind) {accepted : TypeName → Prop}
    {first firstBinding : Declaration}
    (hfirst : IsFirst (fun e => accepted e.toTypeName) (graph.marked kind) first)
    (hbinding : (settings.resolver graph).binding? first = some firstBinding) (t : TypeName) :
    (factory settings graph).Constructs kind accepted t ↔ t = firstBinding.toTypeName := by
  have hclear := (associable_iff kind).1 hassociable
  rw [hallow] at hclear
  have howner : IsFirst (fun o : ScannedOwner => accepted o.ownerType.toTypeName)
      (scan graph.declarations kind) { declaration := first, ownerType := first.ownerType } := by
    rw [DeclarationGraph.scan_eq, IsFirst.map_iff]
    exact ⟨first, hfirst, rfl⟩
  obtain ⟨entry, hentry, rfl⟩ := Association.isFirst_entries hclear howner hbinding
  have hmem : entry ∈ (association settings graph kind).entries := hentry.mem
  have hbranch : IsFirst (fun b : Branch => ∃ t,
      b.owner.denoted? (factory settings graph).imports = some t ∧ accepted t)
      ((factory settings graph).method kind).branches (Branch.ofEntry (aliases settings graph) entry) := by
    rw [branches_method, IsFirst.map_iff]
    refine ⟨entry, (IsFirst.congr ?_).2 hentry, rfl⟩
    intro other hother
    rw [(denoted?_ofEntry kind hother).1]
    simp
  have hdenoted := (denoted?_ofEntry kind hmem).2
  constructor
  · rintro ⟨branch, htaken, ht⟩
    rw [htaken.unique hbranch, hdenoted] at ht
    exact (Option.some.inj ht).symm
  · rintro rfl
    exact ⟨_, hbranch, hdenoted⟩

/-- In a run that gives an artifact, the objects of a marked declaration get the binding of the
first marked declaration that they are instances of. This is the binding of their own declaration
exactly if the two have the same one. -/
theorem constructs_first_of_run (hallow : settings.allowOwnerOverrides = false)
    {artifact : Artifact} (hrun : (run settings graph).result = .ok (some artifact))
    {kind : OwnerKind} {d : Declaration} (hd : d ∈ graph.declarations)
    (hmarked : d.isMarked kind = true) :
    ∃ found outputDirectory, (plan settings graph).result = .ok (some (found, outputDirectory)) ∧
      artifact = found.artifact ∧
      ∃ first firstBinding binding,
        IsFirst (fun e => graph.IsInstance d e.toTypeName) (graph.marked kind) first ∧
        ((settings.resolver graph).resolve first).result = .ok firstBinding ∧
        ((settings.resolver graph).resolve d).result = .ok binding ∧
        found.Constructs kind (graph.IsInstance d) firstBinding.toTypeName ∧
        (found.Constructs kind (graph.IsInstance d) binding.toTypeName ↔
          firstBinding = binding) := by
  obtain ⟨found, outputDirectory, hplan, rfl⟩ := (result_run_eq_ok_some_iff artifact).1 hrun
  obtain ⟨_, _, hassociable, rfl⟩ := (result_plan_eq_ok_some_iff found outputDirectory).1 hplan
  refine ⟨_, outputDirectory, hplan, rfl, ?_⟩
  have hmem : d ∈ graph.marked kind := List.mem_filter.2 ⟨hd, hmarked⟩
  obtain ⟨first, hfirst⟩ := IsFirst.exists_of_mem
    (p := fun e : Declaration => graph.IsInstance d e.toTypeName) hmem (graph.isInstance_self d)
  obtain ⟨firstBinding, hfirstBinding⟩ := (hassociable kind).1 first hfirst.mem
  obtain ⟨binding, hbinding⟩ := (hassociable kind).1 d hmem
  have hiff := constructs_iff hallow (hassociable kind) hfirst
    (Resolver.result_resolve_eq_ok_iff.1 hfirstBinding)
  refine ⟨first, firstBinding, binding, hfirst, hfirstBinding, hbinding, (hiff _).2 rfl, ?_⟩
  rw [hiff]
  constructor
  · intro htype
    have hname : firstBinding.qualifiedName = binding.qualifiedName :=
      congrArg TypeName.qualifiedName htype.symm
    exact Resolver.binding?_eq_of_qualifiedName_eq
      (Resolver.result_resolve_eq_ok_iff.1 hfirstBinding)
      (Resolver.result_resolve_eq_ok_iff.1 hbinding) hname
  · rintro rfl
    rfl

end Generation

/-! ## A marked screen below a marked screen -/

namespace Screens

/-- A screen that others derive from. -/
def base : Declaration where
  module := "app"
  name := "Screen"
  typeParameters := ["T"]
  superclass := none
  interfaces := .empty
  markers := .empty

/-- A binding for screens. -/
def binding (name : String) : Declaration where
  module := "app"
  name := name
  typeParameters := []
  superclass := none
  interfaces := .ofList [defaultContract]
  markers := .empty

/-- A marked screen with its superclass and the binding that it is given there. -/
def screen (name superclass argument : String) : Declaration where
  module := "app"
  name := name
  typeParameters := []
  superclass := some
    { name := superclass, kind := .declared,
      arguments := [{ kind := .declared, name := some argument }] }
  interfaces := .ofList [superclass]
  markers := .ofList [.fragment]

def listBinding : Declaration := binding "ListBinding"

def detailBinding : Declaration := binding "DetailBinding"

def listScreen : Declaration := screen "ListScreen" "app.Screen" "app.ListBinding"

def detailScreen : Declaration := screen "DetailScreen" "app.ListScreen" "app.DetailBinding"

/-- The detail screen is derived from the list screen and stands after it. -/
def graph : DeclarationGraph where
  declarations := [base, listBinding, detailBinding, listScreen, detailScreen]

def settings : Settings := { Settings.default with outputDirectory := some Path.current }

theorem plan_eq : (Generation.plan settings graph).result =
    .ok (some (Generation.factory settings graph, Path.current)) := by
  rfl

theorem result_run : (Generation.run settings graph).result =
    .ok (some (Generation.factory settings graph).artifact) := by
  rw [Generation.result_run, plan_eq]
  rfl

theorem marked_fragment : graph.marked .fragment = [listScreen, detailScreen] := by
  rfl

theorem isFirst_listScreen :
    IsFirst (fun e => graph.IsInstance detailScreen e.toTypeName) (graph.marked .fragment)
      listScreen := by
  have hextends : graph.Extends detailScreen listScreen := ⟨"app.ListScreen", by decide, by decide⟩
  rw [marked_fragment]
  exact ⟨[], [detailScreen], rfl, DeclarationGraph.isInstance_of_extends hextends, by simp⟩

theorem constructs_first_detailScreen :
    settings.allowOwnerOverrides = false ∧
      (Generation.run settings graph).result =
        .ok (some (Generation.factory settings graph).artifact) ∧
      detailScreen ∈ graph.declarations ∧ detailScreen.isMarked .fragment = true ∧
      ∃ found outputDirectory,
        (Generation.plan settings graph).result = .ok (some (found, outputDirectory)) ∧
        ∃ firstBinding : Declaration,
          ((settings.resolver graph).resolve listScreen).result = .ok firstBinding ∧
          found.Constructs .fragment (graph.IsInstance detailScreen) firstBinding.toTypeName := by
  have hallow : settings.allowOwnerOverrides = false := rfl
  have hmem : detailScreen ∈ graph.declarations := by simp [graph]
  have hmarked : detailScreen.isMarked .fragment = true := by decide
  refine ⟨hallow, result_run, hmem, hmarked, ?_⟩
  obtain ⟨found, outputDirectory, hplan, _, first, firstBinding, _, hfirst, hresolve, _,
    hconstructs, _⟩ := Generation.constructs_first_of_run hallow result_run hmem hmarked
  rw [hfirst.unique isFirst_listScreen] at hresolve
  exact ⟨found, outputDirectory, hplan, firstBinding, hresolve, hconstructs⟩

/-- The detail screen resolves to its own binding, but its objects get that of the list screen. -/
theorem detailScreen_constructs_listBinding :
    (Generation.plan settings graph).result =
        .ok (some (Generation.factory settings graph, Path.current)) ∧
      ((settings.resolver graph).resolve detailScreen).result = .ok detailBinding ∧
      (Generation.factory settings graph).Constructs .fragment (graph.IsInstance detailScreen)
        listBinding.toTypeName ∧
      ¬ (Generation.factory settings graph).Constructs .fragment (graph.IsInstance detailScreen)
        detailBinding.toTypeName := by
  obtain ⟨_, _, hassociable, _⟩ := (Generation.result_plan_eq_ok_some_iff _ _).1 plan_eq
  have hbinding : (settings.resolver graph).binding? listScreen = some listBinding := rfl
  have hiff := Generation.constructs_iff rfl (hassociable .fragment) isFirst_listScreen hbinding
  refine ⟨plan_eq, rfl, (hiff _).2 rfl, ?_⟩
  rw [hiff]
  decide

end Screens

end OwnerBinding
