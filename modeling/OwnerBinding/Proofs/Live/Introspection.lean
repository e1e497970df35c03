import Mathlib.Data.List.Nodup
import OwnerBinding.Proofs.First
import OwnerBinding.Proofs.Live.Closure
import OwnerBinding.Proofs.Live.Growth
import OwnerBinding.Proofs.Resolution

/-!
# Bindings of live classes

The binding of a live class can be read off the class itself: it is the first class among the
arguments of its direct base that derives from the contract directly. The declarations that are
collected from any roots say the same wherever the names tell the classes apart, with one exception.
A description names every class with a dot behind its module, but a declaration of the empty module
goes by its bare name. So an argument class of the empty module is never found, and the binding is
the first such class that belongs to a module (`ClassTable.binding?_declaration`).
-/

namespace OwnerBinding

namespace Live

namespace ClassTable

/-- The classes among the arguments of the direct base, as they stand or without their own arguments.
A base that is provided or no class has none. -/
def argumentClasses (table : ClassTable) (id : ClassId) : List ClassId :=
  match (table.get id).directBase? with
  | some (.cls origin arguments) =>
      if (table.get origin).isProvided then [] else arguments.filterMap Value.origin?
  | _ => []

/-- A class that can be a binding: it is neither provided nor the class that stands for any type, and
one of its own parents, apart from the root and the markers, is the contract. -/
structure IsBinding (table : ClassTable) (contract : String) (id : ClassId) : Prop where
  notProvided : (table.get id).isProvided = false
  ne_any : id ≠ anyId
  exists_parent : ∃ parent ∈ (table.get id).parents,
    parent ∉ ignoredBases ∧ table.fullName parent = contract

/-- Names tell classes apart: two classes with the same full name are the same, and no class goes by
the full name of another one. -/
structure NamesApart (table : ClassTable) : Prop where
  fullName : ∀ i j, table.fullName i = table.fullName j → table.get i = table.get j
  qualifiedName : ∀ i j, (table.get i).qualifiedName = table.fullName j → table.get i = table.get j

variable {table : ClassTable}

theorem qualifiedName_eq_fullName {id : ClassId} (h : (table.get id).module ≠ "") :
    (table.get id).qualifiedName = table.fullName id := by
  simp [TypeName.qualifiedName, ClassTable.fullName, LiveClass.fullName, h]

/-- The bare name of a class of the empty module is not its full name. -/
theorem qualifiedName_ne_fullName {id : ClassId} (h : (table.get id).module = "") :
    (table.get id).qualifiedName ≠ table.fullName id := by
  intro heq
  have hlength := congrArg String.length heq
  simp [TypeName.qualifiedName, ClassTable.fullName, LiveClass.fullName, h] at hlength

/-- Without classes of the empty module, it is enough that full names are different. -/
theorem namesApart_of_modules (hmodules : ∀ id, (table.get id).module ≠ "")
    (h : ∀ i j, table.fullName i = table.fullName j → table.get i = table.get j) :
    table.NamesApart where
  fullName := h
  qualifiedName := by
    intro i j hname
    rw [qualifiedName_eq_fullName (hmodules i)] at hname
    exact h i j hname

theorem declaration_congr {i j : ClassId} (h : table.get i = table.get j) :
    table.declaration i = table.declaration j := by
  simp only [declaration, h]

theorem qualifiedName_declaration (id : ClassId) :
    (table.declaration id).qualifiedName = (table.get id).qualifiedName :=
  rfl

theorem implements_declaration (id : ClassId) (contract : String) :
    (table.declaration id).implements contract = true ↔
      ∃ parent ∈ (table.get id).parents, parent ∉ ignoredBases ∧ table.fullName parent = contract := by
  simp [Declaration.implements, declaration, interfaces, and_assoc]

theorem get?_fullName (h : table.NamesApart) {roots : List ClassId} {id : ClassId}
    (hmeets : table.Meets (table.closure roots) id) :
    (table.graph roots).get? (table.fullName id) =
      if (table.get id).module = "" then none else some (table.declaration id) := by
  split
  · next hmodule =>
      rw [DeclarationGraph.get?_eq_none_iff]
      intro d hd hname
      obtain ⟨other, _, rfl⟩ := List.mem_map.1 hd
      rw [qualifiedName_declaration] at hname
      have hsame := h.qualifiedName other id hname
      rw [hsame] at hname
      exact qualifiedName_ne_fullName hmodule hname
  · next hmodule =>
      obtain ⟨met, hmet, hname⟩ := hmeets
      have hsame := h.fullName met id hname
      have hmem : table.declaration id ∈ (table.graph roots).declarations := by
        rw [← declaration_congr hsame]
        exact List.mem_map_of_mem hmet
      cases hget : (table.graph roots).get? (table.fullName id) with
      | none =>
          have hne := (DeclarationGraph.get?_eq_none_iff _ _).1 hget _ hmem
          exact absurd (qualifiedName_eq_fullName hmodule) hne
      | some found =>
          obtain ⟨hfound, hname⟩ := DeclarationGraph.get?_eq_some hget
          obtain ⟨other, _, rfl⟩ := List.mem_map.1 hfound
          rw [declaration_congr (h.qualifiedName other id hname)]

theorem mem_references_of_argument {id a : ClassId} {base : Base}
    (hbase : (table.get id).directBase? = some base) {value : Value}
    (hvalue : value ∈ base.arguments) (horigin : value.origin? = some a)
    (hprovided : (table.get a).isProvided = false) : a ∈ table.references id := by
  have hmem : a ∈ base.arguments.filterMap Value.origin? :=
    List.mem_filterMap.2 ⟨value, hvalue, horigin⟩
  simp [references, hbase, hmem, hprovided]

theorem argument?_declared (graph : DeclarationGraph) (name : String) :
    graph.argument? { kind := .declared, name := some name } = graph.get? name :=
  rfl

/-- A class that is neither the wildcard nor provided stands in a description by its full name. -/
theorem typeArgument_of_notProvided {origin : ClassId} {arguments : List Value}
    (hwildcard : ¬ (origin = anyId ∧ arguments.isEmpty = true))
    (hprovided : (table.get origin).isProvided = false) :
    table.typeArgument (.cls origin arguments) =
      { kind := .declared, name := some (table.fullName origin) } := by
  rw [typeArgument, if_neg hwildcard, if_neg (by simp [hprovided])]

/-- An argument that can be a binding is found in the graph, if it belongs to a module. -/
theorem argument?_of_isBinding (h : table.NamesApart) {roots : List ClassId} {contract : String}
    {value : Value} {a : ClassId} (horigin : value.origin? = some a)
    (hmeets : table.Meets (table.closure roots) a) (hbinding : table.IsBinding contract a)
    (hmodule : (table.get a).module ≠ "") :
    (table.graph roots).argument? (table.typeArgument value) = some (table.declaration a) := by
  cases value with
  | cls origin arguments =>
      obtain rfl : origin = a := by simpa [Value.origin?] using horigin
      have hwildcard : ¬ (origin = anyId ∧ arguments.isEmpty = true) := fun hany =>
        hbinding.ne_any hany.1
      rw [typeArgument_of_notProvided hwildcard hbinding.notProvided, argument?_declared,
        get?_fullName h hmeets, if_neg hmodule]
  | _ => simp [Value.origin?] at horigin

/-- An argument that is found and implements the contract is a class that can be a binding and
belongs to a module. -/
theorem isBinding_of_argument? (h : table.NamesApart) (hany : table.AnyIsPlain)
    {roots : List ClassId} {contract : String} {value : Value} {found : Declaration}
    (hmeets : ∀ a, value.origin? = some a → (table.get a).isProvided = false →
      table.Meets (table.closure roots) a)
    (hfound : (table.graph roots).argument? (table.typeArgument value) = some found)
    (himplements : found.implements contract = true) :
    ∃ a, value.origin? = some a ∧ table.IsBinding contract a ∧ (table.get a).module ≠ "" ∧
      found = table.declaration a := by
  cases value with
  | cls origin arguments =>
      by_cases hwildcard : origin = anyId ∧ arguments.isEmpty = true
      · rw [typeArgument, if_pos hwildcard] at hfound
        cases hfound
      · by_cases hprovided : (table.get origin).isProvided = true
        · rw [typeArgument, if_neg hwildcard, if_pos hprovided] at hfound
          cases hfound
        · rw [Bool.not_eq_true] at hprovided
          rw [typeArgument_of_notProvided hwildcard hprovided, argument?_declared,
            get?_fullName h (hmeets origin rfl hprovided)] at hfound
          by_cases hmodule : (table.get origin).module = ""
          · rw [if_pos hmodule] at hfound
            cases hfound
          · rw [if_neg hmodule, Option.some.injEq] at hfound
            obtain rfl := hfound
            have hparent := (implements_declaration origin contract).1 himplements
            refine ⟨origin, rfl, ⟨hprovided, ?_, hparent⟩, hmodule, rfl⟩
            rintro rfl
            -- The only parent of the wildcard class is the root, which is no interface.
            obtain ⟨parent, hmem, hignored, _⟩ := hparent
            rw [hany.parents, List.mem_singleton] at hmem
            exact hignored (by rw [hmem]; decide)
  | _ => cases hfound

/-- The binding of a described class is the first argument class, by position, that can be a binding
and belongs to a module. -/
theorem binding?_declaration (h : table.NamesApart) (hany : table.AnyIsPlain)
    {roots : List ClassId} {contract : String} {id : ClassId} (hid : id ∈ table.closure roots)
    (binding : Declaration) :
    ({ graph := table.graph roots, contract := contract } : Resolver).binding?
        (table.declaration id) = some binding ↔
      ∃ a, IsFirst (fun a => table.IsBinding contract a ∧ (table.get a).module ≠ "")
        (table.argumentClasses id) a ∧ binding = table.declaration a := by
  have hempty : table.argumentClasses id = [] → ∀ a, ¬ IsFirst
      (fun a => table.IsBinding contract a ∧ (table.get a).module ≠ "")
      (table.argumentClasses id) a := by
    intro hnil a ha
    simpa [hnil] using ha.mem
  match hbase : (table.get id).directBase? with
  | none =>
      have hnone := hempty (by rw [argumentClasses, hbase])
      simp [Resolver.binding?, Resolver.candidates, declaration, hbase, hnone]
  | some (.standIn t classes) =>
      have hnone := hempty (by rw [argumentClasses, hbase])
      simp [Resolver.binding?, Resolver.candidates, declaration, hbase, superclass, hnone]
  | some (.cls origin arguments) =>
      by_cases hprovided : (table.get origin).isProvided = true
      · have hnone := hempty (by simp [argumentClasses, hbase, hprovided])
        simp [Resolver.binding?, Resolver.candidates, declaration, hbase, superclass, hprovided,
          hnone]
      · rw [Bool.not_eq_true] at hprovided
        have hcandidates : ({ graph := table.graph roots, contract := contract } : Resolver).candidates
            (table.declaration id) = arguments.filterMap fun value =>
              (table.graph roots).argument? (table.typeArgument value) := by
          simp [Resolver.candidates, declaration, hbase, superclass, hprovided, List.filterMap_map]
        have harguments : table.argumentClasses id = arguments.filterMap Value.origin? := by
          simp [argumentClasses, hbase, hprovided]
        have hmeets : ∀ value ∈ arguments, ∀ a, value.origin? = some a →
            (table.get a).isProvided = false → table.Meets (table.closure roots) a :=
          fun value hvalue a horigin ha => meets_closure_of_mem_references hid
            (mem_references_of_argument hbase hvalue horigin ha)
        rw [Resolver.binding?, hcandidates, harguments]
        apply IsFirst.find?_filterMap_iff
        · rintro value hvalue a horigin ⟨hbinding, hmodule⟩
          exact ⟨argument?_of_isBinding h horigin
            (hmeets value hvalue a horigin hbinding.notProvided) hbinding hmodule,
            (implements_declaration a contract).2 hbinding.exists_parent⟩
        · intro value hvalue found hfound himplements
          obtain ⟨a, horigin, hbinding, hmodule, hdeclaration⟩ :=
            isBinding_of_argument? h hany (hmeets value hvalue) hfound himplements
          exact ⟨a, horigin, ⟨hbinding, hmodule⟩, hdeclaration⟩

/-- What resolving the description of a class comes to, read off the class alone. -/
structure ResolvesTo (table : ClassTable) (contract : String) (id : ClassId)
    (result : Except Failure Declaration) : Prop where
  ok_iff : ∀ binding, result = .ok binding ↔
    ∃ a, IsFirst (fun a => table.IsBinding contract a ∧ (table.get a).module ≠ "")
      (table.argumentClasses id) a ∧ binding = table.declaration a
  error_iff : ∀ failure, result = .error failure ↔
    (∀ a ∈ table.argumentClasses id, table.IsBinding contract a → (table.get a).module = "") ∧
      failure = .bindingNotFound (table.declaration id).qualifiedName contract
  /-- The first argument class that can be a binding is the answer unless its module is empty. -/
  first_iff : ∀ a, IsFirst (table.IsBinding contract) (table.argumentClasses id) a →
    (result = .ok (table.declaration a) ↔ (table.get a).module ≠ "")

theorem ResolvesTo.unique {contract : String} {id : ClassId}
    {result other : Except Failure Declaration} (h : table.ResolvesTo contract id result)
    (h' : table.ResolvesTo contract id other) : result = other := by
  cases result with
  | ok binding => exact ((h'.ok_iff binding).2 ((h.ok_iff binding).1 rfl)).symm
  | error failure => exact ((h'.error_iff failure).2 ((h.error_iff failure).1 rfl)).symm

theorem resolvesTo_resolve (h : table.NamesApart)
    (hany : table.AnyIsPlain) {roots : List ClassId} (contract : String)
    {id : ClassId} (hid : id ∈ table.closure roots) :
    table.ResolvesTo contract id
      (({ graph := table.graph roots, contract := contract } : Resolver).resolve
        (table.declaration id)).result where
  ok_iff := by
    intro binding
    rw [Resolver.result_resolve_eq_ok_iff]
    exact binding?_declaration h hany hid binding
  error_iff := by
    intro failure
    rw [Resolver.result_resolve_eq_error_iff]
    refine and_congr ?_ Iff.rfl
    rw [Option.eq_none_iff_forall_ne_some]
    constructor
    · intro hnone a ha hbinding
      by_contra hmodule
      obtain ⟨first, hfirst⟩ := IsFirst.exists_of_mem
        (p := fun a => table.IsBinding contract a ∧ (table.get a).module ≠ "") ha
        ⟨hbinding, hmodule⟩
      exact hnone _ ((binding?_declaration h hany hid _).2 ⟨first, hfirst, rfl⟩)
    · intro hempty binding hbinding
      obtain ⟨a, ha, _⟩ := (binding?_declaration h hany hid binding).1 hbinding
      exact ha.holds.2 (hempty a ha.mem ha.holds.1)
  first_iff := by
    intro a ha
    rw [Resolver.result_resolve_eq_ok_iff, binding?_declaration h hany hid]
    constructor
    · rintro ⟨other, hother, hdeclaration⟩
      have hmodule : (table.declaration a).module = (table.declaration other).module := by
        rw [hdeclaration]
      have hmodule' : (table.get a).module = (table.get other).module := hmodule
      rw [hmodule']
      exact hother.holds.2
    · intro hmodule
      obtain ⟨before, after, hsplit, hbinding, hbefore⟩ := ha
      refine ⟨a, ⟨before, after, hsplit, ⟨hbinding, hmodule⟩, ?_⟩, rfl⟩
      exact fun other hother hboth => hbefore other hother hboth.1

/-- A class that the collected declarations describe resolves to what the class itself says, the same
for all roots from which the class is collected. -/
theorem resolve_declaration (h : table.NamesApart)
    (hany : table.AnyIsPlain) {roots : List ClassId} (contract : String)
    {id : ClassId} (hid : id ∈ table.closure roots) :
    table.ResolvesTo contract id
        (({ graph := table.graph roots, contract := contract } : Resolver).resolve
          (table.declaration id)).result ∧
      ∀ others, id ∈ table.closure others →
        (({ graph := table.graph others, contract := contract } : Resolver).resolve
            (table.declaration id)).result =
          (({ graph := table.graph roots, contract := contract } : Resolver).resolve
            (table.declaration id)).result := by
  have hresolves := resolvesTo_resolve h hany contract hid
  exact ⟨hresolves, fun others hothers =>
    (resolvesTo_resolve h hany contract hothers).unique hresolves⟩

theorem get_mem_of_object_mem (hobject : .object ∈ table.classes) (id : ClassId) :
    table.get id ∈ table.classes := by
  rcases List.mem_cons.1 (table.get_mem id) with h | h
  · rw [h]
    exact hobject
  · exact h

theorem get_eq_of_fullName_eq (hobject : .object ∈ table.classes)
    (hnodup : (table.classes.map LiveClass.fullName).Nodup) {i j : ClassId}
    (hname : table.fullName i = table.fullName j) : table.get i = table.get j :=
  List.inj_on_of_nodup_map hnodup (get_mem_of_object_mem hobject i) (get_mem_of_object_mem hobject j)
    hname

/-- Names tell the classes of a table apart if no full name stands twice in it and no class of the
empty module is called like another class in full. -/
theorem namesApart_of_nodup (hobject : .object ∈ table.classes)
    (hnodup : (table.classes.map LiveClass.fullName).Nodup)
    (hbare : ∀ c ∈ table.classes, ∀ d ∈ table.classes, c.qualifiedName = d.fullName →
      c.module ≠ "") : table.NamesApart := by
  refine ⟨fun i j hname => get_eq_of_fullName_eq hobject hnodup hname, fun i j hname => ?_⟩
  have hmodule := hbare _ (get_mem_of_object_mem hobject i) _ (get_mem_of_object_mem hobject j) hname
  rw [qualifiedName_eq_fullName hmodule] at hname
  exact get_eq_of_fullName_eq hobject hnodup hname

end ClassTable

/-! ## A binding of the empty module -/

namespace LoginScreens

/-- A class of a program with its bases. -/
def plain (module name : String) (bases : List Base) : LiveClass where
  module := module
  name := name
  isProvided := false
  bases := bases
  parents := bases.flatMap Base.classes
  ancestors := bases.flatMap Base.classes
  attributes := []

/-- Two screens below one generic base. The binding of the first belongs to no module. -/
def table : ClassTable where
  classes := specialClasses ++
    [plain "bindwire.contracts" "ViewBinding" [.cls objectId []],
      plain "" "LoginBinding" [.cls 5 []],
      plain "app" "MainBinding" [.cls 5 []],
      plain "app" "Screen" [.cls genericId [.parameter "T"]],
      plain "app" "LoginScreen" [.cls 8 [.cls 6 []]],
      plain "app" "MainScreen" [.cls 8 [.cls 7 []]]]

def loginBinding : ClassId := 6

def mainBinding : ClassId := 7

def loginScreen : ClassId := 9

def mainScreen : ClassId := 10

theorem namesApart : table.NamesApart := by
  apply ClassTable.namesApart_of_nodup
  · simp [table, specialClasses]
  · decide
  · decide

theorem anyIsPlain : table.AnyIsPlain := ⟨by decide, rfl⟩

theorem mem_closure (id : ClassId) : id ∈ table.closure [id] := by
  rw [ClassTable.closure, ClassTable.collectFrom_cons_of_notMem (by simp)]
  exact List.mem_cons_self

theorem isFirst_mainBinding :
    IsFirst (table.IsBinding defaultContract) (table.argumentClasses mainScreen) mainBinding :=
  ⟨[], [], rfl, ⟨rfl, by decide, 5, by decide, by decide, by decide⟩, by simp⟩

theorem resolve_declaration_mainScreen :
    table.NamesApart ∧ table.AnyIsPlain ∧ mainScreen ∈ table.closure [mainScreen] ∧
      (({ graph := table.graph [mainScreen], contract := defaultContract } : Resolver).resolve
        (table.declaration mainScreen)).result = .ok (table.declaration mainBinding) := by
  refine ⟨namesApart, anyIsPlain, mem_closure mainScreen, ?_⟩
  obtain ⟨hresolves, _⟩ :=
    ClassTable.resolve_declaration namesApart anyIsPlain defaultContract (mem_closure mainScreen)
  exact (hresolves.first_iff mainBinding isFirst_mainBinding).2 (by decide)

/-- The login screen has its binding as its argument, and resolves to none. -/
theorem resolve_loginScreen :
    table.NamesApart ∧ loginScreen ∈ table.closure [loginScreen] ∧
      IsFirst (table.IsBinding defaultContract) (table.argumentClasses loginScreen) loginBinding ∧
      (({ graph := table.graph [loginScreen], contract := defaultContract } : Resolver).resolve
        (table.declaration loginScreen)).result =
          .error (.bindingNotFound "app.LoginScreen" defaultContract) := by
  refine ⟨namesApart, mem_closure loginScreen, ?_, ?_⟩
  · exact ⟨[], [], rfl, ⟨rfl, by decide, 5, by decide, by decide, by decide⟩, by simp⟩
  · have hresolves := ClassTable.resolvesTo_resolve namesApart anyIsPlain defaultContract
      (mem_closure loginScreen)
    apply (hresolves.error_iff _).2
    constructor
    · intro a ha _
      have harguments : table.argumentClasses loginScreen = [loginBinding] := rfl
      rw [harguments, List.mem_singleton] at ha
      rw [ha]
      decide
    · rfl

end LoginScreens

end Live

end OwnerBinding
