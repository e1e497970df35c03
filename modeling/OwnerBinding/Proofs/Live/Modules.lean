import OwnerBinding.Proofs.Live.Enumeration
import OwnerBinding.Proofs.Live.Mentions
import OwnerBinding.Proofs.Locality

/-!
# Graphs of modules

The graph of some modules describes what their classes reach along references. So it depends on the set
of the modules alone, up to the order of its declarations: neither on their order nor on how often they
are given, and fewer modules give a part of the graph (`ClassTable.declarations_graph_subset`). This
takes that full names tell the reached classes apart, since of two classes with one full name the one
that waits first is described.

A class asks for its binding by full names, and all that it asks for is in any graph that describes it.
So it resolves alike in a part and in the whole (`ClassTable.resolve_graph_eq`), unless a declaration of
the empty module stands in the way that is called like another one in full.
-/

namespace OwnerBinding

theorem Declaration.AsksFor.mem_mentions {d : Declaration} {name : String} (h : d.AsksFor name) :
    name ∈ d.mentions := by
  obtain ⟨superclass, hsuperclass, _, argument, hargument, hkind, hname⟩ := h
  rw [mentions, hsuperclass]
  refine List.mem_append_right _ (List.mem_filterMap.2 ⟨argument, hargument, ?_⟩)
  rw [TypeArgument.mention?, if_pos hkind, hname]

/-- No declaration of the empty module is called like another declaration in full. -/
def DeclarationGraph.BareNamesApart (graph : DeclarationGraph) : Prop :=
  ∀ d ∈ graph.declarations, d.module = "" →
    ∀ e ∈ graph.declarations, d.name ≠ e.module ++ "." ++ e.name

theorem DeclarationGraph.BareNamesApart.of_subset {graph other : DeclarationGraph}
    (h : other.BareNamesApart) (hsubset : graph.declarations ⊆ other.declarations) :
    graph.BareNamesApart :=
  fun d hd hmodule e he => h d (hsubset hd) hmodule e (hsubset he)

namespace Live

namespace ClassTable

/-- Whether a class is reached from some classes along references. -/
def Reaches (table : ClassTable) (roots : List ClassId) (id : ClassId) : Prop :=
  ∃ root ∈ roots, Relation.ReflTransGen (fun i j => j ∈ table.references i) root id

/-- Full names tell the classes apart that are reached from some classes. -/
def ReachedApart (table : ClassTable) (roots : List ClassId) : Prop :=
  ∀ i j, table.Reaches roots i → table.Reaches roots j → table.fullName i = table.fullName j →
    table.get i = table.get j

variable {table : ClassTable} {roots others : List ClassId} {id : ClassId}

theorem Reaches.of_subset (h : table.Reaches roots id) (hsubset : roots ⊆ others) :
    table.Reaches others id := by
  obtain ⟨root, hroot, hreach⟩ := h
  exact ⟨root, hsubset hroot, hreach⟩

theorem reaches_of_mem_closure (h : id ∈ table.closure roots) : table.Reaches roots id :=
  exists_reflTransGen_of_mem_collectFrom [] roots id h

theorem references_congr {i j : ClassId} (h : table.get i = table.get j) :
    table.references i = table.references j := by
  simp only [references, h]

/-- A class that is reached is collected, under its own place or another one with the same class. -/
theorem exists_mem_closure_of_reaches (happart : table.ReachedApart roots)
    (h : table.Reaches roots id) : ∃ met ∈ table.closure roots, table.get met = table.get id := by
  obtain ⟨root, hroot, hreach⟩ := h
  induction hreach with
  | refl =>
      obtain ⟨met, hmet, hname⟩ := meets_closure_of_mem hroot
      exact ⟨met, hmet, happart met root (reaches_of_mem_closure hmet) ⟨root, hroot, .refl⟩ hname⟩
  | @tail i j hreach hreference ih =>
      obtain ⟨met, hmet, hsame⟩ := ih
      rw [← references_congr hsame] at hreference
      obtain ⟨next, hnext, hname⟩ := meets_closure_of_mem_references hmet hreference
      rw [references_congr hsame] at hreference
      have hj : table.Reaches roots j := ⟨root, hroot, hreach.tail hreference⟩
      exact ⟨next, hnext, happart next j (reaches_of_mem_closure hnext) hj hname⟩

theorem declarations_graph_subset (hsubset : roots ⊆ others) (happart : table.ReachedApart others) :
    (table.graph roots).declarations ⊆ (table.graph others).declarations := by
  intro d hd
  obtain ⟨id, hid, rfl⟩ := List.mem_map.1 hd
  obtain ⟨met, hmet, hsame⟩ :=
    exists_mem_closure_of_reaches happart ((reaches_of_mem_closure hid).of_subset hsubset)
  rw [← declaration_congr hsame]
  exact List.mem_map_of_mem hmet

theorem nodup_fullNames_graph (roots : List ClassId) :
    ((table.graph roots).declarations.map fun d => d.module ++ "." ++ d.name).Nodup := by
  have hnames : (table.graph roots).declarations.map (fun d => d.module ++ "." ++ d.name) =
      (table.closure roots).map table.fullName := by
    rw [graph, List.map_map]
    rfl
  rw [hnames]
  exact nodup_map_fullName_collectFrom [] roots

/-- The same classes in any order and number give the same declarations. -/
theorem perm_declarations_graph (hsubset : roots ⊆ others) (hsuperset : others ⊆ roots)
    (happart : table.ReachedApart others) :
    (table.graph roots).declarations.Perm (table.graph others).declarations := by
  have happart' : table.ReachedApart roots := fun i j hi hj =>
    happart i j (hi.of_subset hsubset) (hj.of_subset hsubset)
  rw [List.perm_ext_iff_of_nodup ((nodup_fullNames_graph roots).of_map _)
    ((nodup_fullNames_graph others).of_map _)]
  intro d
  exact ⟨fun h => declarations_graph_subset hsubset happart h,
    fun h => declarations_graph_subset hsuperset happart' h⟩

/-- What is found under the full name of a declaration is this declaration, unless it belongs to the
empty module. -/
theorem get?_graph_of_mem (hbare : (table.graph roots).BareNamesApart) {e : Declaration}
    (he : e ∈ (table.graph roots).declarations) :
    (table.graph roots).get? (e.module ++ "." ++ e.name) = if e.module = "" then none else some e := by
  have hfound : ∀ d ∈ (table.graph roots).declarations,
      d.qualifiedName = e.module ++ "." ++ e.name → d.module ≠ "" ∧ d = e := by
    intro d hd hname
    have hmodule : d.module ≠ "" := by
      intro hempty
      refine hbare d hd hempty e he ?_
      simpa [TypeName.qualifiedName, hempty] using hname
    rw [TypeName.qualifiedName, if_neg (by simpa using hmodule)] at hname
    exact ⟨hmodule, List.inj_on_of_nodup_map (nodup_fullNames_graph roots) hd he hname⟩
  cases hget : (table.graph roots).get? (e.module ++ "." ++ e.name) with
  | some d =>
      obtain ⟨hd, hname⟩ := DeclarationGraph.get?_eq_some hget
      obtain ⟨hmodule, rfl⟩ := hfound d hd hname
      rw [if_neg hmodule]
  | none =>
      split
      · rfl
      · next hmodule =>
          have hne := (DeclarationGraph.get?_eq_none_iff _ _).1 hget e he
          rw [TypeName.qualifiedName, if_neg (by simpa using hmodule)] at hne
          exact absurd rfl hne

theorem exists_mem_graph_of_asksFor {id : ClassId} {name : String} (hid : id ∈ table.closure roots)
    (h : (table.declaration id).AsksFor name) :
    ∃ e ∈ (table.graph roots).declarations, e.module ++ "." ++ e.name = name := by
  rcases exists_mem_graph_of_mem_mentions hid h.mem_mentions with hmem | hstandIn
  · exact hmem
  · -- A base that is no class is written without arguments.
    exfalso
    obtain ⟨superclass, hsuperclass, _, argument, hargument, _⟩ := h
    obtain ⟨t, classes, hbase, _⟩ := LiveClass.exists_directBase?_of_standInName? hstandIn
    simp only [declaration, hbase] at hsuperclass
    cases hsuperclass
    cases hargument

/-- A class resolves alike in a part of a graph and in the whole. -/
theorem resolve_graph_eq
    (hsubset : (table.graph roots).declarations ⊆ (table.graph others).declarations)
    (hbare : (table.graph others).BareNamesApart) (contract : String) {d : Declaration}
    (hd : d ∈ (table.graph roots).declarations) :
    ({ graph := table.graph roots, contract := contract } : Resolver).resolve d =
      ({ graph := table.graph others, contract := contract } : Resolver).resolve d := by
  have hcontract : ({ graph := table.graph roots, contract := contract } : Resolver).contract =
      ({ graph := table.graph others, contract := contract } : Resolver).contract := rfl
  apply Resolver.resolve_congr hcontract
  intro name hname
  obtain ⟨id, hid, rfl⟩ := List.mem_map.1 hd
  obtain ⟨e, he, rfl⟩ := exists_mem_graph_of_asksFor hid hname
  have hpart := get?_graph_of_mem (hbare.of_subset hsubset) he
  have hwhole := get?_graph_of_mem hbare (hsubset he)
  exact hpart.trans hwhole.symm

end ClassTable

/-- A graph that is part of another one and says the same of its classes. -/
structure IsPartOf (graph other : DeclarationGraph) : Prop where
  subset : graph.declarations ⊆ other.declarations
  /-- The same binding is found, or none is found for the same reason. -/
  resolve_eq : other.BareNamesApart → ∀ contract, ∀ d ∈ graph.declarations,
    ({ graph := graph, contract := contract } : Resolver).resolve d =
      ({ graph := other, contract := contract } : Resolver).resolve d

namespace Program

variable {program : Program}

theorem classesOf_subset (program : Program) {modules others : List LiveModule}
    (h : modules ⊆ others) :
    program.classesOf modules ⊆ program.classesOf others := by
  intro id hid
  obtain ⟨module, hmodule, hmem⟩ := List.mem_flatMap.1 hid
  exact List.mem_flatMap.2 ⟨module, h hmodule, hmem⟩

theorem graphOf_eq {forms : List ModuleForm} {modules : List LiveModule}
    (h : program.modulesOf forms = .ok modules) :
    program.graphOf forms = .ok (program.table.graph (program.classesOf modules)) := by
  rw [graphOf, h]
  rfl

/-- Modules among others give a part of the graph of the others, and the same modules, in whatever
order, number and form, give the same declarations. -/
theorem graphOf_depends_on_modules {forms otherForms : List ModuleForm}
    {modules others : List LiveModule} (hmodules : program.modulesOf forms = .ok modules)
    (hothers : program.modulesOf otherForms = .ok others) (hsubset : modules ⊆ others)
    (happart : program.table.ReachedApart (program.classesOf others)) :
    ∃ graph other, program.graphOf forms = .ok graph ∧ program.graphOf otherForms = .ok other ∧
      IsPartOf graph other ∧
      (others ⊆ modules → graph.declarations.Perm other.declarations ∧ IsPartOf other graph) := by
  have hclasses := program.classesOf_subset hsubset
  refine ⟨_, _, graphOf_eq hmodules, graphOf_eq hothers, ?_, ?_⟩
  · have hpart := ClassTable.declarations_graph_subset hclasses happart
    exact ⟨hpart, fun hbare contract _ hd => ClassTable.resolve_graph_eq hpart hbare contract hd⟩
  · intro hsuperset
    have hperm := ClassTable.perm_declarations_graph hclasses (program.classesOf_subset hsuperset)
      happart
    exact ⟨hperm, hperm.symm.subset, fun hbare contract _ hd =>
      ClassTable.resolve_graph_eq hperm.symm.subset hbare contract hd⟩

end Program

/-! ## Two modules with screens -/

namespace TwoModules

open LoginScreens (plain)

/-- Two screens below one generic base with bindings of their own. The binding of the first screen is
left open. -/
def table (firstBinding : LiveClass) : ClassTable where
  classes := specialClasses ++
    [plain "bindwire.contracts" "ViewBinding" [.cls objectId []],
      firstBinding,
      plain "kit" "Binding" [.cls 5 []],
      plain "app" "Screen" [.cls genericId [.parameter "T"]],
      plain "first" "FirstScreen" [.cls 8 [.cls 6 []]],
      plain "second" "SecondScreen" [.cls 8 [.cls 7 []]]]

def secondBinding : ClassId := 7

def firstScreen : ClassId := 9

def secondScreen : ClassId := 10

def firstModule : LiveModule where
  name := "first"
  entries := [("FirstScreen", .cls firstScreen [])]

def secondModule : LiveModule where
  name := "second"
  entries := [("SecondScreen", .cls secondScreen [])]

def program (firstBinding : LiveClass) : Program where
  workshop := { table := table firstBinding, handles := [] }
  modules := [firstModule, secondModule].map fun module => (module.name, module.entries)

/-- A binding that stands beside the one of the second screen. -/
def otherBinding : LiveClass := plain "kit" "OtherBinding" [.cls 5 []]

/-- A class of the empty module, in the body of a class that is called like the module of the second
binding. -/
def bareBinding : LiveClass := plain "" "kit.Binding" []

variable (firstBinding : LiveClass)

theorem definedIn_first :
    (table firstBinding).definedIn firstModule.name firstModule.entries = [firstScreen] := by
  have htop : (table firstBinding).moduleClasses firstModule.name firstModule.entries =
      [firstScreen] := rfl
  rw [ClassTable.definedIn_eq, htop, ClassTable.withNested_cons,
    ClassTable.nested_of_attributes_eq_nil rfl]
  rfl

theorem definedIn_second :
    (table firstBinding).definedIn secondModule.name secondModule.entries = [secondScreen] := by
  have htop : (table firstBinding).moduleClasses secondModule.name secondModule.entries =
      [secondScreen] := rfl
  rw [ClassTable.definedIn_eq, htop, ClassTable.withNested_cons,
    ClassTable.nested_of_attributes_eq_nil rfl]
  rfl

theorem classesOf_second : (program firstBinding).classesOf [secondModule] = [secondScreen] := by
  have hsecond := definedIn_second firstBinding
  rw [Program.classesOf, List.flatMap_cons, List.flatMap_nil]
  exact congrArg (· ++ []) hsecond

theorem classesOf_both :
    (program firstBinding).classesOf [firstModule, secondModule] =
      [firstScreen, secondScreen] := by
  have hfirst := definedIn_first firstBinding
  have hsecond := classesOf_second firstBinding
  rw [Program.classesOf, List.flatMap_cons, ← Program.classesOf, hsecond]
  exact congrArg (· ++ [secondScreen]) hfirst

theorem object_mem : .object ∈ (program firstBinding).table.classes :=
  List.mem_append_left _ List.mem_cons_self

/-- The second module is among the two, in whatever form and number it is given. -/
theorem graphOf_both :
    (program otherBinding).modulesOf [.named "second"] = .ok [secondModule] ∧
      (program otherBinding).modulesOf
          [.loaded secondModule, .named "first", .named "second"] =
        .ok [secondModule, firstModule, secondModule] ∧
      [secondModule] ⊆ [secondModule, firstModule, secondModule] ∧
      (program otherBinding).table.ReachedApart
        ((program otherBinding).classesOf [secondModule, firstModule, secondModule]) ∧
      ∃ graph other,
        (program otherBinding).graphOf [.named "second"] = .ok graph ∧
        (program otherBinding).graphOf
            [.loaded secondModule, .named "first", .named "second"] = .ok other ∧
        IsPartOf graph other := by
  have hsecond : (program otherBinding).modulesOf [.named "second"] = .ok [secondModule] := rfl
  have hboth : (program otherBinding).modulesOf
      [.loaded secondModule, .named "first", .named "second"] =
        .ok [secondModule, firstModule, secondModule] := rfl
  have hsubset : [secondModule] ⊆ [secondModule, firstModule, secondModule] := by simp
  have happart : (program otherBinding).table.ReachedApart
      ((program otherBinding).classesOf [secondModule, firstModule, secondModule]) :=
    fun _ _ _ _ hname =>
      ClassTable.get_eq_of_fullName_eq (object_mem otherBinding) (by decide) hname
  obtain ⟨graph, other, hgraph, hother, hpart, _⟩ :=
    Program.graphOf_depends_on_modules hsecond hboth hsubset happart
  exact ⟨hsecond, hboth, hsubset, happart, graph, other, hgraph, hother, hpart⟩

theorem closure_second :
    (table bareBinding).closure [secondScreen] = [secondScreen, 8, secondBinding, 5] :=
  ClassTable.closure_eq_of_rounds? 4 rfl

theorem closure_both :
    (table bareBinding).closure [firstScreen, secondScreen] =
      [firstScreen, secondScreen, 8, 6, secondBinding, 5] :=
  ClassTable.closure_eq_of_rounds? 7 rfl

/-- The second screen resolves in the graph of its module, and not in the graph of both modules, where
the class of the empty module is found under the name of its binding. -/
theorem secondScreen_resolves_apart :
    [secondModule] ⊆ [firstModule, secondModule] ∧
      (program bareBinding).table.ReachedApart
        ((program bareBinding).classesOf [firstModule, secondModule]) ∧
      ∃ graph other,
        (program bareBinding).graphOf [.named "second"] = .ok graph ∧
        (program bareBinding).graphOf [.named "first", .named "second"] = .ok other ∧
        (table bareBinding).declaration secondScreen ∈ graph.declarations ∧
        (({ graph := graph, contract := defaultContract } : Resolver).resolve
          ((table bareBinding).declaration secondScreen)).result =
            .ok ((table bareBinding).declaration secondBinding) ∧
        (({ graph := other, contract := defaultContract } : Resolver).resolve
          ((table bareBinding).declaration secondScreen)).result =
            .error (.bindingNotFound "second.SecondScreen" defaultContract) := by
  have hsecond : (program bareBinding).modulesOf [.named "second"] = .ok [secondModule] := rfl
  have hboth : (program bareBinding).modulesOf [.named "first", .named "second"] =
      .ok [firstModule, secondModule] := rfl
  have happart : (program bareBinding).table.ReachedApart
      ((program bareBinding).classesOf [firstModule, secondModule]) :=
    fun _ _ _ _ hname =>
      ClassTable.get_eq_of_fullName_eq (object_mem bareBinding) (by decide) hname
  have hgraph : (program bareBinding).graphOf [.named "second"] = .ok
      { declarations :=
          [secondScreen, 8, secondBinding, 5].map (table bareBinding).declaration } := by
    rw [Program.graphOf_eq hsecond, classesOf_second, ← closure_second]
    rfl
  have hother : (program bareBinding).graphOf [.named "first", .named "second"] = .ok
      { declarations :=
          [firstScreen, secondScreen, 8, 6, secondBinding, 5].map
            (table bareBinding).declaration } := by
    rw [Program.graphOf_eq hboth, classesOf_both, ← closure_both]
    rfl
  refine ⟨by simp, happart, _, _, hgraph, hother, List.mem_cons_self, ?_, ?_⟩
  · rfl
  · rfl

end TwoModules

end Live

end OwnerBinding
