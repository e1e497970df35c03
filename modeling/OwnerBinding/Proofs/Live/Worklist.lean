import Mathlib.Logic.Relation
import OwnerBinding.Proofs.Live.Introspection

/-!
# The collection of classes as a loop

Classes are collected by a loop over a queue: in each round the first class that waits is dropped if a
class of its name was taken before, and else it is taken and its references wait behind all others
(`Worklist.round?`). Every class that ever waits is a root or a reference of a class that was taken, so
the loop ends after as many rounds as there are of them (`rounds?_collectFrom`), and what it has taken
then are the first classes of their names in this order (`collectFrom_eq`).

The names that the loop compares are full names. The declarations of the collected classes go by
qualified names, and for classes of the empty module these are others: such a class can share the
qualified name of another collected class, and the graph does not have it under its full name.
-/

namespace OwnerBinding

namespace Live

/-- A state of the loop that collects classes: those that were taken, and those that wait. -/
structure Worklist where
  taken : List ClassId
  waiting : List ClassId

namespace Worklist

/-- One round of the loop, unless nothing waits any more. -/
def round? (table : ClassTable) : Worklist → Option Worklist
  | ⟨_, []⟩ => none
  | ⟨taken, id :: rest⟩ =>
      if table.fullName id ∈ taken.map table.fullName then some ⟨taken, rest⟩
      else some ⟨taken ++ [id], rest ++ table.references id⟩

/-- The state after a number of rounds, if the loop goes on for so long. -/
def rounds? (table : ClassTable) : Nat → Worklist → Option Worklist
  | 0, state => some state
  | n + 1, state => (state.round? table).bind (rounds? table n)

theorem round?_of_mem {table : ClassTable} {taken : List ClassId} {id : ClassId}
    (h : table.fullName id ∈ taken.map table.fullName) (rest : List ClassId) :
    round? table ⟨taken, id :: rest⟩ = some ⟨taken, rest⟩ := by
  rw [round?, if_pos h]

theorem round?_of_notMem {table : ClassTable} {taken : List ClassId} {id : ClassId}
    (h : table.fullName id ∉ taken.map table.fullName) (rest : List ClassId) :
    round? table ⟨taken, id :: rest⟩ = some ⟨taken ++ [id], rest ++ table.references id⟩ := by
  rw [round?, if_neg h]

theorem rounds?_succ {table : ClassTable} {state next : Worklist}
    (h : round? table state = some next) (n : Nat) :
    rounds? table (n + 1) state = rounds? table n next := by
  rw [rounds?, h, Option.bind_some]

end Worklist

namespace ClassTable

/-- Whether two classes have the same full name. -/
def sameName (table : ClassTable) (i j : ClassId) : Bool := table.fullName i == table.fullName j

/-- The first class of each name in a list. -/
def distinctByName (table : ClassTable) (ids : List ClassId) : List ClassId :=
  ids.eraseDupsBy table.sameName

variable {table : ClassTable}

@[simp] theorem distinctByName_nil : table.distinctByName [] = [] := rfl

theorem distinctByName_cons (id : ClassId) (rest : List ClassId) :
    table.distinctByName (id :: rest) =
      id :: table.distinctByName (rest.filter fun other => !table.sameName other id) := by
  rw [distinctByName, List.eraseDupsBy_cons, distinctByName]
  simp

/-- The first classes of their names in a list, and behind them those of the names that are not in
this list. -/
theorem distinctByName_append (ids others : List ClassId) :
    table.distinctByName (ids ++ others) = table.distinctByName ids ++
      table.distinctByName (others.filter fun other => !ids.any (table.sameName other)) := by
  match ids with
  | [] => simp
  | id :: rest =>
      have hrest := distinctByName_append (rest.filter fun other => !table.sameName other id)
        (others.filter fun other => !table.sameName other id)
      rw [List.cons_append, distinctByName_cons, distinctByName_cons, List.filter_append, hrest,
        List.cons_append, List.filter_filter]
      congr 4
      funext other
      by_cases hother : table.sameName other id = true
      · simp [hother]
      · -- A class named otherwise than the first one is not named like any class that is.
        have hany : (rest.filter fun next => !table.sameName next id).any (table.sameName other) =
            rest.any (table.sameName other) := by
          rw [List.any_filter]
          congr 1
          funext next
          simp only [sameName, beq_iff_eq] at hother ⊢
          by_cases hnext : table.fullName other = table.fullName next
          · simp [← hnext, hother]
          · simp [hnext]
        simp [hother, hany]
termination_by ids.length
decreasing_by
  exact Nat.lt_succ_of_le (List.length_filter_le _ _)

/-- The classes that are taken are the first of their names among all that ever wait, apart from the
names that were met before. -/
theorem collectFrom_eq (seen : List String) (queue : List ClassId) :
    table.collectFrom seen queue = table.distinctByName
      ((queue ++ (table.collectFrom seen queue).flatMap table.references).filter
        fun id => !seen.contains (table.fullName id)) := by
  induction seen, queue using collectFrom.induct table with
  | case1 seen => simp [collectFrom_nil]
  | case2 seen first rest hseen ih =>
      rw [collectFrom_cons_of_mem hseen, List.cons_append, List.filter_cons_of_neg (by simpa)]
      exact ih
  | case3 seen first rest hfirst ih =>
      rw [collectFrom_cons_of_notMem hfirst, List.flatMap_cons, List.cons_append,
        List.filter_cons_of_pos (by simpa), distinctByName_cons, List.filter_filter]
      refine congrArg (first :: ·) (ih.trans ?_)
      rw [List.append_assoc]
      congr 2
      funext id
      simp only [List.contains_cons, sameName, Bool.not_or]

theorem notMem_seen_of_mem_collectFrom (seen : List String) (queue : List ClassId) :
    ∀ id ∈ table.collectFrom seen queue, table.fullName id ∉ seen := by
  induction seen, queue using collectFrom.induct table with
  | case1 seen => simp [collectFrom_nil]
  | case2 seen first rest hseen ih =>
      rw [collectFrom_cons_of_mem hseen]
      exact ih
  | case3 seen first rest hfirst ih =>
      rw [collectFrom_cons_of_notMem hfirst]
      intro id hid
      rcases List.mem_cons.1 hid with rfl | hid
      · exact hfirst
      · exact fun hseen => ih id hid (List.mem_cons_of_mem _ hseen)

theorem nodup_map_fullName_collectFrom (seen : List String) (queue : List ClassId) :
    ((table.collectFrom seen queue).map table.fullName).Nodup := by
  induction seen, queue using collectFrom.induct table with
  | case1 seen => simp [collectFrom_nil]
  | case2 seen first rest hseen ih =>
      rw [collectFrom_cons_of_mem hseen]
      exact ih
  | case3 seen first rest hfirst ih =>
      rw [collectFrom_cons_of_notMem hfirst, List.map_cons, List.nodup_cons]
      refine ⟨?_, ih⟩
      intro hmem
      obtain ⟨id, hid, hname⟩ := List.mem_map.1 hmem
      refine notMem_seen_of_mem_collectFrom _ _ id hid ?_
      rw [hname]
      exact List.mem_cons_self

theorem exists_reflTransGen_of_mem_collectFrom (seen : List String) (queue : List ClassId) :
    ∀ id ∈ table.collectFrom seen queue, ∃ start ∈ queue,
      Relation.ReflTransGen (fun i j => j ∈ table.references i) start id := by
  induction seen, queue using collectFrom.induct table with
  | case1 seen => simp [collectFrom_nil]
  | case2 seen first rest hseen ih =>
      rw [collectFrom_cons_of_mem hseen]
      intro id hid
      obtain ⟨start, hstart, hreach⟩ := ih id hid
      exact ⟨start, List.mem_cons_of_mem first hstart, hreach⟩
  | case3 seen first rest hfirst ih =>
      rw [collectFrom_cons_of_notMem hfirst]
      intro id hid
      rcases List.mem_cons.1 hid with rfl | hid
      · exact ⟨id, List.mem_cons_self, .refl⟩
      · obtain ⟨start, hstart, hreach⟩ := ih id hid
        rcases List.mem_append.1 hstart with hrest | hreference
        · exact ⟨start, List.mem_cons_of_mem first hrest, hreach⟩
        · exact ⟨first, List.mem_cons_self, hreach.head hreference⟩

/-- The loop ends when every class that ever waits has had its round. -/
theorem rounds?_collectFrom (seen : List String) (queue taken : List ClassId)
    (h : ∀ name, name ∈ seen ↔ name ∈ taken.map table.fullName) :
    Worklist.rounds? table
        (queue ++ (table.collectFrom seen queue).flatMap table.references).length ⟨taken, queue⟩ =
      some ⟨taken ++ table.collectFrom seen queue, []⟩ := by
  induction seen, queue using collectFrom.induct table generalizing taken with
  | case1 seen => simp [collectFrom_nil, Worklist.rounds?]
  | case2 seen first rest hseen ih =>
      have hround := Worklist.round?_of_mem ((h _).1 hseen) rest
      rw [collectFrom_cons_of_mem hseen, List.cons_append, List.length_cons,
        Worklist.rounds?_succ hround]
      exact ih taken h
  | case3 seen first rest hfirst ih =>
      have hround := Worklist.round?_of_notMem (fun hmem => hfirst ((h _).2 hmem)) rest
      have htaken : ∀ name, name ∈ table.fullName first :: seen ↔
          name ∈ (taken ++ [first]).map table.fullName := by
        simp [h, or_comm]
      have hrest := ih (taken ++ [first]) htaken
      rw [List.append_assoc] at hrest
      rw [collectFrom_cons_of_notMem hfirst, List.cons_append, List.length_cons,
        Worklist.rounds?_succ hround, List.flatMap_cons, hrest, List.append_assoc,
        List.singleton_append]

theorem eq_append_collectFrom_of_rounds? {seen : List String} {queue taken collected : List ClassId}
    {n : Nat} (h : ∀ name, name ∈ seen ↔ name ∈ taken.map table.fullName)
    (hends : Worklist.rounds? table n ⟨taken, queue⟩ = some ⟨collected, []⟩) :
    collected = taken ++ table.collectFrom seen queue := by
  induction n generalizing seen queue taken with
  | zero =>
      obtain ⟨rfl, rfl⟩ := Worklist.mk.inj (Option.some.inj hends)
      rw [collectFrom_nil, List.append_nil]
  | succ n ih =>
      cases queue with
      | nil => cases hends
      | cons first rest =>
          by_cases hseen : table.fullName first ∈ seen
          · rw [Worklist.rounds?_succ (Worklist.round?_of_mem ((h _).1 hseen) rest)] at hends
            rw [collectFrom_cons_of_mem hseen]
            exact ih h hends
          · have hround := Worklist.round?_of_notMem (fun hmem => hseen ((h _).2 hmem)) rest
            rw [Worklist.rounds?_succ hround] at hends
            have htaken : ∀ name, name ∈ table.fullName first :: seen ↔
                name ∈ (taken ++ [first]).map table.fullName := by
              simp [h, or_comm]
            rw [collectFrom_cons_of_notMem hseen, ih htaken hends, List.append_assoc,
              List.singleton_append]

theorem closure_eq_of_rounds? {roots collected : List ClassId} (n : Nat)
    (hends : Worklist.rounds? table n ⟨[], roots⟩ = some ⟨collected, []⟩) :
    table.closure roots = collected := by
  have hnone : ∀ name, name ∈ ([] : List String) ↔ name ∈ ([] : List ClassId).map table.fullName := by
    simp
  exact (eq_append_collectFrom_of_rounds? hnone hends).symm

theorem collectFrom_eq_nil {seen : List String} {queue : List ClassId}
    (h : ∀ id ∈ queue, table.fullName id ∈ seen) : table.collectFrom seen queue = [] := by
  induction queue with
  | nil => exact collectFrom_nil seen
  | cons first rest ih =>
      rw [collectFrom_cons_of_mem (h first List.mem_cons_self)]
      exact ih fun id hid => h id (List.mem_cons_of_mem first hid)

/-- Classes of different names are taken one after the other, before anything that they refer to. -/
theorem collectFrom_append_of_nodup {seen : List String} {ids : List ClassId}
    (others : List ClassId) (hnodup : (ids.map table.fullName).Nodup)
    (hfresh : ∀ id ∈ ids, table.fullName id ∉ seen) :
    table.collectFrom seen (ids ++ others) = ids ++
      table.collectFrom ((ids.map table.fullName).reverse ++ seen)
        (others ++ ids.flatMap table.references) := by
  induction ids generalizing seen others with
  | nil => simp
  | cons id rest ih =>
      rw [List.map_cons, List.nodup_cons] at hnodup
      have hrest : ∀ other ∈ rest, table.fullName other ∉ table.fullName id :: seen := by
        intro other hother hmem
        rcases List.mem_cons.1 hmem with hname | hseen
        · exact hnodup.1 (hname ▸ List.mem_map_of_mem hother)
        · exact hfresh other (List.mem_cons_of_mem id hother) hseen
      rw [List.cons_append, collectFrom_cons_of_notMem (hfresh id List.mem_cons_self),
        List.append_assoc, ih _ hnodup.2 hrest]
      simp [List.append_assoc]

theorem closure_closure (roots : List ClassId) :
    table.closure (table.closure roots) = table.closure roots := by
  have hnodup : ((table.closure roots).map table.fullName).Nodup :=
    nodup_map_fullName_collectFrom [] roots
  have hagain : table.collectFrom [] (table.closure roots ++ []) = _ :=
    collectFrom_append_of_nodup [] hnodup (by simp)
  rw [List.append_nil, List.nil_append] at hagain
  rw [closure, hagain, collectFrom_eq_nil, List.append_nil]
  intro reference hreference
  obtain ⟨id, hid, hmem⟩ := List.mem_flatMap.1 hreference
  obtain ⟨met, hmet, hname⟩ := meets_closure_of_mem_references hid hmem
  simp [← hname, List.mem_map_of_mem hmet]

/-- The collected classes are the first of their names among the roots and all references. -/
theorem closure_eq_distinctByName (roots : List ClassId) :
    table.closure roots =
      table.distinctByName (roots ++ (table.closure roots).flatMap table.references) := by
  have heq : table.collectFrom [] roots = _ := collectFrom_eq [] roots
  simpa [closure] using heq

/-- The roots come first, each name once, and behind them the names that are only referred to. -/
theorem closure_eq_append (roots : List ClassId) :
    table.closure roots = table.distinctByName roots ++ table.distinctByName
      (((table.closure roots).flatMap table.references).filter fun id =>
        !roots.any (table.sameName id)) := by
  rw [← distinctByName_append, ← closure_eq_distinctByName]

/-! ## The graph of a collection -/

theorem qualifiedName_eq_name {id : ClassId} (h : (table.get id).module = "") :
    (table.get id).qualifiedName = (table.get id).name := by
  simp [TypeName.qualifiedName, h]

theorem contains_graph_iff (roots : List ClassId) (name : String) :
    (table.graph roots).contains name = true ↔
      ∃ id ∈ table.closure roots, (table.get id).qualifiedName = name := by
  rw [DeclarationGraph.contains_iff, graph]
  simp only [List.mem_map, exists_exists_and_eq_and, qualifiedName_declaration]

theorem eq_of_fullName_eq {roots : List ClassId} {i j : ClassId} (hi : i ∈ table.closure roots)
    (hj : j ∈ table.closure roots) (hname : table.fullName i = table.fullName j) : i = j :=
  List.inj_on_of_nodup_map (nodup_map_fullName_collectFrom [] roots) hi hj hname

/-- The declarations of collected classes share a qualified name where a class of the empty module is
called like another class in full. -/
theorem nodup_qualifiedNames_iff (roots : List ClassId) :
    ((table.graph roots).declarations.map fun d => d.qualifiedName).Nodup ↔
      ∀ i ∈ table.closure roots, ∀ j ∈ table.closure roots, (table.get i).module = "" →
        (table.get j).module ≠ "" → (table.get i).name ≠ table.fullName j := by
  have hnodup : (table.closure roots).Nodup :=
    (nodup_map_fullName_collectFrom [] roots).of_map table.fullName
  have hnames : (table.graph roots).declarations.map (fun d => d.qualifiedName) =
      (table.closure roots).map fun id => (table.get id).qualifiedName := by
    rw [graph, List.map_map]
    rfl
  rw [hnames, List.nodup_map_iff_inj_on hnodup]
  constructor
  · intro hinj i hi j hj hempty hmodule hname
    have hsame : (table.get i).qualifiedName = (table.get j).qualifiedName := by
      rw [qualifiedName_eq_name hempty, qualifiedName_eq_fullName hmodule, hname]
    exact hmodule (hinj i hi j hj hsame ▸ hempty)
  · intro hbare i hi j hj hsame
    apply eq_of_fullName_eq hi hj
    by_cases hempty : (table.get i).module = "" <;> by_cases hempty' : (table.get j).module = ""
    · rw [qualifiedName_eq_name hempty, qualifiedName_eq_name hempty'] at hsame
      simp [fullName, LiveClass.fullName, hempty, hempty', hsame]
    · rw [qualifiedName_eq_name hempty, qualifiedName_eq_fullName hempty'] at hsame
      exact absurd hsame (hbare i hi j hj hempty hempty')
    · rw [qualifiedName_eq_fullName hempty, qualifiedName_eq_name hempty'] at hsame
      exact absurd hsame.symm (hbare j hj i hi hempty' hempty)
    · rwa [qualifiedName_eq_fullName hempty, qualifiedName_eq_fullName hempty'] at hsame

theorem contains_fullName_iff {roots : List ClassId} {id : ClassId}
    (hid : id ∈ table.closure roots) :
    (table.graph roots).contains (table.fullName id) = true ↔ (table.get id).module ≠ "" ∨
      ∃ other ∈ table.closure roots,
        (table.get other).module = "" ∧ (table.get other).name = table.fullName id := by
  rw [contains_graph_iff]
  constructor
  · rintro ⟨other, hother, hname⟩
    by_cases hempty : (table.get other).module = ""
    · rw [qualifiedName_eq_name hempty] at hname
      exact .inr ⟨other, hother, hempty, hname⟩
    · rw [qualifiedName_eq_fullName hempty] at hname
      rw [← eq_of_fullName_eq hother hid hname]
      exact .inl hempty
  · rintro (hmodule | ⟨other, hother, hempty, hname⟩)
    · exact ⟨id, hid, qualifiedName_eq_fullName hmodule⟩
    · exact ⟨other, hother, by rw [qualifiedName_eq_name hempty, hname]⟩

/-- A graph that describes the classes collected from roots. -/
structure IsClosureGraph (table : ClassTable) (roots collected : List ClassId)
    (graph : DeclarationGraph) : Prop where
  declarations_eq : graph.declarations = collected.map table.declaration
  /-- The loop goes on for one round for each root and each reference, and then nothing waits. -/
  ends : Worklist.rounds? table (roots ++ collected.flatMap table.references).length ⟨[], roots⟩ =
    some ⟨collected, []⟩
  meets_root : ∀ root ∈ roots, table.Meets collected root
  meets_reference : ∀ id ∈ collected, ∀ reference ∈ table.references id,
    table.Meets collected reference
  reached : ∀ id ∈ collected, ∃ root ∈ roots,
    Relation.ReflTransGen (fun i j => j ∈ table.references i) root id
  /-- Roots and references are collected in the order in which they wait. -/
  order : collected = table.distinctByName (roots ++ collected.flatMap table.references)
  /-- The roots come first, and behind them the names that are only referred to. -/
  roots_first : collected = table.distinctByName roots ++ table.distinctByName
    ((collected.flatMap table.references).filter fun id => !roots.any (table.sameName id))
  again : table.graph collected = graph
  fullNames_nodup : (collected.map table.fullName).Nodup
  qualifiedNames_nodup_iff : (graph.declarations.map fun d => d.qualifiedName).Nodup ↔
    ∀ i ∈ collected, ∀ j ∈ collected, (table.get i).module = "" → (table.get j).module ≠ "" →
      (table.get i).name ≠ table.fullName j
  contains_iff : ∀ id ∈ collected, graph.contains (table.fullName id) = true ↔
    (table.get id).module ≠ "" ∨
      ∃ other ∈ collected,
        (table.get other).module = "" ∧ (table.get other).name = table.fullName id

/-- The classes collected from any roots are those that the roots refer to, directly or through
others, whatever the references between them are. -/
theorem isClosureGraph_graph (table : ClassTable) (roots : List ClassId) :
    table.IsClosureGraph roots (table.closure roots) (table.graph roots) where
  declarations_eq := rfl
  ends := rounds?_collectFrom [] roots [] (by simp)
  meets_root _ h := meets_closure_of_mem h
  meets_reference _ hid _ h := meets_closure_of_mem_references hid h
  reached := exists_reflTransGen_of_mem_collectFrom [] roots
  order := closure_eq_distinctByName roots
  roots_first := closure_eq_append roots
  again := by rw [graph, closure_closure, graph]
  fullNames_nodup := nodup_map_fullName_collectFrom [] roots
  qualifiedNames_nodup_iff := nodup_qualifiedNames_iff roots
  contains_iff _ hid := contains_fullName_iff hid

end ClassTable

/-! ## A class of the empty module -/

namespace TwinScreens

open LoginScreens (plain)

/-- A screen in the body of a class of the empty module, and one of the module that is called like
this class. -/
def table : ClassTable where
  classes := specialClasses ++ [plain "" "app.Screen" [], plain "app" "Screen" []]

def bareScreen : ClassId := 5

def appScreen : ClassId := 6

theorem closure_screens : table.closure [bareScreen, appScreen] = [bareScreen, appScreen] :=
  ClassTable.closure_eq_of_rounds? 2 rfl

/-- Both screens are collected, go by one qualified name, and the first is not in the graph under its
full name. -/
theorem qualifiedNames_screens :
    (table.graph [bareScreen, appScreen]).declarations.map (fun d => d.qualifiedName) =
        ["app.Screen", "app.Screen"] ∧
      ¬ ((table.graph [bareScreen, appScreen]).declarations.map fun d => d.qualifiedName).Nodup ∧
      (table.graph [bareScreen, appScreen]).contains (table.fullName bareScreen) = false := by
  have hnames : (table.graph [bareScreen, appScreen]).declarations.map
      (fun d => d.qualifiedName) = ["app.Screen", "app.Screen"] := by
    rw [ClassTable.graph, closure_screens]
    decide
  refine ⟨hnames, by simp [hnames], ?_⟩
  rw [ClassTable.graph, closure_screens]
  decide

end TwinScreens

end Live

end OwnerBinding
