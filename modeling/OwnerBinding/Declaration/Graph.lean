import OwnerBinding.Declaration
import OwnerBinding.Failure

/-!
# Declaration graphs

A graph holds the declarations of one run in the order in which they were supplied. They are registered
one after the other under their qualified names, and a name that is taken keeps its declaration. So a
lookup by name finds the first declaration of that name (`DeclarationGraph.get?_eq_find?`).
-/

namespace OwnerBinding

/-- Declarations by the names that they are registered under. -/
abbrev NameIndex := List (String × Declaration)

namespace NameIndex

/-- Registers a declaration under its qualified name, unless the name is taken. -/
def register (index : NameIndex) (d : Declaration) : NameIndex :=
  match index.lookup d.qualifiedName with
  | some _ => index
  | none => index ++ [(d.qualifiedName, d)]

def registerAll (index : NameIndex) (ds : List Declaration) : NameIndex := ds.foldl register index

/-- A name that is taken keeps its declaration, and no other name is touched. -/
theorem lookup_register (index : NameIndex) (d : Declaration) (name : String) :
    (index.register d).lookup name =
      (index.lookup name).or (if d.qualifiedName = name then some d else none) := by
  rw [register]
  cases htaken : index.lookup d.qualifiedName with
  | some taken =>
      by_cases hname : d.qualifiedName = name
      · simp [← hname, htaken]
      · simp [hname]
  | none =>
      by_cases hname : d.qualifiedName = name
      · simp [List.lookup_append, ← hname]
      · simp [List.lookup_append, List.lookup_cons, beq_false_of_ne (Ne.symm hname), hname]

/-- Behind what was registered before, a name has its first declaration. -/
theorem lookup_registerAll (index : NameIndex) (ds : List Declaration) (name : String) :
    (index.registerAll ds).lookup name =
      (index.lookup name).or (ds.find? fun d => d.qualifiedName = name) := by
  induction ds generalizing index with
  | nil => simp [registerAll]
  | cons d rest ih =>
      rw [registerAll, List.foldl_cons, ← registerAll, ih, lookup_register, Option.or_assoc,
        List.find?_cons]
      by_cases hname : d.qualifiedName = name <;> simp [hname]

end NameIndex

structure DeclarationGraph where
  declarations : List Declaration
  deriving DecidableEq

namespace DeclarationGraph

/-- The declarations of a graph, registered in their order. -/
def byName (graph : DeclarationGraph) : NameIndex := NameIndex.registerAll [] graph.declarations

/-- The declaration that is registered under a name. -/
def get? (graph : DeclarationGraph) (name : String) : Option Declaration :=
  graph.byName.lookup name

def contains (graph : DeclarationGraph) (name : String) : Bool :=
  (graph.byName.map Prod.fst).contains name

/-- The declaration that is registered under a name, or the failure to find one. -/
def require (graph : DeclarationGraph) (name : String) : Except Failure Declaration :=
  match graph.get? name with
  | some d => .ok d
  | none => .error (.unknownDeclaration name)

def size (graph : DeclarationGraph) : Nat := graph.declarations.length

/-- The declarations marked as owners of the kind, in the order of the graph. -/
def marked (graph : DeclarationGraph) (kind : OwnerKind) : List Declaration :=
  graph.declarations.filter (·.isMarked kind)

def summary (graph : DeclarationGraph) : String :=
  "DeclarationGraph(declarations=" ++ toString graph.size ++ ")"

theorem get?_eq_find? (graph : DeclarationGraph) (name : String) :
    graph.get? name = graph.declarations.find? fun d => d.qualifiedName = name := by
  rw [get?, byName, NameIndex.lookup_registerAll, List.lookup_nil, Option.none_or]

theorem get?_eq_some {graph : DeclarationGraph} {name : String} {d : Declaration}
    (h : graph.get? name = some d) : d ∈ graph.declarations ∧ d.qualifiedName = name := by
  rw [get?_eq_find?] at h
  have hname := List.find?_some h
  exact ⟨List.mem_of_find?_eq_some h, by simpa using hname⟩

theorem get?_eq_none_iff (graph : DeclarationGraph) (name : String) :
    graph.get? name = none ↔ ∀ d ∈ graph.declarations, d.qualifiedName ≠ name := by
  simp [get?_eq_find?, List.find?_eq_none]

/-- The names that are registered are the qualified names of the declarations. -/
theorem contains_iff (graph : DeclarationGraph) (name : String) :
    graph.contains name = true ↔ ∃ d ∈ graph.declarations, d.qualifiedName = name := by
  have hkeys : graph.contains name = true ↔ ¬ graph.get? name = none := by
    simp [contains, get?, List.lookup_eq_none_iff]
  rw [hkeys, get?_eq_none_iff]
  simp

end DeclarationGraph

end OwnerBinding
