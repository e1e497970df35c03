import Mathlib.Data.List.Find
import Mathlib.Data.List.Nodup
import OwnerBinding.Declaration.Graph
import OwnerBinding.Proofs.First

/-!
# Lookups by name

Declarations of different modules can share a qualified name, and the first of them is found under it.
So a lookup goes on to further declarations only where the ones before have none of the name
(`DeclarationGraph.get?_append`), and the three ways of asking for a name agree. Where no name is
repeated, each declaration is found under its own name, in whatever order the declarations stand.
-/

namespace OwnerBinding

namespace DeclarationGraph

variable {graph other : DeclarationGraph}

/-- Further declarations are asked for names that the ones before do not have. -/
theorem get?_append (ds es : List Declaration) (name : String) :
    get? { declarations := ds ++ es } name =
      match get? { declarations := ds } name with
      | some d => some d
      | none => get? { declarations := es } name := by
  rw [get?_eq_find?, List.find?_append, ← get?_eq_find? { declarations := ds },
    ← get?_eq_find? { declarations := es }]
  cases get? { declarations := ds } name with
  | none => rw [Option.none_or]
  | some d => rw [Option.some_or]

theorem get?_eq_some_iff (name : String) (d : Declaration) :
    graph.get? name = some d ↔
      IsFirst (fun e => e.qualifiedName = name) graph.declarations d := by
  rw [isFirst_iff_find?, get?_eq_find?]

theorem get?_eq_none_iff_contains (name : String) :
    graph.get? name = none ↔ graph.contains name = false := by
  rw [get?_eq_none_iff, ← Bool.not_eq_true, contains_iff]
  simp

theorem require_eq_ok_iff (name : String) (d : Declaration) :
    graph.require name = .ok d ↔ graph.get? name = some d := by
  rw [require]
  cases graph.get? name with
  | none => simp
  | some found => simp

theorem require_eq_error_iff (name : String) (failure : Failure) :
    graph.require name = .error failure ↔
      graph.get? name = none ∧ failure = .unknownDeclaration name := by
  rw [require]
  cases graph.get? name with
  | none => simp [eq_comm]
  | some found => simp

/-- Where no name is repeated, what is found under a name does not depend on the order. -/
theorem get?_eq_of_perm (hperm : graph.declarations.Perm other.declarations)
    (hnames : (graph.declarations.map (·.qualifiedName)).Nodup) (name : String) :
    graph.get? name = other.get? name := by
  rw [get?_eq_find?, get?_eq_find?]
  apply List.find?_eq_find?_of_perm hperm
  intro d hd e he
  have hdname : d.qualifiedName = name := by simpa using hd.2
  have hename : e.qualifiedName = name := by simpa using he.2
  exact List.inj_on_of_nodup_map hnames hd.1 he.1 (hdname.trans hename.symm)

theorem get?_qualifiedName_of_nodup
    (hnames : (graph.declarations.map (·.qualifiedName)).Nodup) {d : Declaration}
    (hd : d ∈ graph.declarations) : graph.get? d.qualifiedName = some d := by
  obtain ⟨e, he⟩ := IsFirst.exists_of_mem (p := fun e => e.qualifiedName = d.qualifiedName) hd rfl
  have hsame : e = d := List.inj_on_of_nodup_map hnames he.mem hd he.holds
  rw [get?_eq_some_iff, ← hsame]
  rwa [← hsame] at he

/-- What is found under names among declarations. -/
structure FindsByName (ds : List Declaration) : Prop where
  append : ∀ es name, get? { declarations := ds ++ es } name =
    match get? { declarations := ds } name with
    | some d => some d
    | none => get? { declarations := es } name
  /-- No declaration of the name stands before the one that is found. -/
  isFirst_iff : ∀ name d, get? { declarations := ds } name = some d ↔
    IsFirst (fun e => e.qualifiedName = name) ds d
  contains_iff : ∀ name, get? { declarations := ds } name = none ↔
    contains { declarations := ds } name = false
  require_ok_iff : ∀ name d, require { declarations := ds } name = .ok d ↔
    get? { declarations := ds } name = some d
  require_error_iff : ∀ name failure, require { declarations := ds } name = .error failure ↔
    get? { declarations := ds } name = none ∧ failure = .unknownDeclaration name
  perm : (ds.map (·.qualifiedName)).Nodup → ∀ es, ds.Perm es → ∀ name,
    get? { declarations := ds } name = get? { declarations := es } name
  own_name : (ds.map (·.qualifiedName)).Nodup → ∀ d ∈ ds,
    get? { declarations := ds } d.qualifiedName = some d

/-- The first declaration of a name is found under it, among any declarations. -/
theorem findsByName (ds : List Declaration) : FindsByName ds where
  append := get?_append ds
  isFirst_iff := get?_eq_some_iff
  contains_iff := get?_eq_none_iff_contains
  require_ok_iff := require_eq_ok_iff
  require_error_iff := require_eq_error_iff
  perm hnames _ hperm := get?_eq_of_perm hperm hnames
  own_name hnames _ hd := get?_qualifiedName_of_nodup hnames hd

end DeclarationGraph

end OwnerBinding
