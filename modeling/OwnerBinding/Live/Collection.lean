import OwnerBinding.Declaration.Graph
import OwnerBinding.Live.Description

/-!
# Collecting live classes

The graph of a list of classes has the declarations of these classes and of all classes that they
refer to, directly or through others. Classes wait in a queue: one whose name was met before is
skipped, and any other is taken and its references wait behind all that wait already. So the classes
of the list come first, in their order, and each name is taken once.

The classes of a module are those that its namespace holds and that were made in it, each followed
by the classes nested in it. A class is nested in another one if the other one binds it to a name
under which it was made there, so names grow on the way inwards and the walk ends.
-/

namespace OwnerBinding

namespace Live

namespace ClassTable

/-- All names by which classes of a table are identified. -/
def allNames (table : ClassTable) : List String :=
  (LiveClass.object :: table.classes).map LiveClass.fullName

/-- The names of a table that were not met yet. -/
def unseen (table : ClassTable) (seen : List String) : List String :=
  table.allNames.filter fun name => !seen.contains name

theorem fullName_mem_allNames (table : ClassTable) (id : ClassId) :
    table.fullName id ∈ table.allNames :=
  List.mem_map_of_mem (table.get_mem id)

/-- Meeting a new name of the table leaves fewer names unseen. -/
theorem length_unseen_cons_lt (table : ClassTable) {seen : List String} {name : String}
    (known : name ∈ table.allNames) (fresh : name ∉ seen) :
    (table.unseen (name :: seen)).length < (table.unseen seen).length := by
  have step : table.unseen (name :: seen) = (table.unseen seen).filter (· != name) := by
    simp only [unseen, List.filter_filter, List.contains_cons]
    congr 1
    funext other
    simp only [Bool.not_or, bne]
  rw [step]
  have member : name ∈ table.unseen seen := by
    simp [unseen, known, fresh]
  exact List.length_filter_lt_length_iff_exists.2 ⟨name, member, by simp⟩

/-- The classes taken from a queue, given the names that were met before. -/
def collectFrom (table : ClassTable) (seen : List String) : (queue : List ClassId) → List ClassId
  | [] => []
  | id :: rest =>
      if table.fullName id ∈ seen then table.collectFrom seen rest
      else
        id :: table.collectFrom (table.fullName id :: seen) (rest ++ table.references id)
termination_by queue => ((table.unseen seen).length, queue.length)
decreasing_by
  · exact Prod.Lex.right _ (by simp)
  · next fresh =>
      exact Prod.Lex.left _ _
        (table.length_unseen_cons_lt (table.fullName_mem_allNames id) fresh)

/-- The classes of a list and those that they refer to. -/
def closure (table : ClassTable) (roots : List ClassId) : List ClassId :=
  table.collectFrom [] roots

/-- The declarations of the classes of a list and of those that they refer to. -/
def graph (table : ClassTable) (roots : List ClassId) : DeclarationGraph where
  declarations := (table.closure roots).map table.declaration

/-- A number that the length of no name in a table exceeds. -/
def longestName (table : ClassTable) : Nat :=
  ((LiveClass.object :: table.classes).map fun c => c.name.length).foldr max 0

theorem le_foldr_max {n : Nat} {ns : List Nat} (h : n ∈ ns) : n ≤ ns.foldr max 0 := by
  induction ns with
  | nil => simp at h
  | cons m ms ih =>
      rcases List.mem_cons.1 h with rfl | h
      · simp only [List.foldr_cons]
        omega
      · have := ih h
        simp only [List.foldr_cons]
        omega

theorem length_name_le_longestName (table : ClassTable) (id : ClassId) :
    (table.get id).name.length ≤ table.longestName :=
  le_foldr_max (List.mem_map.2 ⟨_, table.get_mem id, rfl⟩)

/-- Whether a class, bound to a name in the body of another one, was made there under that name. -/
def isNestedAs (table : ClassTable) (outer : ClassId) (name : String) (inner : ClassId) : Bool :=
  (table.get inner).name == (table.get outer).name ++ "." ++ name

theorem length_name_lt_of_isNestedAs {table : ClassTable} {outer inner : ClassId} {name : String}
    (h : table.isNestedAs outer name inner = true) :
    (table.get outer).name.length < (table.get inner).name.length := by
  simp only [isNestedAs, beq_iff_eq] at h
  have dot : ".".length = 1 := rfl
  rw [h, String.length_append, String.length_append, dot]
  omega

/-- Names grow on the way inwards, within the length of the longest. -/
theorem longestName_sub_lt_of_isNestedAs {table : ClassTable} {outer inner : ClassId}
    {name : String} (h : table.isNestedAs outer name inner = true) :
    table.longestName - (table.get inner).name.length <
      table.longestName - (table.get outer).name.length := by
  have hlonger := length_name_lt_of_isNestedAs h
  have hbound := table.length_name_le_longestName inner
  omega

/-- The classes nested in a class, each followed by the classes nested in it. -/
def nested (table : ClassTable) (id : ClassId) : List ClassId :=
  (table.get id).attributes.flatMap fun entry =>
    match entry.2 with
    | .cls inner [] =>
        if _ : table.isNestedAs id entry.1 inner = true then inner :: table.nested inner
        else []
    | _ => []
termination_by table.longestName - (table.get id).name.length
decreasing_by exact longestName_sub_lt_of_isNestedAs ‹_›

/-- The classes of a module, given its name and its namespace. -/
def definedIn (table : ClassTable) (module : String) (entries : Namespace) : List ClassId :=
  entries.flatMap fun entry =>
    match entry.2 with
    | .cls id [] => if (table.get id).module = module then id :: table.nested id else []
    | _ => []

end ClassTable

end Live

end OwnerBinding
