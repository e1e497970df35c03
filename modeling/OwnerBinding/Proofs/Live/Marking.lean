import Mathlib.Data.List.Basic
import OwnerBinding.Proofs.Live.Enumeration
import OwnerBinding.Proofs.Live.Growth

/-!
# What a marker changes

A marker changes what one name is bound to in the namespace of one class. The classes that are made and
what is collected from them depend on names, bases, parents and ancestors, and these stay as they are
(`ClassTable.map_get_mark`). So a class can be made before or after a class that exists is marked
(`Workshop.make_mark`), and so can all classes of a module (`Program.addModule_mark`).

The classes in bodies are read from namespaces too. They stay as they are if the name of the markers is
bound to nothing else (`ClassTable.definedIn_mark`).
-/

namespace OwnerBinding

theorem MarkerSet.insert_comm (kind other : OwnerKind) (markers : MarkerSet) :
    (markers.insert kind).insert other = (markers.insert other).insert kind := by
  cases kind <;> cases other <;> rfl

theorem MarkerSet.insert_insert_self (kind : OwnerKind) (markers : MarkerSet) :
    (markers.insert kind).insert kind = markers.insert kind := by
  cases kind <;> rfl

namespace Live

namespace LiveClass

theorem mark_mark (kind other : OwnerKind) (c : LiveClass) :
    (c.mark kind).mark other = { c with
      attributes := c.attributes.put markersName
        (.markers ((c.markers.insert kind).insert other)) } := by
  rw [mark, markers_mark, mark, Entries.put_put]

theorem mark_comm (kind other : OwnerKind) (c : LiveClass) :
    (c.mark kind).mark other = (c.mark other).mark kind := by
  rw [mark_mark, mark_mark, MarkerSet.insert_comm]

theorem mark_mark_self (kind : OwnerKind) (c : LiveClass) :
    (c.mark kind).mark kind = c.mark kind := by
  rw [mark_mark, MarkerSet.insert_insert_self, mark]

end LiveClass

theorem modify_append_of_lt {α : Type} {f : α → α} {xs : List α} {i : Nat} (h : i < xs.length)
    (ys : List α) : (xs ++ ys).modify i f = xs.modify i f ++ ys := by
  induction xs generalizing i with
  | nil => simp at h
  | cons x rest ih =>
      cases i with
      | zero => rfl
      | succ i => simp [ih (Nat.lt_of_succ_lt_succ h)]

theorem modify_append_length {α : Type} (f : α → α) (xs : List α) (y : α) :
    (xs ++ [y]).modify xs.length f = xs ++ [f y] := by
  induction xs with
  | nil => rfl
  | cons x rest ih => simp [ih]

namespace ClassTable

variable (table : ClassTable) (id : ClassId) (kind : OwnerKind)

theorem map_classes_mark {α : Type} {f : LiveClass → α} (hf : ∀ c, f (c.mark kind) = f c) :
    (table.mark id kind).classes.map f = table.classes.map f := by
  apply List.ext_getElem?
  intro place
  rw [mark, List.getElem?_map, List.getElem?_map, List.getElem?_modify]
  cases table.classes[place]? with
  | none => rfl
  | some c => by_cases h : id = place <;> simp [h, hf]

theorem mark_comm (other : ClassId) (more : OwnerKind) :
    (table.mark id kind).mark other more = (table.mark other more).mark id kind := by
  simp only [mark, ClassTable.mk.injEq]
  by_cases h : id = other
  · subst h
    rw [List.modify_modify_eq, List.modify_modify_eq]
    congr 1
    funext c
    exact LiveClass.mark_comm kind more c
  · rw [List.modify_modify_ne _ _ _ h]

theorem mark_mark_self : (table.mark id kind).mark id kind = table.mark id kind := by
  simp only [mark, ClassTable.mk.injEq]
  rw [List.modify_modify_eq]
  congr 1
  funext c
  exact LiveClass.mark_mark_self kind c

@[simp] theorem toTypeName_mark (other : ClassId) :
    ((table.mark id kind).get other).toTypeName = (table.get other).toTypeName :=
  map_get_mark table id kind (fun _ => rfl) other

@[simp] theorem isProvided_mark (other : ClassId) :
    ((table.mark id kind).get other).isProvided = (table.get other).isProvided :=
  map_get_mark table id kind (fun _ => rfl) other

@[simp] theorem directBase?_mark (other : ClassId) :
    ((table.mark id kind).get other).directBase? = (table.get other).directBase? :=
  map_get_mark table id kind (fun _ => rfl) other

@[simp] theorem fullName_mark (other : ClassId) :
    (table.mark id kind).fullName other = table.fullName other :=
  map_get_mark table id kind (f := LiveClass.fullName) (fun _ => rfl) other

@[simp] theorem lookupOrder_mark (other : ClassId) :
    (table.mark id kind).lookupOrder other = table.lookupOrder other :=
  congrArg (other :: ·) (map_get_mark table id kind (fun _ => rfl) other)

/-! ## Making classes -/

@[simp] theorem isTyped_mark (other : ClassId) :
    (table.mark id kind).isTyped other = table.isTyped other := by
  simp only [isTyped, lookupOrder_mark, isProvided_mark, toTypeName_mark]

@[simp] theorem parentsOf_mark (bases : List Base) :
    (table.mark id kind).parentsOf bases = table.parentsOf bases := by
  have htyped : (table.mark id kind).isTyped = table.isTyped := funext (isTyped_mark table id kind)
  simp only [parentsOf, isBroughtAlong, htyped]

@[simp] theorem ancestorsOf_mark (parents : List ClassId) :
    (table.mark id kind).ancestorsOf parents = table.ancestorsOf parents := by
  have horder : (table.mark id kind).lookupOrder = table.lookupOrder :=
    funext (lookupOrder_mark table id kind)
  rw [ancestorsOf, ancestorsOf, horder]

theorem add_mark (h : id < table.classes.length) (c : LiveClass) :
    (table.mark id kind).add c = ((table.add c).1, (table.add c).2.mark id kind) := by
  simp only [add, mark, List.length_modify, modify_append_of_lt h]

/-- A class that is marked before it is added is the same as one that is marked then. -/
theorem add_marked (c : LiveClass) :
    table.add (c.mark kind) =
      ((table.add c).1, (table.add c).2.mark table.classes.length kind) := by
  simp only [add, mark, modify_append_length]

/-! ## Describing classes -/

@[simp] theorem typeArgument_mark (value : Value) :
    (table.mark id kind).typeArgument value = table.typeArgument value := by
  cases value with
  | cls origin arguments =>
      simp only [typeArgument, isProvided_mark, toTypeName_mark, fullName_mark]
  | _ => rfl

@[simp] theorem superclass_mark (base : Base) :
    (table.mark id kind).superclass base = table.superclass base := by
  have harguments : (table.mark id kind).typeArgument = table.typeArgument :=
    funext (typeArgument_mark table id kind)
  cases base with
  | cls origin arguments => simp only [superclass, fullName_mark, isProvided_mark, harguments]
  | standIn t classes => rfl

@[simp] theorem interfaces_mark (c : LiveClass) :
    (table.mark id kind).interfaces c = table.interfaces c := by
  have hnames : (table.mark id kind).fullName = table.fullName :=
    funext (fullName_mark table id kind)
  rw [interfaces, interfaces, hnames]

theorem declaration_mark_of_ne {other : ClassId} (h : other ≠ id) :
    (table.mark id kind).declaration other = table.declaration other := by
  have hsuperclass : (table.mark id kind).superclass = table.superclass :=
    funext (superclass_mark table id kind)
  simp only [declaration, get_mark_of_ne table id kind h, interfaces_mark, hsuperclass]

@[simp] theorem references_mark (other : ClassId) :
    (table.mark id kind).references other = table.references other := by
  simp only [references, directBase?_mark, isProvided_mark]

theorem collectFrom_mark (seen : List String) (queue : List ClassId) :
    (table.mark id kind).collectFrom seen queue = table.collectFrom seen queue := by
  induction seen, queue using collectFrom.induct table with
  | case1 seen => rw [collectFrom_nil, collectFrom_nil]
  | case2 seen first rest hseen ih =>
      have hseen' : (table.mark id kind).fullName first ∈ seen := by
        rwa [fullName_mark]
      rw [collectFrom_cons_of_mem hseen', collectFrom_cons_of_mem hseen, ih]
  | case3 seen first rest hfresh ih =>
      have hfresh' : (table.mark id kind).fullName first ∉ seen := by
        rwa [fullName_mark]
      rw [collectFrom_cons_of_notMem hfresh', collectFrom_cons_of_notMem hfresh, fullName_mark,
        references_mark, ih]

@[simp] theorem closure_mark (roots : List ClassId) :
    (table.mark id kind).closure roots = table.closure roots :=
  collectFrom_mark table id kind [] roots

end ClassTable

/-! ## Classes in bodies -/

/-- The name that is reserved for markers is bound to nothing else. -/
def LiveClass.Reserves (c : LiveClass) : Prop :=
  ∀ entry ∈ c.attributes, entry.1 = markersName → ∃ kinds, entry.2 = .markers kinds

theorem LiveClass.Reserves.mark {c : LiveClass} (h : c.Reserves) (kind : OwnerKind) :
    (c.mark kind).Reserves := by
  intro entry hentry hname
  rcases Entries.mem_put hentry with rfl | hold
  · exact ⟨_, rfl⟩
  · exact h entry hold hname

namespace ClassTable

/-- In no class of a table the reserved name is bound to anything but markers. -/
def Reserves (table : ClassTable) : Prop := ∀ id, (table.get id).Reserves

variable {table : ClassTable}

theorem Reserves.mark (h : table.Reserves) (id : ClassId) (kind : OwnerKind) :
    (table.mark id kind).Reserves := by
  intro other
  rcases table.get_mark_eq_or id kind other with hsame | hmarked
  · rw [hsame]
    exact h other
  · rw [hmarked]
    exact (h other).mark kind

theorem given?_mark (id : ClassId) (kind : OwnerKind) (scope : Scope) :
    scope.given? (table.mark id kind) = scope.given? table := by
  have hadmits : ∀ name inner,
      scope.admits (table.mark id kind) name inner = scope.admits table name inner := by
    intro name inner
    cases scope with
    | module name => simp only [Scope.admits, toTypeName_mark]
    | body outer => simp only [Scope.admits, isNestedAs, toTypeName_mark]
  funext entry
  simp only [Scope.given?, hadmits]

/-- Markers are not among the classes in a body. -/
theorem bodyClasses_mark (h : table.Reserves) (id : ClassId) (kind : OwnerKind)
    (other : ClassId) : (table.mark id kind).bodyClasses other = table.bodyClasses other := by
  rw [bodyClasses, bodyClasses, classesIn, classesIn, given?_mark]
  rcases table.get_mark_eq_or id kind other with hsame | hmarked
  · rw [hsame]
  · rw [hmarked]
    apply Entries.filterMap_put
    · rfl
    · intro entry hentry hname
      obtain ⟨kinds, hkinds⟩ := h other entry hentry hname
      rw [Scope.given?, hkinds]

theorem nested_mark (h : table.Reserves) (id : ClassId) (kind : OwnerKind) (outer : ClassId) :
    (table.mark id kind).nested outer = table.nested outer := by
  induction outer using inward_induction table with
  | step outer ih =>
      rw [nested_eq, nested_eq, bodyClasses_mark h, withNested, withNested]
      apply List.flatMap_congr
      intro inner hinner
      rw [ih inner hinner]

theorem definedIn_mark (h : table.Reserves) (id : ClassId) (kind : OwnerKind) (module : String)
    (entries : Namespace) :
    (table.mark id kind).definedIn module entries = table.definedIn module entries := by
  have hnested : (table.mark id kind).nested = table.nested := funext (nested_mark h id kind)
  rw [definedIn_eq, definedIn_eq, moduleClasses, moduleClasses, classesIn, classesIn, given?_mark,
    withNested, withNested, hnested]

end ClassTable

/-- The workshop with one more marker on a class. -/
def Workshop.mark (workshop : Workshop) (id : ClassId) (kind : OwnerKind) : Workshop :=
  { workshop with table := workshop.table.mark id kind }

/-! ## Running bodies -/

section Running

variable (workshop : Workshop) (id : ClassId) (kind : OwnerKind)

@[simp] theorem Workshop.provided?_mark (name : String) :
    (workshop.mark id kind).provided? name = workshop.provided? name := by
  have hfind : ∀ (classes : List LiveClass) (provided : String),
      classes.findIdx? (fun c => c.isProvided && c.name == provided) =
        (classes.map fun c => (c.isProvided, c.name)).findIdx? fun image =>
          image.1 && image.2 == provided := by
    intro classes provided
    rw [List.findIdx?_map]
    rfl
  have hshape := workshop.table.map_classes_mark id kind
    (f := fun c => (c.isProvided, c.name)) fun _ => rfl
  simp only [provided?, mark, hfind, hshape]

mutual

theorem Expr.value_mark : (expr : Expr) →
    expr.value (workshop.mark id kind) = expr.value workshop
  | .handle name arguments => by
      rw [Expr.value, Expr.value, Expr.values_mark arguments]
      simp only [Workshop.find?, Workshop.mark, ClassTable.isTyped_mark]
  | .provided name arguments => by
      rw [Expr.value, Expr.value, Expr.values_mark arguments, Workshop.provided?_mark]
  | .union members => by
      rw [Expr.value, Expr.value, Expr.values_mark members]
  | .generic parameters => by
      rw [Expr.value, Expr.value, Expr.values_mark parameters]
  | .protocol parameters => by
      rw [Expr.value, Expr.value, Expr.values_mark parameters]
  | .parameter _ => by rw [Expr.value, Expr.value]
  | .any => by rw [Expr.value, Expr.value]
  | .nothing => by rw [Expr.value, Expr.value]
  | .forward _ => by rw [Expr.value, Expr.value]
  | .other => by rw [Expr.value, Expr.value]
  | .standIn _ classes => by
      rw [Expr.value, Expr.value, Expr.values_mark classes]

theorem Expr.values_mark : (exprs : List Expr) →
    Expr.values (workshop.mark id kind) exprs = Expr.values workshop exprs
  | [] => by rw [Expr.values, Expr.values]
  | expr :: rest => by
      rw [Expr.values, Expr.values, Expr.value_mark expr, Expr.values_mark rest]

end

end Running

/-- A class can be made before or after another one is marked. -/
theorem Workshop.make_mark {workshop : Workshop} {id : ClassId}
    (h : id < workshop.table.classes.length) (kind : OwnerKind) (t : TypeName) (handle : String)
    (bases : List Base) (markers : List OwnerKind) (attributes : Namespace) :
    (workshop.mark id kind).make t handle bases markers attributes =
      ((workshop.make t handle bases markers attributes).1,
        (workshop.make t handle bases markers attributes).2.mark id kind) := by
  simp only [make, mark, ClassTable.parentsOf_mark, ClassTable.ancestorsOf_mark,
    ClassTable.add_mark _ _ _ h]

mutual

/-- An item can be run before or after a class that exists is marked. -/
theorem Item.make_mark (module scope : String) (workshop : Workshop) (bound : Namespace)
    {id : ClassId} (h : id < workshop.table.classes.length) (kind : OwnerKind) : (item : Item) →
    Item.make module scope (workshop.mark id kind) bound item =
      ((Item.make module scope workshop bound item).1.mark id kind,
        (Item.make module scope workshop bound item).2)
  | .assign name value => by
      rw [Item.make, Item.make, Expr.value_mark]
  | .define name boundAs handle bases markers body => by
      have hbody := Item.makeAll_mark module (scope ++ name ++ ".") workshop [] h kind body
      have hgrows := Item.isPrefix_makeAll module (scope ++ name ++ ".") workshop [] body
      have hinside := Nat.lt_of_lt_of_le h hgrows.length_le
      simp only [Item.make, hbody, Expr.values_mark, Workshop.make_mark hinside]

theorem Item.makeAll_mark (module scope : String) (workshop : Workshop) (bound : Namespace)
    {id : ClassId} (h : id < workshop.table.classes.length) (kind : OwnerKind) :
    (items : List Item) →
    Item.makeAll module scope (workshop.mark id kind) bound items =
      ((Item.makeAll module scope workshop bound items).1.mark id kind,
        (Item.makeAll module scope workshop bound items).2)
  | [] => by
      rw [Item.makeAll, Item.makeAll]
  | item :: rest => by
      have hitem := Item.make_mark module scope workshop bound h kind item
      have hgrows := Item.isPrefix_make module scope workshop bound item
      have hnext := Nat.lt_of_lt_of_le h hgrows.length_le
      have hrest := Item.makeAll_mark module scope _
        (Item.make module scope workshop bound item).2 hnext kind rest
      simp only [Item.makeAll, hitem, hrest]

end

/-- A module can be run before or after a class that exists is marked. -/
theorem Program.addModule_mark {program : Program} {id : ClassId}
    (h : id < program.table.classes.length) (kind : OwnerKind) (name : String)
    (items : List Item) :
    (program.mark id kind).addModule name items = (program.addModule name items).mark id kind := by
  have hitems := Item.makeAll_mark name "" program.workshop [] h kind items
  simp only [addModule]
  rw [show (program.mark id kind).workshop = program.workshop.mark id kind from rfl, hitems]
  rfl

end Live

end OwnerBinding
