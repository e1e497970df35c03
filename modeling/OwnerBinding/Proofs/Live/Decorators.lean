import OwnerBinding.Proofs.Live.Applications

/-!
# Modules as courses of events

Running a module makes its classes one after the other, those in the body of a class before the class
itself. The decorators of a class are applied to it as soon as it is made, the last one first. So what
happens to the classes of a program when a module is run is a course of creations and applications
(`Program.workshop_addModule`), as long as no body binds the name that is reserved for markers.
-/

namespace OwnerBinding

namespace Live

/-- The name that an item binds. -/
def Item.boundName : Item → String
  | .assign name _ => name
  | .define name boundAs _ _ _ _ => boundAs.getD name

mutual

/-- The bodies of classes leave the name of the markers alone. -/
def Item.SparesMarkers : Item → Prop
  | .assign _ _ => True
  | .define _ _ _ _ _ body =>
      (∀ item ∈ body, item.boundName ≠ markersName) ∧ Item.AllSpareMarkers body

def Item.AllSpareMarkers : List Item → Prop
  | [] => True
  | item :: rest => item.SparesMarkers ∧ Item.AllSpareMarkers rest

end

/-- A body with the entries of a namespace, without the name of the markers. -/
def Namespace.toBody (entries : Namespace) : Body where
  entries := entries.filter fun entry => entry.1 != markersName
  spares _ hentry := bne_iff_ne.1 (List.mem_filter.1 hentry).2

theorem Namespace.entries_toBody {entries : Namespace}
    (h : ∀ entry ∈ entries, entry.1 ≠ markersName) : entries.toBody.entries = entries :=
  List.filter_eq_self.2 fun entry hentry => bne_iff_ne.2 (h entry hentry)

theorem Item.exists_make_eq_put (module scope : String) (workshop : Workshop) (bound : Namespace)
    (item : Item) : ∃ value,
      (Item.make module scope workshop bound item).2 = bound.put item.boundName value := by
  cases item with
  | assign name value =>
      rw [Item.make]
      exact ⟨_, rfl⟩
  | define name boundAs handle bases markers body =>
      rw [Item.make]
      exact ⟨_, rfl⟩

/-- What is bound behind some items was bound before or is bound by one of them. -/
theorem Item.mem_makeAll {module scope : String} {items : List Item} {entry : String × Value}
    {workshop : Workshop} {bound : Namespace}
    (h : entry ∈ (Item.makeAll module scope workshop bound items).2) :
    entry ∈ bound ∨ ∃ item ∈ items, entry.1 = item.boundName := by
  induction items generalizing workshop bound with
  | nil =>
      rw [Item.makeAll] at h
      exact .inl h
  | cons item rest ih =>
      rw [Item.makeAll] at h
      rcases ih h with hnext | ⟨other, hother, hname⟩
      · obtain ⟨value, hvalue⟩ := Item.exists_make_eq_put module scope workshop bound item
        rw [hvalue] at hnext
        rcases Entries.mem_put hnext with rfl | hbound
        · exact .inr ⟨item, List.mem_cons_self, rfl⟩
        · exact .inl hbound
      · exact .inr ⟨other, List.mem_cons_of_mem item hother, hname⟩

/-- The decorators of a class are applied to it from the last to the first. -/
def decoration (markers : List OwnerKind) (id : ClassId) : List Event :=
  markers.reverse.map fun kind => .apply kind id

mutual

/-- What happens when an item is run. -/
def Item.events (module scope : String) (workshop : Workshop) : Item → List Event
  | .assign _ _ => []
  | .define name _ handle bases markers body =>
      let t : TypeName := { module, name := scope ++ name }
      let inner := Item.eventsAll module (t.name ++ ".") workshop body
      let inside := workshop.after inner
      let values := Expr.values inside bases
      let attributes := (Item.makeAll module (t.name ++ ".") workshop [] body).2
      inner ++ .create t (handle.getD (module ++ "." ++ t.name)) (values.filterMap Value.base?)
        attributes.toBody :: decoration markers inside.size

def Item.eventsAll (module scope : String) (workshop : Workshop) : List Item → List Event
  | [] => []
  | item :: rest =>
      let first := Item.events module scope workshop item
      first ++ Item.eventsAll module scope (workshop.after first) rest

end

/-- A class that is made with markers is the same as one that is made without them and marked then. -/
theorem Workshop.make_eq_after (workshop : Workshop) (t : TypeName) (handle : String)
    (bases : List Base) (markers : List OwnerKind) (body : Body) :
    (workshop.make t handle bases markers body.entries).2 =
      workshop.after (.create t handle bases body :: decoration markers workshop.size) := by
  induction markers with
  | nil => rfl
  | cons kind rest ih =>
      rw [after_cons] at ih
      rw [after_cons, decoration, List.reverse_cons, List.map_append, ← decoration, after_append,
        ← ih]
      simp only [make, List.foldr_cons, ClassTable.add_marked]
      rfl

mutual

/-- Running an item is a course of events, one case for each form of an item. -/
theorem Item.make_eq_after (module scope : String) (workshop : Workshop) (bound : Namespace) :
    (item : Item) → item.SparesMarkers → (Item.make module scope workshop bound item).1 =
      workshop.after (item.events module scope workshop)
  | .assign _ _, _ => by
      rw [Item.make, Item.events, Workshop.after_nil]
  | .define name boundAs handle bases markers body, h => by
      rw [Item.SparesMarkers] at h
      have hinner := Item.makeAll_eq_after module (scope ++ name ++ ".") workshop [] body h.2
      have hbody : ∀ entry ∈ (Item.makeAll module (scope ++ name ++ ".") workshop [] body).2,
          entry.1 ≠ markersName := by
        intro entry hentry
        rcases Item.mem_makeAll hentry with hnone | ⟨item, hitem, hname⟩
        · cases hnone
        · rw [hname]
          exact h.1 item hitem
      rw [Item.make, Item.events]
      simp only [Workshop.after_append, ← Workshop.make_eq_after, Namespace.entries_toBody hbody,
        hinner]

theorem Item.makeAll_eq_after (module scope : String) (workshop : Workshop) (bound : Namespace) :
    (items : List Item) → Item.AllSpareMarkers items →
      (Item.makeAll module scope workshop bound items).1 =
        workshop.after (Item.eventsAll module scope workshop items)
  | [], _ => by
      rw [Item.makeAll, Item.eventsAll, Workshop.after_nil]
  | item :: rest, h => by
      rw [Item.AllSpareMarkers] at h
      rw [Item.makeAll, Item.eventsAll, Workshop.after_append,
        ← Item.make_eq_after module scope workshop bound item h.1]
      exact Item.makeAll_eq_after module scope _ _ rest h.2

end

theorem Program.workshop_addModule (program : Program) (name : String) {items : List Item}
    (h : Item.AllSpareMarkers items) :
    (program.addModule name items).workshop =
      program.workshop.after (Item.eventsAll name "" program.workshop items) :=
  Item.makeAll_eq_after name "" program.workshop [] items h

/-! ## Programs -/

/-- The program comes from the initial one by running modules and marking classes, and the events are
what happens to its classes then. -/
inductive Program.Runs : List Event → Program → Prop
  | initial : Runs [] Program.initial
  | addModule {events : List Event} {program : Program} (name : String) {items : List Item} :
      Runs events program → Item.AllSpareMarkers items →
        Runs (events ++ Item.eventsAll name "" program.workshop items)
          (program.addModule name items)
  | mark {events : List Event} {program : Program} (id : ClassId) (kind : OwnerKind) :
      Runs events program → Runs (events ++ [.apply kind id]) (program.mark id kind)

theorem Program.Runs.workshop_eq {events : List Event} {program : Program}
    (h : Program.Runs events program) :
    program.workshop = Program.initial.workshop.after events := by
  induction h with
  | initial => rfl
  | addModule name _ hspares ih =>
      rw [workshop_addModule _ name hspares, ih, Workshop.after_append]
  | mark id kind _ ih =>
      rw [Workshop.after_append, ← ih]
      rfl

/-- What the markers of the classes of a program are after some events. -/
structure MarkersApart (events : List Event) : Prop where
  /-- A class has the markers that were applied to the class itself. -/
  has_iff : ∀ id kind, ((tableAfter events).get id).markers.has kind = true ↔
    (id, kind) ∈ applied events
  /-- Which classes a module has depends on how they were made. -/
  definedIn_eq : ∀ module entries, (tableAfter events).definedIn module entries =
    (tableAfter (creations events)).definedIn module entries
  /-- Which classes are collected depends on how they were made too, and which of them are scanned on
  what was applied to them. -/
  scans_iff : ∀ roots kind id, (tableAfter events).Scans roots kind id ↔
    id ∈ (tableAfter (creations events)).closure roots ∧ (id, kind) ∈ applied events
  /-- Applications can stand in any other order, before or behind the making of other classes, and
  can be repeated. -/
  reorder : ∀ others, creations others = creations events →
    (∀ entry, entry ∈ applied others ↔ entry ∈ applied events) →
      tableAfter others = tableAfter events
  /-- One more application, at any time, leaves every other class as it is. -/
  insert : ∀ before after, events = before ++ after → ∀ kind id other, other ≠ id →
    (tableAfter (before ++ .apply kind id :: after)).SameAt (tableAfter events) other
  /-- The classes of a program are those of the course that it goes through. -/
  table_eq : ∀ program, Program.Runs events program → program.table = tableAfter events
  /-- A class that exists can be marked before a module is run or behind it. -/
  addModule_mark : ∀ program, Program.Runs events program →
    ∀ id, id < program.table.classes.length → ∀ kind name items,
      (program.mark id kind).addModule name items = (program.addModule name items).mark id kind

/-- Markers belong to the class that they were put on: nothing that happens to other classes changes
them. -/
theorem markersApart (events : List Event) : MarkersApart events where
  has_iff := has_tableAfter_iff events
  definedIn_eq module entries := by
    have hstart : Program.initial.workshop.table.Reserves := Program.reserves_initial
    exact Workshop.definedIn_after hstart events module entries
  scans_iff roots kind id := by
    rw [ClassTable.scans_iff, has_tableAfter_iff, tableAfter, Workshop.closure_after, tableAfter]
  reorder others hcreations happlied := by
    have hmarkers := (Program.initial.workshop.after (creations events)).markAll_congr happlied
    rw [applied, applied] at hmarkers
    rw [tableAfter, tableAfter, Workshop.after_eq_markAll, Workshop.after_eq_markAll _ events,
      hcreations, hmarkers]
  insert before after hsplit kind id other hne := by
    subst hsplit
    exact Program.initial.workshop.sameAt_insert before after kind hne
  table_eq _ hruns := congrArg Workshop.table hruns.workshop_eq
  addModule_mark _ _ _ hid kind name items := Program.addModule_mark hid kind name items

end Live

end OwnerBinding
