import OwnerBinding.Live.Program

/-!
# Growth of class tables

Running the body of a module only adds classes: each class stays at its place and as it was made
(`Item.isPrefix_make`). A marker changes no more than the markers of one class. So the classes with a
meaning of their own inherit from the same classes in every program (`Program.Reached.anyIsPlain`).
-/

namespace OwnerBinding

namespace Live

theorem ClassTable.get_of_isPrefix {table other : ClassTable}
    (h : table.classes <+: other.classes) {id : ClassId} (hid : id < table.classes.length) :
    other.get id = table.get id := by
  obtain ⟨added, hadded⟩ := h
  rw [ClassTable.get, ClassTable.get, ← hadded, List.getD_eq_getElem?_getD,
    List.getD_eq_getElem?_getD, List.getElem?_append_left hid]

theorem Workshop.isPrefix_make (workshop : Workshop) (t : TypeName) (handle : String)
    (bases : List Base) (markers : List OwnerKind) (attributes : Namespace) :
    workshop.table.classes <+:
      (workshop.make t handle bases markers attributes).2.table.classes :=
  List.prefix_append _ _

mutual

/-- Making an item keeps all classes in their places. -/
theorem Item.isPrefix_make (module scope : String) (workshop : Workshop) (bound : Namespace) :
    (item : Item) → workshop.table.classes <+:
      (Item.make module scope workshop bound item).1.table.classes
  | .assign _ _ => by
      unfold Item.make
      exact List.prefix_rfl
  | .define name boundAs handle bases markers body => by
      rw [Item.make]
      have hbody := Item.isPrefix_makeAll module (scope ++ name ++ ".") workshop [] body
      exact hbody.trans (Workshop.isPrefix_make _ _ _ _ _ _)

theorem Item.isPrefix_makeAll (module scope : String) (workshop : Workshop) (bound : Namespace) :
    (items : List Item) → workshop.table.classes <+:
      (Item.makeAll module scope workshop bound items).1.table.classes
  | [] => by
      unfold Item.makeAll
      exact List.prefix_rfl
  | item :: rest => by
      rw [Item.makeAll]
      have hitem := Item.isPrefix_make module scope workshop bound item
      exact hitem.trans (Item.isPrefix_makeAll module scope _ _ rest)

end

/-- The class that stands for any type is in its place and inherits from the root alone. -/
structure ClassTable.AnyIsPlain (table : ClassTable) : Prop where
  mem : anyId < table.classes.length
  parents : (table.get anyId).parents = [objectId]

theorem ClassTable.AnyIsPlain.of_isPrefix {table other : ClassTable} (h : table.AnyIsPlain)
    (hgrows : table.classes <+: other.classes) : other.AnyIsPlain where
  mem := Nat.lt_of_lt_of_le h.mem hgrows.length_le
  parents := by rw [ClassTable.get_of_isPrefix hgrows h.mem, h.parents]

namespace ClassTable

variable (table : ClassTable) (id : ClassId) (kind : OwnerKind)

@[simp] theorem length_mark : (table.mark id kind).classes.length = table.classes.length := by
  simp [mark]

theorem get_mark_of_ne {other : ClassId} (h : other ≠ id) :
    (table.mark id kind).get other = table.get other := by
  simp [get, mark, List.getD, Ne.symm h]

theorem mark_of_le (h : table.classes.length ≤ id) : table.mark id kind = table := by
  rw [mark, List.modify_eq_self h]

theorem get_mark_eq_or (other : ClassId) : (table.mark id kind).get other = table.get other ∨
    (table.mark id kind).get other = (table.get other).mark kind := by
  by_cases h : other = id
  · subst h
    rcases Nat.lt_or_ge other table.classes.length with hlt | hge
    · exact .inr (by simp [get, mark, List.getD, hlt])
    · exact .inl (by rw [mark_of_le table other kind hge])
  · exact .inl (get_mark_of_ne table id kind h)

/-- What a marker leaves alone in a class stays the same in all classes. -/
theorem map_get_mark {α : Type} {f : LiveClass → α} (hf : ∀ c, f (c.mark kind) = f c)
    (other : ClassId) : f ((table.mark id kind).get other) = f (table.get other) := by
  rcases table.get_mark_eq_or id kind other with h | h
  · rw [h]
  · rw [h, hf]

theorem parents_mark (other : ClassId) :
    ((table.mark id kind).get other).parents = (table.get other).parents :=
  map_get_mark table id kind (fun _ => rfl) other

end ClassTable

namespace Program

/-- The programs that come from the initial one when modules are run and classes are marked. -/
inductive Reached : Program → Prop where
  | initial : Reached Program.initial
  | addModule {program : Program} (name : String) (items : List Item) :
      Reached program → Reached (program.addModule name items)
  | mark {program : Program} (id : ClassId) (kind : OwnerKind) :
      Reached program → Reached (program.mark id kind)

theorem isPrefix_addModule (program : Program) (name : String) (items : List Item) :
    program.table.classes <+: (program.addModule name items).table.classes :=
  Item.isPrefix_makeAll name "" program.workshop [] items

theorem anyIsPlain_initial : initial.table.AnyIsPlain := by
  constructor
  · decide +kernel
  · decide +kernel

/-- In every program, the class that stands for any type inherits from the root alone. -/
theorem Reached.anyIsPlain {program : Program} (h : Reached program) :
    program.table.AnyIsPlain := by
  induction h with
  | initial => exact anyIsPlain_initial
  | @addModule program name items _ ih => exact ih.of_isPrefix (program.isPrefix_addModule name items)
  | @mark program id kind _ ih =>
      constructor
      · simpa [Program.mark, Program.table, ClassTable.mark] using ih.mem
      · rw [← ih.parents]
        exact ClassTable.parents_mark program.table id kind anyId

end Program

end Live

end OwnerBinding
