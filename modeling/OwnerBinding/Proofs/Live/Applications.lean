import Mathlib.Data.List.Dedup
import OwnerBinding.OwnerType
import OwnerBinding.Proofs.Live.Marking

/-!
# Markers over time

In the course of a program classes are made, from any bases, and owner kinds are applied to classes,
in any order and any number of times. Applications can be put off until all classes are made
(`Workshop.after_eq_markAll`), and what they do then depends on nothing but the set of the pairs of a
class and a kind. So a class has the markers that were applied to the class itself
(`has_tableAfter_iff`), and an application shows in no other class (`Workshop.sameAt_insert`).
-/

namespace OwnerBinding

section Fold

variable {α β : Type} {f : β → α → β}

theorem foldl_step_last (hcomm : ∀ b x y, f (f b x) y = f (f b y) x) (xs : List α) (b : β) (x : α) :
    xs.foldl f (f b x) = f (xs.foldl f b) x := by
  induction xs generalizing b with
  | nil => rfl
  | cons y rest ih => rw [List.foldl_cons, List.foldl_cons, hcomm, ih]

/-- A step that was taken already does nothing if it counts once. -/
theorem foldl_step_again (hcomm : ∀ b x y, f (f b x) y = f (f b y) x)
    (hself : ∀ b x, f (f b x) x = f b x) {xs : List α} {x : α} (hx : x ∈ xs) (b : β) :
    f (xs.foldl f b) x = xs.foldl f b := by
  induction xs generalizing b with
  | nil => cases hx
  | cons y rest ih =>
      rw [List.foldl_cons]
      rcases List.mem_cons.1 hx with rfl | hrest
      · rw [foldl_step_last hcomm, hself]
      · exact ih hrest (f b y)

variable [DecidableEq α]

theorem foldl_dedup (hcomm : ∀ b x y, f (f b x) y = f (f b y) x)
    (hself : ∀ b x, f (f b x) x = f b x) (xs : List α) (b : β) :
    xs.dedup.foldl f b = xs.foldl f b := by
  induction xs generalizing b with
  | nil => rfl
  | cons x rest ih =>
      by_cases hx : x ∈ rest
      · rw [List.dedup_cons_of_mem hx, ih, List.foldl_cons, foldl_step_last hcomm,
          foldl_step_again hcomm hself hx]
      · rw [List.dedup_cons_of_notMem hx, List.foldl_cons, ih, List.foldl_cons]

/-- A fold by steps that commute and count once depends on nothing but which steps there are. -/
theorem foldl_eq_of_mem_iff (hcomm : ∀ b x y, f (f b x) y = f (f b y) x)
    (hself : ∀ b x, f (f b x) x = f b x) {xs ys : List α} (h : ∀ x, x ∈ xs ↔ x ∈ ys) (b : β) :
    xs.foldl f b = ys.foldl f b := by
  have hperm : xs.dedup.Perm ys.dedup := by
    rw [List.perm_ext_iff_of_nodup (List.nodup_dedup xs) (List.nodup_dedup ys)]
    simpa using h
  rw [← foldl_dedup hcomm hself xs, ← foldl_dedup hcomm hself ys]
  exact hperm.foldl_eq' (fun x _ y _ b => hcomm b x y) b

end Fold

namespace Live

/-- What the body of a class binds names to, without the name that is reserved for markers. -/
structure Body where
  entries : Namespace
  spares : ∀ entry ∈ entries, entry.1 ≠ markersName

namespace Body

variable {body : Body} {c : LiveClass}

theorem markers_eq_empty (h : c.attributes = body.entries) : c.markers = .empty := by
  have hfree : body.entries.lookup markersName = none := by
    rw [List.lookup_eq_none_iff]
    intro entry hentry
    exact bne_iff_ne.2 (body.spares entry hentry).symm
  rw [LiveClass.markers, h, hfree]

theorem reserves (h : c.attributes = body.entries) : c.Reserves := by
  intro entry hentry hname
  rw [h] at hentry
  exact absurd hname (body.spares entry hentry)

end Body

/-- What happens to the classes of a program. -/
inductive Event where
  /-- A class is made. -/
  | create (t : TypeName) (handle : String) (bases : List Base) (body : Body)
  /-- An owner kind is applied to a class. -/
  | apply (kind : OwnerKind) (id : ClassId)

def Event.isCreation : Event → Bool
  | .create .. => true
  | .apply .. => false

/-- The course of events without the applications. -/
def creations (events : List Event) : List Event := events.filter Event.isCreation

/-- The applications in the course of events, each to a class that was made by then. -/
def applications : (made : Nat) → List Event → List (ClassId × OwnerKind)
  | _, [] => []
  | made, .create .. :: rest => applications (made + 1) rest
  | made, .apply kind id :: rest =>
      if id < made then (id, kind) :: applications made rest else applications made rest

namespace Workshop

/-- The number of classes that are made. -/
def size (workshop : Workshop) : Nat := workshop.table.classes.length

def perform (workshop : Workshop) : Event → Workshop
  | .create t handle bases body => (workshop.make t handle bases [] body.entries).2
  | .apply kind id => workshop.mark id kind

/-- The workshop after some events. -/
def after (workshop : Workshop) (events : List Event) : Workshop := events.foldl perform workshop

/-- The workshop with many more markers. -/
def markAll (workshop : Workshop) (entries : List (ClassId × OwnerKind)) : Workshop :=
  entries.foldl (fun marked entry => marked.mark entry.1 entry.2) workshop

variable (workshop : Workshop)

@[simp] theorem after_nil : workshop.after [] = workshop := rfl

@[simp] theorem after_cons (event : Event) (rest : List Event) :
    workshop.after (event :: rest) = (workshop.perform event).after rest := rfl

theorem after_append (before rest : List Event) :
    workshop.after (before ++ rest) = (workshop.after before).after rest :=
  List.foldl_append

@[simp] theorem size_mark (id : ClassId) (kind : OwnerKind) :
    (workshop.mark id kind).size = workshop.size :=
  workshop.table.length_mark id kind

@[simp] theorem size_create (t : TypeName) (handle : String) (bases : List Base) (body : Body) :
    (workshop.perform (.create t handle bases body)).size = workshop.size + 1 := by
  simp [perform, make, ClassTable.add, size]

theorem size_le_after (events : List Event) : workshop.size ≤ (workshop.after events).size := by
  induction events generalizing workshop with
  | nil => exact Nat.le_refl _
  | cons event rest ih =>
      have hrest := ih (workshop.perform event)
      cases event with
      | create t handle bases body =>
          rw [size_create] at hrest
          exact Nat.le_of_succ_le hrest
      | apply kind id => rwa [perform, size_mark] at hrest

theorem mark_of_le {id : ClassId} (h : workshop.size ≤ id) (kind : OwnerKind) :
    workshop.mark id kind = workshop := by
  rw [mark, ClassTable.mark_of_le _ _ _ h]

theorem mark_comm (id other : ClassId) (kind more : OwnerKind) :
    (workshop.mark id kind).mark other more = (workshop.mark other more).mark id kind := by
  simp only [mark, ClassTable.mark_comm]

theorem mark_mark_self (id : ClassId) (kind : OwnerKind) :
    (workshop.mark id kind).mark id kind = workshop.mark id kind := by
  simp only [mark, ClassTable.mark_mark_self]

/-- An application to a class that exists can be put off behind any event. -/
theorem perform_mark {id : ClassId} (h : id < workshop.size) (kind : OwnerKind) (event : Event) :
    (workshop.mark id kind).perform event = (workshop.perform event).mark id kind := by
  cases event with
  | create t handle bases body => simp only [perform, make_mark h]
  | apply more other => exact workshop.mark_comm id other kind more

theorem after_mark {id : ClassId} (h : id < workshop.size) (kind : OwnerKind)
    (events : List Event) :
    (workshop.mark id kind).after events = (workshop.after events).mark id kind := by
  induction events generalizing workshop with
  | nil => rfl
  | cons event rest ih =>
      have hnext : id < (workshop.perform event).size :=
        Nat.lt_of_lt_of_le h (workshop.size_le_after [event])
      rw [after_cons, after_cons, workshop.perform_mark h, ih _ hnext]

/-- All applications can be put off until all classes are made. -/
theorem after_eq_markAll (events : List Event) :
    workshop.after events =
      (workshop.after (creations events)).markAll (applications workshop.size events) := by
  induction events generalizing workshop with
  | nil => rfl
  | cons event rest ih =>
      cases event with
      | create t handle bases body =>
          rw [after_cons, ih, size_create]
          rfl
      | apply kind id =>
          rw [after_cons, ih, perform, size_mark, applications]
          change _ = (workshop.after (creations rest)).markAll _
          by_cases h : id < workshop.size
          · rw [if_pos h, workshop.after_mark h]
            rfl
          · rw [if_neg h, workshop.mark_of_le (Nat.le_of_not_lt h)]

/-- Neither the order of markers nor their repetition matters. -/
theorem markAll_congr {entries others : List (ClassId × OwnerKind)}
    (h : ∀ entry, entry ∈ entries ↔ entry ∈ others) :
    workshop.markAll entries = workshop.markAll others := by
  apply foldl_eq_of_mem_iff _ _ h
  · intro marked entry other
    exact marked.mark_comm entry.1 other.1 entry.2 other.2
  · intro marked entry
    exact marked.mark_mark_self entry.1 entry.2

/-! ## The markers of a class -/

/-- A class is made from its body and gets the next place. -/
theorem exists_get_create (t : TypeName) (handle : String) (bases : List Base) (body : Body) :
    ∃ c : LiveClass, c.attributes = body.entries ∧
      ∀ id, (workshop.perform (.create t handle bases body)).table.get id =
        if id = workshop.size then c else workshop.table.get id := by
  obtain ⟨c, hbody, hclasses⟩ : ∃ c : LiveClass, c.attributes = body.entries ∧
      (workshop.perform (.create t handle bases body)).table.classes =
        workshop.table.classes ++ [c] := ⟨_, rfl, rfl⟩
  refine ⟨c, hbody, fun id => ?_⟩
  rw [ClassTable.get, ClassTable.get, hclasses, size, List.getD_eq_getElem?_getD,
    List.getD_eq_getElem?_getD]
  rcases Nat.lt_trichotomy id workshop.table.classes.length with h | rfl | h
  · rw [List.getElem?_append_left h, if_neg (Nat.ne_of_lt h)]
  · rw [if_pos rfl, List.getElem?_concat_length, Option.getD_some]
  · have hbehind : (workshop.table.classes ++ [c]).length ≤ id := by
      rw [List.length_append]
      exact h
    rw [List.getElem?_eq_none hbehind, List.getElem?_eq_none (Nat.le_of_lt h),
      if_neg (Nat.ne_of_gt h)]

theorem markers_create (t : TypeName) (handle : String) (bases : List Base) (body : Body)
    (id : ClassId) :
    ((workshop.perform (.create t handle bases body)).table.get id).markers =
      (workshop.table.get id).markers := by
  obtain ⟨c, hbody, hget⟩ := workshop.exists_get_create t handle bases body
  rw [hget]
  split
  · next hid =>
      rw [hid, Body.markers_eq_empty hbody, size, ClassTable.get, List.getD_eq_getElem?_getD,
        List.getElem?_eq_none (Nat.le_refl _)]
      rfl
  · rfl

theorem reserves_perform {workshop : Workshop} (h : workshop.table.Reserves) (event : Event) :
    (workshop.perform event).table.Reserves := by
  cases event with
  | create t handle bases body =>
      obtain ⟨c, hbody, hget⟩ := workshop.exists_get_create t handle bases body
      intro id
      rw [hget]
      split
      · exact Body.reserves hbody
      · exact h id
  | apply kind id => exact h.mark id kind

theorem reserves_after {workshop : Workshop} (h : workshop.table.Reserves) (events : List Event) :
    (workshop.after events).table.Reserves := by
  induction events generalizing workshop with
  | nil => exact h
  | cons event rest ih => exact ih (reserves_perform h event)

theorem has_perform_apply_iff (kind more : OwnerKind) (id other : ClassId) :
    ((workshop.perform (.apply more other)).table.get id).markers.has kind = true ↔
      (id = other ∧ kind = more ∧ other < workshop.size) ∨
        (workshop.table.get id).markers.has kind = true := by
  by_cases h : other < workshop.size
  · have hmarkers := workshop.table.markers_mark other id more h
    rw [perform, mark, hmarkers]
    by_cases hid : id = other <;> simp [hid, h]
  · rw [perform, workshop.mark_of_le (Nat.le_of_not_lt h)]
    simp [h]

/-- The markers of a class are those that it had, and those that were applied to the class itself. -/
theorem has_after_iff (events : List Event) (id : ClassId) (kind : OwnerKind) :
    ((workshop.after events).table.get id).markers.has kind = true ↔
      (workshop.table.get id).markers.has kind = true ∨
        (id, kind) ∈ applications workshop.size events := by
  induction events generalizing workshop with
  | nil => simp [applications]
  | cons event rest ih =>
      rw [after_cons, ih]
      cases event with
      | create t handle bases body => rw [markers_create, size_create, applications]
      | apply more other =>
          rw [has_perform_apply_iff, perform, size_mark, applications]
          by_cases h : other < workshop.size
          · simp [h, or_assoc, or_left_comm]
          · simp [h]

end Workshop

/-! ## Owners -/

/-- A class is collected from roots, and its declaration is scanned as an owner of a kind. -/
def ClassTable.Scans (table : ClassTable) (roots : List ClassId) (kind : OwnerKind)
    (id : ClassId) : Prop :=
  id ∈ table.closure roots ∧
    ∃ owner ∈ scan (table.graph roots).declarations kind, owner.declaration = table.declaration id

theorem ClassTable.scans_iff {table : ClassTable} {roots : List ClassId} {kind : OwnerKind}
    {id : ClassId} : table.Scans roots kind id ↔
      id ∈ table.closure roots ∧ (table.get id).markers.has kind = true := by
  rw [Scans, and_congr_right_iff]
  intro hid
  constructor
  · rintro ⟨owner, howner, hdeclaration⟩
    obtain ⟨d, hd, rfl⟩ := List.mem_map.1 howner
    have hmarked : d.isMarked kind = true := (List.mem_filter.1 hd).2
    rwa [show d = table.declaration id from hdeclaration] at hmarked
  · intro hmarked
    refine ⟨_, List.mem_map_of_mem (List.mem_filter.2 ⟨List.mem_map_of_mem hid, hmarked⟩), rfl⟩

/-- Two tables say the same about a class, also where it is described and scanned. -/
structure ClassTable.SameAt (table other : ClassTable) (id : ClassId) : Prop where
  get_eq : table.get id = other.get id
  declaration_eq : table.declaration id = other.declaration id
  scans_iff : ∀ roots kind, table.Scans roots kind id ↔ other.Scans roots kind id

theorem ClassTable.SameAt.refl (table : ClassTable) (id : ClassId) : table.SameAt table id where
  get_eq := rfl
  declaration_eq := rfl
  scans_iff _ _ := Iff.rfl

theorem ClassTable.sameAt_mark (table : ClassTable) (kind : OwnerKind) {id other : ClassId}
    (h : other ≠ id) : (table.mark id kind).SameAt table other where
  get_eq := table.get_mark_of_ne id kind h
  declaration_eq := table.declaration_mark_of_ne id kind h
  scans_iff roots more := by
    rw [ClassTable.scans_iff, ClassTable.scans_iff, closure_mark, get_mark_of_ne table id kind h]

namespace Workshop

theorem closure_markAll (workshop : Workshop) (entries : List (ClassId × OwnerKind))
    (roots : List ClassId) :
    (workshop.markAll entries).table.closure roots = workshop.table.closure roots := by
  induction entries generalizing workshop with
  | nil => rfl
  | cons entry rest ih =>
      have hrest := ih (workshop.mark entry.1 entry.2)
      rwa [mark, ClassTable.closure_mark] at hrest

theorem closure_after (workshop : Workshop) (events : List Event) (roots : List ClassId) :
    (workshop.after events).table.closure roots =
      (workshop.after (creations events)).table.closure roots := by
  rw [after_eq_markAll, closure_markAll]

theorem definedIn_markAll {workshop : Workshop} (h : workshop.table.Reserves)
    (entries : List (ClassId × OwnerKind)) (module : String) (bound : Namespace) :
    (workshop.markAll entries).table.definedIn module bound =
      workshop.table.definedIn module bound := by
  induction entries generalizing workshop with
  | nil => rfl
  | cons entry rest ih =>
      have hmarked : (workshop.mark entry.1 entry.2).table.Reserves := h.mark entry.1 entry.2
      have hrest := ih hmarked
      rwa [mark, ClassTable.definedIn_mark h] at hrest

theorem definedIn_after {workshop : Workshop} (h : workshop.table.Reserves) (events : List Event)
    (module : String) (bound : Namespace) :
    (workshop.after events).table.definedIn module bound =
      (workshop.after (creations events)).table.definedIn module bound := by
  rw [after_eq_markAll, definedIn_markAll (reserves_after h _)]

/-- One more application leaves every other class as it is. -/
theorem sameAt_insert (workshop : Workshop) (before after : List Event) (kind : OwnerKind)
    {id other : ClassId} (h : other ≠ id) :
    (workshop.after (before ++ .apply kind id :: after)).table.SameAt
      (workshop.after (before ++ after)).table other := by
  rw [after_append, after_append, after_cons, perform]
  by_cases hid : id < (workshop.after before).size
  · rw [after_mark _ hid]
    exact ClassTable.sameAt_mark _ kind h
  · rw [mark_of_le _ (Nat.le_of_not_lt hid)]
    exact ClassTable.SameAt.refl _ other

end Workshop

/-! ## Programs -/

/-- The classes that a program starts with have nothing in their bodies. -/
theorem Program.attributes_initial (id : ClassId) : (initial.table.get id).attributes = [] := by
  have hall : ∀ c ∈ LiveClass.object :: initial.table.classes, c.attributes.isEmpty = true := by
    decide +kernel
  exact List.isEmpty_iff.1 (hall _ (initial.table.get_mem id))

theorem Program.markers_initial (id : ClassId) : (initial.table.get id).markers = .empty := by
  rw [LiveClass.markers, attributes_initial, List.lookup_nil]

theorem Program.reserves_initial : initial.table.Reserves := by
  intro id entry hentry
  rw [attributes_initial] at hentry
  cases hentry

/-- The classes of a program after some events. -/
def tableAfter (events : List Event) : ClassTable := (Program.initial.workshop.after events).table

/-- The pairs of a class and a kind that is applied to it in the course of events. -/
def applied (events : List Event) : List (ClassId × OwnerKind) :=
  applications Program.initial.workshop.size events

theorem has_tableAfter_iff (events : List Event) (id : ClassId) (kind : OwnerKind) :
    ((tableAfter events).get id).markers.has kind = true ↔ (id, kind) ∈ applied events := by
  have hinitial := Program.markers_initial id
  rw [Program.table] at hinitial
  rw [tableAfter, Workshop.has_after_iff, hinitial, applied]
  simp

end Live

end OwnerBinding
