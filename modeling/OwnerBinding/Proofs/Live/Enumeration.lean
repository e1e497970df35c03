import Mathlib.Logic.Function.Iterate
import OwnerBinding.Proofs.Live.Worklist
import OwnerBinding.Proofs.Text.Package

/-!
# The classes of a module in their order

The classes of a module are enumerated scope by scope: the namespace of the module first, and the body
of each class right after the class itself (`Walk.round?`). What a scope gives is decided by its kind.
A module gives the classes that were made in it, and a body gives the classes that were made there
under the names that they are bound to (`Scope.given?`). Names grow on the way inwards, so there is an
induction on the classes in a body (`inward_induction`), and the enumeration ends after one round for
each entry and one for each scope (`rounds?_module`).

Only the namespace of the module asks where a class was made. A body can bind a class of another
module that is called like one made there, and such a class is enumerated too. So all classes that are
enumerated belong to the module exactly if those in the bodies do (`forall_mem_definedIn_iff`).
-/

namespace OwnerBinding

namespace Live

/-- Where names are bound. -/
inductive Scope where
  | module (name : String)
  | body (id : ClassId)

/-- Whether a scope gives a class that is bound to a name in it: a module gives those that were made in
it, and the body of a class those that were made there under this name. -/
def Scope.admits (table : ClassTable) : Scope → String → ClassId → Bool
  | .module name, _, id => (table.get id).module == name
  | .body outer, name, id => table.isNestedAs outer name id

/-- The class that an entry of a scope gives. -/
def Scope.given? (table : ClassTable) (scope : Scope) (entry : String × Value) : Option ClassId :=
  match entry.2 with
  | .cls id [] => if scope.admits table entry.1 id = true then some id else none
  | _ => none

theorem Scope.given?_eq_some_iff {table : ClassTable} {scope : Scope} {entry : String × Value}
    {id : ClassId} : scope.given? table entry = some id ↔
      entry.2 = .cls id [] ∧ scope.admits table entry.1 id = true := by
  rw [given?]
  split
  · next other hvalue =>
      rw [hvalue, Option.ite_none_right_eq_some, Option.some.injEq, Value.cls.injEq]
      constructor
      · rintro ⟨hadmits, rfl⟩
        exact ⟨⟨rfl, rfl⟩, hadmits⟩
      · rintro ⟨⟨rfl, _⟩, hadmits⟩
        exact ⟨hadmits, rfl⟩
  · next hvalue =>
      constructor
      · intro h
        cases h
      · rintro ⟨hclass, _⟩
        exact absurd hclass (hvalue id)

/-- A namespace as it is kept for a class or a module: each name once, and no name with a dot. -/
structure Namespace.IsSimple (entries : Namespace) : Prop where
  nodup : (entries.map Prod.fst).Nodup
  dot_notMem : ∀ entry ∈ entries, '.' ∉ entry.1.toList

namespace ClassTable

/-- The classes that the entries of a scope give, in their order. -/
def classesIn (table : ClassTable) (scope : Scope) (entries : Namespace) : List ClassId :=
  entries.filterMap (scope.given? table)

/-- The classes that are bound in a module where they were made, in the order of its namespace. -/
def moduleClasses (table : ClassTable) (module : String) (entries : Namespace) : List ClassId :=
  table.classesIn (.module module) entries

/-- The classes that were made in the body of a class, under the names that they are bound to there. -/
def bodyClasses (table : ClassTable) (id : ClassId) : List ClassId :=
  table.classesIn (.body id) (table.get id).attributes

/-- Each class with the classes that are nested in it behind it. -/
def withNested (table : ClassTable) (ids : List ClassId) : List ClassId :=
  ids.flatMap fun id => id :: table.nested id

variable {table : ClassTable}

@[simp] theorem withNested_nil : table.withNested [] = [] := rfl

theorem withNested_cons (id : ClassId) (rest : List ClassId) :
    table.withNested (id :: rest) = id :: table.nested id ++ table.withNested rest := by
  rw [withNested, List.flatMap_cons, withNested]

theorem classesIn_cons_of_none {scope : Scope} {entry : String × Value} {rest : Namespace}
    (h : scope.given? table entry = none) :
    table.classesIn scope (entry :: rest) = table.classesIn scope rest :=
  List.filterMap_cons_none h

theorem classesIn_cons_of_some {scope : Scope} {entry : String × Value} {rest : Namespace}
    {id : ClassId} (h : scope.given? table entry = some id) :
    table.classesIn scope (entry :: rest) = id :: table.classesIn scope rest :=
  List.filterMap_cons_some h

/-- The classes that a scope gives, with those nested in them, are told entry by entry. -/
theorem withNested_classesIn (scope : Scope) (entries : Namespace) :
    table.withNested (table.classesIn scope entries) = entries.flatMap fun entry =>
      (scope.given? table entry).elim [] fun id => id :: table.nested id := by
  induction entries with
  | nil => rfl
  | cons entry rest ih =>
      rw [List.flatMap_cons, ← ih]
      cases hgiven : scope.given? table entry with
      | none => rw [classesIn_cons_of_none hgiven, Option.elim_none, List.nil_append]
      | some id => rw [classesIn_cons_of_some hgiven, withNested_cons, Option.elim_some]

theorem definedIn_eq (module : String) (entries : Namespace) :
    table.definedIn module entries = table.withNested (table.moduleClasses module entries) := by
  rw [definedIn, moduleClasses, withNested_classesIn]
  refine List.flatMap_congr fun ⟨name, value⟩ _ => ?_
  rcases value with ⟨id, _ | _⟩ | _
  · by_cases hmodule : (table.get id).module = module <;>
      simp [Scope.given?, Scope.admits, hmodule]
  all_goals rfl

theorem nested_eq (id : ClassId) : table.nested id = table.withNested (table.bodyClasses id) := by
  rw [nested, bodyClasses, withNested_classesIn]
  refine List.flatMap_congr fun ⟨name, value⟩ _ => ?_
  rcases value with ⟨inner, _ | _⟩ | _
  · by_cases hnested : table.isNestedAs id name inner = true <;>
      simp [Scope.given?, Scope.admits, hnested]
  all_goals rfl

theorem nested_of_attributes_eq_nil {id : ClassId} (h : (table.get id).attributes = []) :
    table.nested id = [] := by
  rw [nested_eq, bodyClasses, h]
  rfl

theorem mem_classesIn_iff {scope : Scope} {entries : Namespace} {id : ClassId} :
    id ∈ table.classesIn scope entries ↔
      ∃ name, (name, .cls id []) ∈ entries ∧ scope.admits table name id = true := by
  rw [classesIn, List.mem_filterMap]
  constructor
  · rintro ⟨⟨name, value⟩, hentry, hgiven⟩
    obtain ⟨rfl, hadmits⟩ := Scope.given?_eq_some_iff.1 hgiven
    exact ⟨name, hentry, hadmits⟩
  · rintro ⟨name, hentry, hadmits⟩
    exact ⟨(name, .cls id []), hentry, Scope.given?_eq_some_iff.2 ⟨rfl, hadmits⟩⟩

theorem mem_withNested_iff {ids : List ClassId} {id : ClassId} :
    id ∈ table.withNested ids ↔ id ∈ ids ∨ ∃ outer ∈ ids, id ∈ table.nested outer := by
  simp only [withNested, List.mem_flatMap, List.mem_cons]
  constructor
  · rintro ⟨outer, houter, rfl | hnested⟩
    · exact .inl houter
    · exact .inr ⟨outer, houter, hnested⟩
  · rintro (hid | ⟨outer, houter, hnested⟩)
    · exact ⟨id, hid, .inl rfl⟩
    · exact ⟨outer, houter, .inr hnested⟩

/-! ## Inwards -/

/-- What goes from the classes in a body to the class itself holds of every class. -/
theorem inward_induction (table : ClassTable) {motive : ClassId → Prop}
    (step : ∀ id, (∀ inner ∈ table.bodyClasses id, motive inner) → motive id) (id : ClassId) :
    motive id :=
  step id fun inner _ => inward_induction table step inner
termination_by table.longestName - (table.get id).name.length
decreasing_by
  next hinner =>
    obtain ⟨_, _, hadmits⟩ := mem_classesIn_iff.1 hinner
    exact longestName_sub_lt_of_isNestedAs hadmits

theorem mem_nested_of_mem_bodyClasses {outer id inner : ClassId}
    (hid : id ∈ outer :: table.nested outer) (hinner : inner ∈ table.bodyClasses id) :
    inner ∈ table.nested outer := by
  induction outer using inward_induction table with
  | step outer ih =>
      rcases List.mem_cons.1 hid with rfl | hid
      · rw [nested_eq, mem_withNested_iff]
        exact .inl hinner
      · rw [nested_eq, mem_withNested_iff] at hid ⊢
        rcases hid with hbody | ⟨next, hnext, hid⟩
        · exact .inr ⟨id, hbody, ih id hbody List.mem_cons_self⟩
        · exact .inr ⟨next, hnext, ih next hnext (List.mem_cons_of_mem next hid)⟩

theorem exists_mem_bodyClasses {outer id : ClassId} (h : id ∈ table.nested outer) :
    ∃ next ∈ outer :: table.nested outer, id ∈ table.bodyClasses next := by
  induction outer using inward_induction table with
  | step outer ih =>
      rw [nested_eq, mem_withNested_iff] at h
      rcases h with hbody | ⟨inner, hinner, hid⟩
      · exact ⟨outer, List.mem_cons_self, hbody⟩
      · obtain ⟨next, hnext, hbody⟩ := ih inner hinner hid
        have hmem : next ∈ table.nested outer := by
          rw [nested_eq, withNested, List.mem_flatMap]
          exact ⟨inner, hinner, hnext⟩
        exact ⟨next, List.mem_cons_of_mem outer hmem, hbody⟩

/-! ## The modules of the classes -/

/-- All enumerated classes belong to the module if and only if those in the bodies of the enumerated
classes do. -/
theorem forall_mem_definedIn_iff (module : String) (entries : Namespace) :
    (∀ id ∈ table.definedIn module entries, (table.get id).module = module) ↔
      ∀ outer ∈ table.definedIn module entries, ∀ inner ∈ table.bodyClasses outer,
        (table.get inner).module = module := by
  rw [definedIn_eq]
  constructor
  · intro h outer houter inner hinner
    apply h inner
    rw [withNested, List.mem_flatMap] at houter ⊢
    obtain ⟨top, htop, houter⟩ := houter
    exact ⟨top, htop, List.mem_cons_of_mem top (mem_nested_of_mem_bodyClasses houter hinner)⟩
  · intro h id hid
    rcases mem_withNested_iff.1 hid with htop | ⟨top, htop, hnested⟩
    · obtain ⟨_, _, hadmits⟩ := mem_classesIn_iff.1 htop
      exact beq_iff_eq.1 hadmits
    · obtain ⟨next, hnext, hbody⟩ := exists_mem_bodyClasses hnested
      exact h next (List.mem_flatMap.2 ⟨top, htop, hnext⟩) id hbody

/-! ## The names of the classes -/

/-- The names in the body of a class and of the classes nested in it are simple. -/
def HasSimpleBodies (table : ClassTable) (outer : ClassId) : Prop :=
  ∀ id ∈ outer :: table.nested outer, (table.get id).attributes.IsSimple

theorem HasSimpleBodies.of_mem {outer inner : ClassId} (h : table.HasSimpleBodies outer)
    (hinner : inner ∈ table.bodyClasses outer) : table.HasSimpleBodies inner := by
  intro id hid
  refine h id (List.mem_cons_of_mem outer ?_)
  rw [nested_eq, withNested, List.mem_flatMap]
  exact ⟨inner, hinner, hid⟩

theorem components_name_of_admits {outer inner : ClassId} {name : String}
    (h : (Scope.body outer).admits table name inner = true) (hdot : '.' ∉ name.toList) :
    Text.components (table.get inner).name = Text.components (table.get outer).name ++ [name] := by
  rw [beq_iff_eq.1 h, Text.components_append _ hdot]

/-- The names of nested classes go on from the name of the class. -/
theorem isPrefix_components {outer id : ClassId} (hsimple : table.HasSimpleBodies outer)
    (hid : id ∈ outer :: table.nested outer) :
    Text.components (table.get outer).name <+: Text.components (table.get id).name := by
  induction outer using inward_induction table with
  | step outer ih =>
      rcases List.mem_cons.1 hid with rfl | hid
      · exact List.prefix_rfl
      · rw [nested_eq, withNested, List.mem_flatMap] at hid
        obtain ⟨inner, hinner, hid⟩ := hid
        obtain ⟨name, hentry, hadmits⟩ := mem_classesIn_iff.1 hinner
        have hname := components_name_of_admits hadmits
          ((hsimple outer List.mem_cons_self).dot_notMem _ hentry)
        have hrest := ih inner hinner (hsimple.of_mem hinner) hid
        rw [hname] at hrest
        exact (List.prefix_append _ _).trans hrest

theorem nodup_names {outer : ClassId} (hsimple : table.HasSimpleBodies outer) :
    ((outer :: table.nested outer).map fun id => (table.get id).name).Nodup := by
  induction outer using inward_induction table with
  | step outer ih =>
      have hbody := hsimple outer List.mem_cons_self
      -- Below an entry of the body all names go on from the name of the class and that of the entry.
      have hbelow : ∀ entry ∈ (table.get outer).attributes, ∀ inner,
          (Scope.body outer).given? table entry = some inner →
          ∀ id ∈ inner :: table.nested inner,
            Text.components (table.get outer).name ++ [entry.1] <+:
              Text.components (table.get id).name := by
        intro entry hentry inner hgiven id hid
        have hinner : inner ∈ table.bodyClasses outer := List.mem_filterMap.2 ⟨entry, hentry, hgiven⟩
        rw [← components_name_of_admits (Scope.given?_eq_some_iff.1 hgiven).2
          (hbody.dot_notMem entry hentry)]
        exact isPrefix_components (hsimple.of_mem hinner) hid
      rw [List.map_cons, List.nodup_cons]
      constructor
      · intro hmem
        obtain ⟨id, hid, hname⟩ := List.mem_map.1 hmem
        rw [nested_eq, withNested, List.mem_flatMap] at hid
        obtain ⟨inner, hinner, hid⟩ := hid
        obtain ⟨entry, hentry, hgiven⟩ := List.mem_filterMap.1 hinner
        have hlength := (hbelow entry hentry inner hgiven id hid).length_le
        rw [hname, List.length_append, List.length_singleton] at hlength
        omega
      · rw [nested_eq, withNested, List.map_flatMap, List.nodup_flatMap]
        refine ⟨fun inner hinner => ih inner hinner (hsimple.of_mem hinner), ?_⟩
        rw [bodyClasses, classesIn, List.pairwise_filterMap]
        have hentries := List.pairwise_map.1 hbody.nodup
        refine hentries.imp_of_mem ?_
        intro entry entry' hentry hentry' hne inner hgiven inner' hgiven' name hmem hmem'
        obtain ⟨id, hid, rfl⟩ := List.mem_map.1 hmem
        obtain ⟨id', hid', hname⟩ := List.mem_map.1 hmem'
        have hprefix := hbelow entry hentry inner hgiven id hid
        have hprefix' := hbelow entry' hentry' inner' hgiven' id' hid'
        rw [hname] at hprefix'
        have heq := (List.prefix_of_prefix_length_le hprefix hprefix' (by simp)).eq_of_length
          (by simp)
        exact hne (List.append_cancel_left heq |> List.cons.inj |>.1)

end ClassTable

/-! ## The enumeration as a loop -/

/-- A state of the loop that enumerates classes: those that were given so far, and the scopes that are
looked through with the entries that are left there, the innermost first. -/
structure Walk where
  given : List ClassId
  scopes : List (Scope × Namespace)

namespace Walk

/-- One round of the loop, unless no scope is left. A class that is given is followed by its body. -/
def round? (table : ClassTable) : Walk → Option Walk
  | ⟨_, []⟩ => none
  | ⟨given, (_, []) :: outside⟩ => some ⟨given, outside⟩
  | ⟨given, (scope, entry :: rest) :: outside⟩ =>
      match scope.given? table entry with
      | none => some ⟨given, (scope, rest) :: outside⟩
      | some id =>
          some ⟨given ++ [id],
            (.body id, (table.get id).attributes) :: (scope, rest) :: outside⟩

/-- The state after a number of rounds, if the loop goes on for so long. -/
def rounds? (table : ClassTable) (n : Nat) (state : Walk) : Option Walk :=
  (fun reached => reached.bind (round? table))^[n] (some state)

variable {table : ClassTable}

theorem rounds?_succ {state next : Walk} (h : round? table state = some next) (n : Nat) :
    rounds? table (n + 1) state = rounds? table n next := by
  rw [rounds?, Function.iterate_succ_apply, Option.bind_some, h, rounds?]

theorem rounds?_add {state next : Walk} {n : Nat} (h : rounds? table n state = some next) (m : Nat) :
    rounds? table (n + m) state = rounds? table m next := by
  rw [rounds?, Nat.add_comm, Function.iterate_add_apply]
  rw [rounds?] at h
  rw [h, rounds?]

end Walk

namespace ClassTable

/-- The rounds that are spent in the bodies of classes: one for each entry, and one to leave the
body. -/
def bodyRounds (table : ClassTable) : List ClassId → Nat
  | [] => 0
  | id :: rest => (table.get id).attributes.length + 1 + table.bodyRounds rest

variable {table : ClassTable}

theorem bodyRounds_append (ids others : List ClassId) :
    table.bodyRounds (ids ++ others) = table.bodyRounds ids + table.bodyRounds others := by
  induction ids with
  | nil => simp [bodyRounds]
  | cons id rest ih =>
      rw [List.cons_append, bodyRounds, bodyRounds, ih]
      omega

/-- The body of a class is left after a round for each entry and each body in it, and has given the
classes nested in the class. -/
def LeavesBody (table : ClassTable) (id : ClassId) : Prop :=
  ∀ given outside,
    Walk.rounds? table ((table.get id).attributes.length + 1 + table.bodyRounds (table.nested id))
        ⟨given, (.body id, (table.get id).attributes) :: outside⟩ =
      some ⟨given ++ table.nested id, outside⟩

/-- A scope is left if the bodies of the classes are left that it gives. -/
theorem rounds?_scope {scope : Scope} {entries : Namespace}
    (hbodies : ∀ id ∈ table.classesIn scope entries, table.LeavesBody id) (given : List ClassId)
    (outside : List (Scope × Namespace)) :
    Walk.rounds? table
        (entries.length + 1 + table.bodyRounds (table.withNested (table.classesIn scope entries)))
        ⟨given, (scope, entries) :: outside⟩ =
      some ⟨given ++ table.withNested (table.classesIn scope entries), outside⟩ := by
  induction entries generalizing given with
  | nil =>
      simp [classesIn, bodyRounds, Walk.rounds?, Walk.round?]
  | cons entry rest ih =>
      cases hgiven : scope.given? table entry with
      | none =>
          have hround : Walk.round? table ⟨given, (scope, entry :: rest) :: outside⟩ =
              some ⟨given, (scope, rest) :: outside⟩ := by
            simp only [Walk.round?, hgiven]
          rw [classesIn_cons_of_none hgiven] at hbodies ⊢
          have hcount : (entry :: rest).length + 1 +
                table.bodyRounds (table.withNested (table.classesIn scope rest)) =
              rest.length + 1 +
                table.bodyRounds (table.withNested (table.classesIn scope rest)) + 1 := by
            rw [List.length_cons]
            omega
          rw [hcount, Walk.rounds?_succ hround]
          exact ih hbodies given
      | some id =>
          have hround : Walk.round? table ⟨given, (scope, entry :: rest) :: outside⟩ =
              some ⟨given ++ [id],
                (.body id, (table.get id).attributes) :: (scope, rest) :: outside⟩ := by
            simp only [Walk.round?, hgiven]
          rw [classesIn_cons_of_some hgiven, List.forall_mem_cons] at hbodies
          have hbody := hbodies.1 (given ++ [id]) ((scope, rest) :: outside)
          have hrest := ih hbodies.2 (given ++ [id] ++ table.nested id)
          rw [classesIn_cons_of_some hgiven, withNested_cons, List.cons_append, bodyRounds,
            bodyRounds_append]
          have hcount : (entry :: rest).length + 1 + ((table.get id).attributes.length + 1 +
                (table.bodyRounds (table.nested id) +
                  table.bodyRounds (table.withNested (table.classesIn scope rest)))) =
              (table.get id).attributes.length + 1 + table.bodyRounds (table.nested id) +
                (rest.length + 1 +
                  table.bodyRounds (table.withNested (table.classesIn scope rest))) + 1 := by
            rw [List.length_cons]
            omega
          rw [hcount, Walk.rounds?_succ hround, Walk.rounds?_add hbody, hrest]
          simp [List.append_assoc]

theorem leavesBody (id : ClassId) : table.LeavesBody id := by
  induction id using inward_induction table with
  | step id ih =>
      intro given outside
      rw [nested_eq]
      exact rounds?_scope ih given outside

/-- The enumeration of a module ends after a round for each entry of its namespace and of the bodies of
the classes that it gives, and one for each of these scopes. -/
theorem rounds?_module (module : String) (entries : Namespace) :
    Walk.rounds? table (entries.length + 1 + table.bodyRounds (table.definedIn module entries))
        ⟨[], [(.module module, entries)]⟩ =
      some ⟨table.definedIn module entries, []⟩ := by
  rw [definedIn_eq]
  exact rounds?_scope (fun id _ => leavesBody id) [] []

/-- The classes that are enumerated for a module. -/
structure IsEnumeration (table : ClassTable) (module : String) (entries : Namespace)
    (ids : List ClassId) : Prop where
  /-- The loop goes on for one round for each entry and each scope, and then no scope is left. -/
  ends : Walk.rounds? table (entries.length + 1 + table.bodyRounds ids)
    ⟨[], [(.module module, entries)]⟩ = some ⟨ids, []⟩
  /-- The classes of the namespace stand in its order, each with those nested in it behind it. -/
  eq_withNested : ids = table.withNested (table.moduleClasses module entries)
  mem_moduleClasses_iff : ∀ id, id ∈ table.moduleClasses module entries ↔
    ∃ name, (name, .cls id []) ∈ entries ∧ (table.get id).module = module
  /-- Behind a class stand those in its body in their order, again each with those nested in it. -/
  nested_eq : ∀ id, table.nested id = table.withNested (table.bodyClasses id)
  mem_bodyClasses_iff : ∀ outer inner, inner ∈ table.bodyClasses outer ↔
    ∃ name, (name, .cls inner []) ∈ (table.get outer).attributes ∧
      (table.get inner).name = (table.get outer).name ++ "." ++ name
  /-- A body does not ask where a class was made. -/
  forall_module_iff : (∀ id ∈ ids, (table.get id).module = module) ↔
    ∀ outer ∈ ids, ∀ inner ∈ table.bodyClasses outer, (table.get inner).module = module
  nodup : ∀ top ∈ table.moduleClasses module entries, table.HasSimpleBodies top →
    (top :: table.nested top).Nodup ∧
      ((top :: table.nested top).map fun id => (table.get id).name).Nodup

/-- Whatever names are bound to, the classes of a module are enumerated scope by scope, and all belong
to the module if those in the bodies do. -/
theorem isEnumeration_definedIn (table : ClassTable) (module : String) (entries : Namespace) :
    table.IsEnumeration module entries (table.definedIn module entries) where
  ends := rounds?_module module entries
  eq_withNested := definedIn_eq module entries
  mem_moduleClasses_iff id := by
    simp only [moduleClasses, mem_classesIn_iff, Scope.admits, beq_iff_eq]
  nested_eq := nested_eq
  mem_bodyClasses_iff outer inner := by
    simp only [bodyClasses, mem_classesIn_iff, Scope.admits, isNestedAs, beq_iff_eq]
  forall_module_iff := forall_mem_definedIn_iff module entries
  nodup top _ hsimple := ⟨(nodup_names hsimple).of_map _, nodup_names hsimple⟩

end ClassTable

/-! ## A body with a class of another module -/

namespace SharedBinding

open LoginScreens (plain)

/-- Two screens of one name. The second was made in another module and takes the binding over from the
first. -/
def table : ClassTable where
  classes := specialClasses ++
    [plain "kit" "Screen.Binding" [],
      { plain "kit" "Screen" [] with attributes := [("Binding", .cls 5 [])] },
      { plain "app" "Screen" [] with attributes := [("Binding", .cls 5 [])] }]

def kitBinding : ClassId := 5

def appScreen : ClassId := 7

def appNamespace : Namespace := [("Screen", .cls appScreen [])]

/-- The binding is enumerated for the second module, where it was not made. -/
theorem kitBinding_mem_definedIn :
    table.definedIn "app" appNamespace = [appScreen, kitBinding] ∧
      (table.get kitBinding).module = "kit" ∧
      ¬ ∀ id ∈ table.definedIn "app" appNamespace, (table.get id).module = "app" := by
  have htop : table.moduleClasses "app" appNamespace = [appScreen] := rfl
  have hbody : table.bodyClasses appScreen = [kitBinding] := rfl
  have hclasses : table.definedIn "app" appNamespace = [appScreen, kitBinding] := by
    rw [ClassTable.definedIn_eq, htop, ClassTable.withNested_cons, ClassTable.nested_eq, hbody,
      ClassTable.withNested_cons, ClassTable.nested_of_attributes_eq_nil rfl]
    rfl
  refine ⟨hclasses, rfl, ?_⟩
  rw [hclasses]
  decide

end SharedBinding

end Live

end OwnerBinding
