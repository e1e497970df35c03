import OwnerBinding.Proofs.Live.Worklist

/-!
# What a description mentions and what is followed

The description of a class mentions types by their names: the superclass, and those of its arguments
that are declared. The collection follows classes. Both read the same base, and they part in two
places. The class that stands for any type is described as a wildcard where it is an argument, and is
followed because it is a class that the language does not provide (`ClassTable.followedName?`). A base
that is no class is described as declared, and there is nothing to follow (`LiveClass.standInName?`).
So the names of the classes that are followed are the names that are mentioned exactly where neither
occurs (`map_fullName_references_eq_mentions_iff`).

A collection is closed under mentions of classes: each name that one of its declarations mentions is
the full name of another one, or that of a base that is no class (`exists_mem_graph_of_mem_mentions`).
-/

namespace OwnerBinding

/-- The declared type that an argument mentions, by its name. -/
def TypeArgument.mention? (argument : TypeArgument) : Option String :=
  if argument.kind = .declared then argument.name else none

/-- The superclass itself, by its name, if it is declared. -/
def Superclass.ownMention (superclass : Superclass) : List String :=
  if superclass.kind = .declared then [superclass.name] else []

/-- The declared types that a declaration mentions, by their names: the superclass, and then its
arguments. -/
def Declaration.mentions (d : Declaration) : List String :=
  match d.superclass with
  | none => []
  | some superclass =>
      superclass.ownMention ++ superclass.arguments.filterMap TypeArgument.mention?

namespace Live

namespace LiveClass

/-- The arguments that the direct base is written with. -/
def baseArguments (c : LiveClass) : List Value :=
  match c.directBase? with
  | none => []
  | some base => base.arguments

/-- The name of the direct base, if it is no class. -/
def standInName? (c : LiveClass) : Option String :=
  match c.directBase? with
  | some (.standIn t _) => some (t.module ++ "." ++ t.name)
  | _ => none

theorem exists_directBase?_of_standInName? {c : LiveClass} {name : String}
    (h : c.standInName? = some name) : ∃ t classes,
      c.directBase? = some (.standIn t classes) ∧ t.module ++ "." ++ t.name = name := by
  rw [standInName?] at h
  split at h
  · next t classes hbase => exact ⟨t, classes, hbase, Option.some.inj h⟩
  · cases h

theorem directBase?_of_standInName? {c : LiveClass} (h : c.standInName? = none) :
    c.directBase? = none ∨ ∃ origin arguments, c.directBase? = some (.cls origin arguments) := by
  rw [standInName?] at h
  cases hbase : c.directBase? with
  | none => exact .inl rfl
  | some base =>
      cases base with
      | cls origin arguments => exact .inr ⟨origin, arguments, rfl⟩
      | standIn t classes =>
          rw [hbase] at h
          cases h

end LiveClass

namespace ClassTable

/-- Whether a value is the class that stands for any type, and is followed like other classes. -/
def followsAny (table : ClassTable) : Value → Bool
  | .cls origin arguments =>
      origin == anyId && arguments.isEmpty && !(table.get origin).isProvided
  | _ => false

/-- The class that is followed for an argument, by its name: the one that its description mentions, or
the class that stands for any type. -/
def followedName? (table : ClassTable) (value : Value) : Option String :=
  if table.followsAny value then some (table.fullName anyId)
  else (table.typeArgument value).mention?

/-- The classes that are followed from a class, by their names. -/
def followedNames (table : ClassTable) (id : ClassId) : List String :=
  match (table.get id).directBase? with
  | some (.cls origin arguments) =>
      (table.superclass (.cls origin arguments)).ownMention ++
        arguments.filterMap table.followedName?
  | _ => []

variable {table : ClassTable}

theorem mention?_of_followsAny {value : Value} (h : table.followsAny value = true) :
    (table.typeArgument value).mention? = none := by
  cases value with
  | cls origin arguments =>
      simp only [followsAny, Bool.and_eq_true, beq_iff_eq] at h
      rw [typeArgument, if_pos h.1]
      rfl
  | _ => cases h

theorem map_fullName_origin? (value : Value) :
    (value.origin?.filter fun id => !(table.get id).isProvided).map table.fullName =
      table.followedName? value := by
  cases value with
  | cls origin arguments =>
      by_cases hprovided : (table.get origin).isProvided = true
      · have hmention : (table.typeArgument (.cls origin arguments)).mention? = none := by
          rw [typeArgument]
          split_ifs <;> rfl
        simp [Value.origin?, Option.filter, hprovided, followedName?, followsAny, hmention]
      · rw [Bool.not_eq_true] at hprovided
        by_cases hwildcard : origin = anyId ∧ arguments.isEmpty = true
        · obtain ⟨rfl, hempty⟩ := hwildcard
          simp [Value.origin?, Option.filter, hprovided, followedName?, followsAny, hempty]
        · have hfollows : table.followsAny (.cls origin arguments) = false := by
            simpa [followsAny, hprovided] using hwildcard
          have hmention : (table.typeArgument (.cls origin arguments)).mention? =
              some (table.fullName origin) := by
            rw [typeArgument_of_notProvided hwildcard hprovided]
            rfl
          simp [Value.origin?, Option.filter, hprovided, followedName?, hfollows, hmention]
  | _ => rfl

theorem map_fullName_references (id : ClassId) :
    (table.references id).map table.fullName = table.followedNames id := by
  rw [references, followedNames]
  cases (table.get id).directBase? with
  | none => rfl
  | some base =>
      cases base with
      | standIn t classes => rfl
      | cls origin arguments =>
          have harguments : ((arguments.filterMap Value.origin?).filter fun reference =>
                !(table.get reference).isProvided).map table.fullName =
              arguments.filterMap table.followedName? := by
            rw [List.filter_filterMap, List.map_filterMap]
            simp only [map_fullName_origin?]
          dsimp only [Base.origin?, Base.arguments, Option.toList_some]
          rw [List.singleton_append]
          by_cases hprovided : (table.get origin).isProvided = true
          · rw [List.filter_cons_of_neg (by simp [hprovided]), harguments]
            simp [Superclass.ownMention, superclass, hprovided]
          · rw [List.filter_cons_of_pos (by simp [hprovided]), List.map_cons, harguments]
            simp [Superclass.ownMention, superclass, hprovided]

theorem mentions_declaration (id : ClassId) :
    (table.declaration id).mentions =
      match (table.get id).directBase? with
      | none => []
      | some base => (table.superclass base).ownMention ++
          base.arguments.filterMap fun value => (table.typeArgument value).mention? := by
  rw [Declaration.mentions, declaration]
  cases (table.get id).directBase? with
  | none => rfl
  | some base =>
      cases base with
      | standIn t classes => rfl
      | cls origin arguments => simp [superclass, Base.arguments, List.filterMap_map]

/-- A base that is no class is all that is mentioned, and nothing is followed for it. -/
theorem mentions_of_standInName? {id : ClassId} {name : String}
    (h : (table.get id).standInName? = some name) :
    (table.declaration id).mentions = [name] ∧ table.followedNames id = [] := by
  obtain ⟨t, classes, hbase, rfl⟩ := LiveClass.exists_directBase?_of_standInName? h
  rw [mentions_declaration, followedNames, hbase]
  exact ⟨rfl, rfl⟩

theorem filterMap_mention?_sublist (values : List Value) :
    (values.filterMap fun value => (table.typeArgument value).mention?).Sublist
      (values.filterMap table.followedName?) := by
  induction values with
  | nil => exact List.Sublist.refl []
  | cons value rest ih =>
      rw [List.filterMap_cons, List.filterMap_cons, followedName?]
      split_ifs with hfollows
      · rw [mention?_of_followsAny hfollows]
        exact ih.cons _
      · cases (table.typeArgument value).mention? with
        | none => exact ih
        | some name => exact ih.cons_cons name

/-- Everything that is mentioned is followed, in the same order, if the direct base is a class. -/
theorem mentions_sublist_followedNames {id : ClassId} (h : (table.get id).standInName? = none) :
    (table.declaration id).mentions.Sublist (table.followedNames id) := by
  rw [mentions_declaration, followedNames]
  rcases LiveClass.directBase?_of_standInName? h with hbase | ⟨origin, arguments, hbase⟩
  · rw [hbase]
  · rw [hbase]
    exact (filterMap_mention?_sublist arguments).append_left _

theorem length_filterMap_followedName? (values : List Value) :
    (values.filterMap table.followedName?).length =
      (values.filterMap fun value => (table.typeArgument value).mention?).length +
        values.countP table.followsAny := by
  induction values with
  | nil => rfl
  | cons value rest ih =>
      rw [List.filterMap_cons, List.filterMap_cons, followedName?]
      by_cases hfollows : table.followsAny value = true
      · rw [if_pos hfollows, mention?_of_followsAny hfollows, List.countP_cons_of_pos hfollows,
          List.length_cons, ih, Nat.add_assoc]
      · rw [if_neg hfollows, List.countP_cons_of_neg hfollows]
        cases (table.typeArgument value).mention? with
        | none => exact ih
        | some name => rw [List.length_cons, List.length_cons, ih, Nat.add_right_comm]

theorem map_fullName_references_eq_mentions_iff (id : ClassId) :
    (table.references id).map table.fullName = (table.declaration id).mentions ↔
      (table.get id).standInName? = none ∧
        ∀ value ∈ (table.get id).baseArguments, table.followsAny value = false := by
  rw [map_fullName_references]
  cases hstandIn : (table.get id).standInName? with
  | some name =>
      obtain ⟨hmentions, hfollowed⟩ := mentions_of_standInName? hstandIn
      simp [hmentions, hfollowed]
  | none =>
      rw [mentions_declaration, followedNames, LiveClass.baseArguments]
      rcases LiveClass.directBase?_of_standInName? hstandIn with hbase | ⟨origin, arguments, hbase⟩
      · simp [hbase]
      · rw [hbase]
        dsimp only [Base.arguments]
        rw [List.append_cancel_left_eq]
        constructor
        · intro heq
          -- Each argument that is followed without being mentioned makes the one list longer.
          have hlength := congrArg List.length heq
          rw [length_filterMap_followedName?, Nat.add_eq_left, List.countP_eq_zero] at hlength
          exact ⟨rfl, by simpa using hlength⟩
        · rintro ⟨_, hnone⟩
          apply List.filterMap_congr
          intro value hvalue
          rw [followedName?, hnone value hvalue, if_neg Bool.false_ne_true]

/-! ## Collections -/

/-- A collection is closed: what its declarations mention is declared in it, unless it is the base of
the declared class and no class. -/
theorem exists_mem_graph_of_mem_mentions {roots : List ClassId} {id : ClassId} {name : String}
    (hid : id ∈ table.closure roots) (hname : name ∈ (table.declaration id).mentions) :
    (∃ e ∈ (table.graph roots).declarations, e.module ++ "." ++ e.name = name) ∨
      (table.get id).standInName? = some name := by
  cases hstandIn : (table.get id).standInName? with
  | some other =>
      rw [(mentions_of_standInName? hstandIn).1, List.mem_singleton] at hname
      exact .inr (congrArg some hname.symm)
  | none =>
      have hfollowed := (mentions_sublist_followedNames hstandIn).subset hname
      rw [← map_fullName_references] at hfollowed
      obtain ⟨reference, hreference, rfl⟩ := List.mem_map.1 hfollowed
      obtain ⟨met, hmet, hfullName⟩ := meets_closure_of_mem_references hid hreference
      exact .inl ⟨table.declaration met, List.mem_map_of_mem hmet, hfullName⟩

theorem mem_of_mem_distinctByName {ids : List ClassId} {id : ClassId}
    (h : id ∈ table.distinctByName ids) : id ∈ ids := by
  match ids with
  | [] => exact h
  | first :: rest =>
      rw [distinctByName_cons, List.mem_cons] at h
      rcases h with rfl | h
      · exact List.mem_cons_self
      · exact List.mem_cons_of_mem first (List.mem_of_mem_filter (mem_of_mem_distinctByName h))
termination_by ids.length
decreasing_by
  exact Nat.lt_succ_of_le (List.length_filter_le _ _)

/-- A collected class is a root or a reference of a collected class. -/
theorem mem_roots_or_references {roots : List ClassId} {id : ClassId}
    (h : id ∈ table.closure roots) :
    id ∈ roots ∨ ∃ other ∈ table.closure roots, id ∈ table.references other := by
  rw [closure_eq_distinctByName] at h
  rcases List.mem_append.1 (mem_of_mem_distinctByName h) with hroot | hreference
  · exact .inl hroot
  · exact .inr (List.mem_flatMap.1 hreference)

theorem mem_mentions_or_followsAny {id reference : ClassId} (h : reference ∈ table.references id) :
    table.fullName reference ∈ (table.declaration id).mentions ∨
      table.fullName reference = table.fullName anyId ∧
        ∃ value ∈ (table.get id).baseArguments, table.followsAny value = true := by
  have hfollowed : table.fullName reference ∈ table.followedNames id := by
    rw [← map_fullName_references]
    exact List.mem_map_of_mem h
  rw [followedNames] at hfollowed
  rw [mentions_declaration, LiveClass.baseArguments]
  cases hbase : (table.get id).directBase? with
  | none => simp [hbase] at hfollowed
  | some base =>
      cases base with
      | standIn t classes => simp [hbase] at hfollowed
      | cls origin arguments =>
          simp only [hbase, Base.arguments, List.mem_append, List.mem_filterMap] at hfollowed ⊢
          rcases hfollowed with hown | ⟨value, hvalue, hname⟩
          · exact .inl (.inl hown)
          · rw [followedName?] at hname
            split_ifs at hname with hfollows
            · exact .inr ⟨(Option.some.inj hname).symm, value, hvalue, hfollows⟩
            · exact .inl (.inr ⟨value, hvalue, hname⟩)

/-- What is followed from classes, compared with what their descriptions mention. -/
structure FollowsMentions (table : ClassTable) : Prop where
  /-- The superclass is followed first, if it is a class, and then its arguments, each if it is
  mentioned, and besides them the class that stands for any type. -/
  names_eq : ∀ id, (table.references id).map table.fullName = table.followedNames id
  eq_mentions_iff : ∀ id,
    (table.references id).map table.fullName = (table.declaration id).mentions ↔
      (table.get id).standInName? = none ∧
        ∀ value ∈ (table.get id).baseArguments, table.followsAny value = false
  /-- Nothing that is mentioned is left out of a graph but a base that is no class. -/
  mentioned_mem : ∀ roots, ∀ id ∈ table.closure roots, ∀ name ∈ (table.declaration id).mentions,
    (∃ e ∈ (table.graph roots).declarations, e.module ++ "." ++ e.name = name) ∨
      (table.get id).standInName? = some name
  /-- Nothing is added to a graph but what is mentioned, and the class that stands for any type. -/
  mem_mentioned : ∀ roots, ∀ id ∈ table.closure roots, id ∈ roots ∨
    ∃ other ∈ table.closure roots, table.fullName id ∈ (table.declaration other).mentions ∨
      table.fullName id = table.fullName anyId ∧
        ∃ value ∈ (table.get other).baseArguments, table.followsAny value = true

/-- The classes that are followed are the ones that are mentioned, and the class that stands for any
type wherever it is an argument. -/
theorem followsMentions (table : ClassTable) : table.FollowsMentions where
  names_eq := map_fullName_references
  eq_mentions_iff := map_fullName_references_eq_mentions_iff
  mentioned_mem _ _ hid _ hname := exists_mem_graph_of_mem_mentions hid hname
  mem_mentioned roots id hid := by
    rcases mem_roots_or_references hid with hroot | ⟨other, hother, hreference⟩
    · exact .inl hroot
    · exact .inr ⟨other, hother, mem_mentions_or_followsAny hreference⟩

end ClassTable

/-! ## A screen for any binding -/

namespace OpenScreens

open LoginScreens (plain)

/-- A screen below a generic base that is written with the class that stands for any type, and a class
below something that is no class and stands for the root. -/
def table : ClassTable where
  classes := specialClasses ++
    [plain "app" "Screen" [.cls genericId [.parameter "T"]],
      plain "app" "OpenScreen" [.cls 5 [.cls anyId []]],
      plain "app" "Point" [.standIn { module := "typing", name := "NamedTuple" } [objectId]]]

def screen : ClassId := 5

def openScreen : ClassId := 6

def point : ClassId := 7

theorem closure_openScreen : table.closure [openScreen] = [openScreen, screen, anyId] :=
  ClassTable.closure_eq_of_rounds? 3 rfl

/-- The open screen has a wildcard for its argument, and a class is followed for it. -/
theorem openScreen_follows_any :
    (table.declaration openScreen).superclass.map Superclass.arguments =
        some [{ kind := .wildcard, name := none }] ∧
      (table.declaration openScreen).mentions = ["app.Screen"] ∧
      (table.references openScreen).map table.fullName = ["app.Screen", "typing.Any"] ∧
      (table.graph [openScreen]).contains "typing.Any" = true := by
  refine ⟨by decide, by decide, by decide, ?_⟩
  rw [ClassTable.graph, closure_openScreen]
  decide

/-- What is no class is mentioned and not followed. -/
example : (table.declaration point).mentions = ["typing.NamedTuple"] ∧
    table.references point = [] := by
  decide

end OpenScreens

end Live

end OwnerBinding
