import OwnerBinding.Proofs.Association.Fold

/-!
# Owners in another order

Without overrides, owners are associated exactly if all of them have bindings and those of one type
agree. This says nothing about an order, and it is the same for all forms of an owner: the raw and
the generic form of a type with one superclass resolve alike. So two sequences of owners in which the
same owners stand, in whatever order, form and number, are associated with the same bindings
(`succeedAlike_of_covers`).

Behind an owner of its type another form is not even seen: it changes nothing in the result, neither
the form that the type is recorded in nor a failure that comes later (`result_associate_insert`).
-/

namespace OwnerBinding

/-- The owner has the type and the superclass of the other one. Their type parameters may differ, so
one of them may be raw and the other generic. -/
structure ScannedOwner.IsFormOf (owner other : ScannedOwner) : Prop where
  type_eq : owner.ownerType.toTypeName = other.ownerType.toTypeName
  superclass_eq : owner.declaration.superclass = other.declaration.superclass

namespace ScannedOwner.IsFormOf

variable {owner other : ScannedOwner}

theorem refl (owner : ScannedOwner) : owner.IsFormOf owner := ⟨rfl, rfl⟩

end ScannedOwner.IsFormOf

namespace Resolver

variable {resolver : Resolver} {owners others : List ScannedOwner} {owner other : ScannedOwner}

theorem binding?_eq_of_superclass_eq {d e : Declaration} (h : d.superclass = e.superclass) :
    resolver.binding? d = resolver.binding? e := by
  rw [binding?, binding?, candidates, candidates, h]

theorem binding?_eq_of_isFormOf (h : owner.IsFormOf other) :
    resolver.binding? owner.declaration = resolver.binding? other.declaration :=
  binding?_eq_of_superclass_eq h.superclass_eq

/-- Each of the owners stands among the others in some form. -/
def Covers (others owners : List ScannedOwner) : Prop :=
  ∀ owner ∈ owners, ∃ other ∈ others, owner.IsFormOf other

theorem covers_of_subset (h : owners ⊆ others) : Covers others owners :=
  fun owner howner => ⟨owner, h howner, .refl owner⟩

theorem Unobstructed.of_covers (h : resolver.Unobstructed false others)
    (hcovers : Covers others owners) : resolver.Unobstructed false owners := by
  rw [unobstructed_iff] at h ⊢
  obtain ⟨hresolves, hagree⟩ := h
  constructor
  · intro owner howner
    obtain ⟨other, hother, hform⟩ := hcovers owner howner
    rw [binding?_eq_of_isFormOf hform]
    exact hresolves other hother
  · intro _ first hfirst second hsecond htype binding binding' hbinding hbinding'
    obtain ⟨other, hother, hform⟩ := hcovers first hfirst
    obtain ⟨other', hother', hform'⟩ := hcovers second hsecond
    rw [binding?_eq_of_isFormOf hform] at hbinding
    rw [binding?_eq_of_isFormOf hform'] at hbinding'
    exact hagree rfl other hother other' hother'
      (hform.type_eq.symm.trans (htype.trans hform'.type_eq)) _ _ hbinding hbinding'

/-- Without overrides, unobstructed owners of one type have one binding. -/
theorem Unobstructed.binding?_eq (h : resolver.Unobstructed false owners) (howner : owner ∈ owners)
    (hother : other ∈ owners)
    (htype : owner.ownerType.toTypeName = other.ownerType.toTypeName) :
    resolver.binding? owner.declaration = resolver.binding? other.declaration := by
  obtain ⟨binding, hbinding⟩ := h.exists_binding howner
  obtain ⟨binding', hbinding'⟩ := h.exists_binding hother
  have hname := h.qualifiedName_eq rfl howner hother htype hbinding hbinding'
  rw [hbinding, hbinding', binding?_eq_of_qualifiedName_eq hbinding hbinding' hname]

end Resolver

namespace Association

open Resolver

variable {resolver : Resolver} {owners others : List ScannedOwner}

/-- Two associations have the same keys, and the same binding for each of them. -/
structure SameBindings (association other : Association) : Prop where
  mem_keys_iff : ∀ name, name ∈ keys association.entries ↔ name ∈ keys other.entries
  binding_eq : ∀ entry ∈ association.entries, ∀ entry' ∈ other.entries,
    entry.1.toTypeName = entry'.1.toTypeName → entry.2 = entry'.2

/-- Owners are associated if and only if others are, and then with the same bindings. -/
structure SucceedAlike (result other : Except Failure Association) : Prop where
  ok_iff : (∃ association, result = .ok association) ↔ ∃ association, other = .ok association
  same : ∀ association association', result = .ok association → other = .ok association' →
    association.SameBindings association'

/-! ## The same owners -/

theorem exists_result_associate_eq_ok_iff :
    (∃ association, (associate resolver false owners).result = .ok association) ↔
      resolver.Unobstructed false owners := by
  simp only [result_associate_eq_ok_iff]
  constructor
  · rintro ⟨_, h, _⟩
    exact h
  · intro h
    exact ⟨_, h, rfl⟩

theorem exists_owner_of_mem {association : Association}
    (h : (associate resolver false owners).result = .ok association) {entry : Entry}
    (hentry : entry ∈ association.entries) :
    ∃ owner ∈ owners, owner.ownerType.toTypeName = entry.1.toTypeName ∧
      resolver.binding? owner.declaration = some entry.2 := by
  obtain ⟨hclear, rfl⟩ := (result_associate_eq_ok_iff owners association).1 h
  have hrecords := records_ofList_pairs fun owner howner => hclear.exists_binding howner
  obtain ⟨last, hlast, hbinding⟩ := hrecords.last_binding entry hentry
  exact ⟨last, List.mem_reverse.1 hlast.mem, hlast.holds, result_resolve_eq_ok_iff.1 hbinding⟩

theorem mem_keys_of_associate {association : Association}
    (h : (associate resolver false owners).result = .ok association) (name : TypeName) :
    name ∈ keys association.entries ↔ ∃ owner ∈ owners, owner.ownerType.toTypeName = name := by
  obtain ⟨hclear, rfl⟩ := (result_associate_eq_ok_iff owners association).1 h
  rw [mem_keys_ofList, keys_pairs fun owner howner => hclear.exists_binding howner, List.mem_map]

theorem exists_type_iff_of_covers (hcovers : Covers others owners) (hcovers' : Covers owners others)
    (name : TypeName) : (∃ owner ∈ owners, owner.ownerType.toTypeName = name) ↔
      ∃ other ∈ others, other.ownerType.toTypeName = name := by
  constructor
  · rintro ⟨owner, howner, rfl⟩
    obtain ⟨other, hother, hform⟩ := hcovers owner howner
    exact ⟨other, hother, hform.type_eq.symm⟩
  · rintro ⟨other, hother, rfl⟩
    obtain ⟨owner, howner, hform⟩ := hcovers' other hother
    exact ⟨owner, howner, hform.type_eq.symm⟩

/-- Sequences in which the same owners stand are associated alike. -/
theorem succeedAlike_of_covers (hcovers : Covers others owners) (hcovers' : Covers owners others) :
    SucceedAlike (associate resolver false owners).result
      (associate resolver false others).result where
  ok_iff := by
    rw [exists_result_associate_eq_ok_iff, exists_result_associate_eq_ok_iff]
    exact ⟨fun h => h.of_covers hcovers', fun h => h.of_covers hcovers⟩
  same := by
    intro association association' h h'
    refine ⟨?_, ?_⟩
    · intro name
      rw [mem_keys_of_associate h, mem_keys_of_associate h',
        exists_type_iff_of_covers hcovers hcovers']
    · intro entry hentry entry' hentry' htype
      obtain ⟨owner, howner, hownerType, hbinding⟩ := exists_owner_of_mem h hentry
      obtain ⟨other, hother, hotherType, hbinding'⟩ := exists_owner_of_mem h' hentry'
      -- A form of the other owner stands among the owners, where one type has one binding.
      obtain ⟨form, hformMem, hform⟩ := hcovers' other hother
      have hclear := exists_result_associate_eq_ok_iff.1 ⟨association, h⟩
      have hsame : resolver.binding? owner.declaration = resolver.binding? form.declaration := by
        refine hclear.binding?_eq howner hformMem ?_
        rw [hownerType, htype, ← hotherType, hform.type_eq]
      rw [hbinding, ← binding?_eq_of_isFormOf hform, hbinding'] at hsame
      exact Option.some.inj hsame

/-! ## One more form of an owner -/

theorem setEntry_eq_self {owner key : OwnerType} {binding : Declaration} {entries : List Entry}
    (h : entries.find? (·.1.sameAs owner) = some (key, binding)) :
    setEntry owner binding entries = entries := by
  induction entries with
  | nil => cases h
  | cons entry rest ih =>
      rw [setEntry]
      rw [List.find?_cons] at h
      cases hsame : entry.1.sameAs owner with
      | true =>
          rw [hsame, Option.some.injEq] at h
          rw [if_pos rfl, h]
      | false =>
          rw [hsame] at h
          rw [if_neg (by simp), ih h]

theorem set_eq_self {association : Association} {owner key : OwnerType} {binding : Declaration}
    (h : association.find? owner = some (key, binding)) :
    association.set owner binding = association := by
  obtain ⟨entries, nodup⟩ := association
  simp only [set, setEntry_eq_self h]

/-- Owners that have been gone through are not gone through again for those behind them. -/
theorem result_extend_append (association : Association) (owners rest : List ScannedOwner) :
    (association.extend resolver false (owners ++ rest)).result =
      (association.extend resolver false owners).result.bind fun extended =>
        (extended.extend resolver false rest).result := by
  induction owners generalizing association with
  | nil => rfl
  | cons owner owners ih =>
      rw [List.cons_append, extend_cons, extend_cons]
      cases hbinding : (resolver.resolve owner.declaration).result with
      | error failure =>
          rw [Reported.bind_eq_of_error hbinding, Reported.bind_eq_of_error hbinding]
          rfl
      | ok binding =>
          rw [Reported.bind_eq_of_ok hbinding, Reported.bind_eq_of_ok hbinding]
          cases hbound : (association.bindOwner false owner.ownerType binding).result with
          | error failure =>
              rw [Reported.bind_eq_of_error hbound, Reported.bind_eq_of_error hbound]
              rfl
          | ok extended =>
              rw [Reported.bind_eq_of_ok hbound, Reported.bind_eq_of_ok hbound]
              exact ih extended

theorem find?_of_associate {association : Association} {owner : ScannedOwner}
    (h : (associate resolver false owners).result = .ok association) (howner : owner ∈ owners) :
    ∃ key binding, association.find? owner.ownerType = some (key, binding) ∧
      resolver.binding? owner.declaration = some binding := by
  obtain ⟨hclear, rfl⟩ := (result_associate_eq_ok_iff owners association).1 h
  obtain ⟨first, hfirst⟩ := exists_find?_sameAs howner rfl
  have hfirstMem := List.mem_of_find?_eq_some hfirst
  have hfirstType := List.find?_some hfirst
  rw [OwnerType.sameAs_iff] at hfirstType
  obtain ⟨binding, hbinding⟩ := hclear.exists_binding hfirstMem
  refine ⟨first.ownerType, binding, ?_, ?_⟩
  · rw [find?_ofList_pairs hclear rfl, hfirst, Option.bind_some, hbinding, Option.map_some]
  · rw [← hbinding]
    exact hclear.binding?_eq howner hfirstMem hfirstType.symm

/-- A form of an owner that was associated changes nothing. -/
theorem result_extend_cons_of_isFormOf {association : Association} {owner copy : ScannedOwner}
    (h : (associate resolver false owners).result = .ok association) (howner : owner ∈ owners)
    (hcopy : copy.IsFormOf owner) (rest : List ScannedOwner) :
    (association.extend resolver false (copy :: rest)).result =
      (association.extend resolver false rest).result := by
  obtain ⟨key, binding, hfind, hbinding⟩ := find?_of_associate h howner
  have hcopyFind : association.find? copy.ownerType = some (key, binding) := by
    rw [← hfind]
    simp only [find?, OwnerType.sameAs, hcopy.type_eq]
  rw [← binding?_eq_of_isFormOf hcopy] at hbinding
  have hsame : ∀ entry, association.find? copy.ownerType = some entry →
      entry.2.qualifiedName = binding.qualifiedName := by
    rintro entry hentry
    rw [hcopyFind, Option.some.injEq] at hentry
    rw [← hentry]
  rw [extend_cons, Reported.bind_eq_of_ok (result_resolve_eq_ok_iff.2 hbinding),
    bindOwner_of_same hsame, set_eq_self hcopyFind]
  rfl

/-- A form of an owner that stands further back changes neither the association nor the failure. -/
theorem result_associate_insert {before : List ScannedOwner} {owner copy : ScannedOwner}
    (howner : owner ∈ before) (hcopy : copy.IsFormOf owner) (after : List ScannedOwner) :
    (associate resolver false (before ++ copy :: after)).result =
      (associate resolver false (before ++ after)).result := by
  rw [associate, associate, result_extend_append, result_extend_append]
  cases hbefore : (empty.extend resolver false before).result with
  | error failure => rfl
  | ok association => exact result_extend_cons_of_isFormOf hbefore howner hcopy after

/-- Without overrides neither the order of owners nor a further form of one of them matters for what
they are associated with, and behind its owner a further form does not matter at all. -/
theorem associate_in_any_order (resolver : Resolver) :
    (∀ owners others, owners.Perm others →
      SucceedAlike (associate resolver false owners).result
        (associate resolver false others).result) ∧
    (∀ before after owner copy, owner ∈ before ++ after → copy.IsFormOf owner →
      SucceedAlike (associate resolver false (before ++ copy :: after)).result
        (associate resolver false (before ++ after)).result) ∧
    ∀ before after owner copy, owner ∈ before → copy.IsFormOf owner →
      (associate resolver false (before ++ copy :: after)).result =
        (associate resolver false (before ++ after)).result := by
  refine ⟨?_, ?_, ?_⟩
  · intro owners others hperm
    exact succeedAlike_of_covers (covers_of_subset hperm.subset) (covers_of_subset hperm.symm.subset)
  · intro before after owner copy howner hcopy
    refine succeedAlike_of_covers ?_ (covers_of_subset ?_)
    · intro other hother
      rcases List.mem_append.1 hother with hbefore | hother
      · exact ⟨other, List.mem_append_left _ hbefore, .refl other⟩
      · rcases List.mem_cons.1 hother with rfl | hafter
        · exact ⟨owner, howner, hcopy⟩
        · exact ⟨other, List.mem_append_right _ hafter, .refl other⟩
    · exact List.append_subset.2 ⟨List.subset_append_left _ _,
        fun other hafter => List.mem_append_right _ (List.mem_cons_of_mem _ hafter)⟩
  · intro before after owner copy howner hcopy
    exact result_associate_insert howner hcopy after

end Association

/-! ## A generic screen, its raw form and another screen -/

namespace RawAndGeneric

/-- A binding of the default contract. -/
def binding (name : String) : Declaration where
  module := "app"
  name := name
  typeParameters := []
  superclass := none
  interfaces := .ofList [defaultContract]
  markers := .empty

/-- A screen with a binding as the argument of its superclass. -/
def screen (name bindingName : String) (typeParameters : List String) : ScannedOwner :=
  let declaration : Declaration :=
    { module := "app"
      name := name
      typeParameters := typeParameters
      superclass := some
        { name := "app.BaseFragment"
          kind := .declared
          arguments := [{ kind := .declared, name := some ("app." ++ bindingName) }] }
      interfaces := .ofList []
      markers := .ofList [.fragment] }
  { declaration, ownerType := declaration.ownerType }

def resolver : Resolver where
  graph := { declarations := [binding "ListBinding", binding "MapBinding"] }
  contract := defaultContract

def generic : ScannedOwner := screen "ListScreen" "ListBinding" ["T"]

def raw : ScannedOwner := screen "ListScreen" "ListBinding" []

def other : ScannedOwner := screen "MapScreen" "MapBinding" []

theorem isFormOf_raw : raw.IsFormOf generic := ⟨rfl, rfl⟩

theorem result_associate :
    (associate resolver false [generic, other]).result =
      .ok (.ofList [(generic.ownerType, binding "ListBinding"),
        (other.ownerType, binding "MapBinding")]) := by rfl

theorem associate_in_any_order_screens :
    (∃ association, (associate resolver false [generic, other]).result = .ok association) ∧
    ([generic, other].Perm [other, generic] ∧
      Association.SucceedAlike (associate resolver false [generic, other]).result
        (associate resolver false [other, generic]).result) ∧
    (generic ∈ [] ++ [generic, other] ∧ raw.IsFormOf generic ∧
      Association.SucceedAlike (associate resolver false ([] ++ raw :: [generic, other])).result
        (associate resolver false ([] ++ [generic, other])).result) ∧
    generic ∈ [generic] ∧ raw.IsFormOf generic ∧
      (associate resolver false ([generic] ++ raw :: [other])).result =
        (associate resolver false ([generic] ++ [other])).result := by
  have hperm : [generic, other].Perm [other, generic] := List.Perm.swap other generic []
  have hmem : generic ∈ [] ++ [generic, other] := List.mem_cons_self
  have hself : generic ∈ [generic] := List.mem_cons_self
  obtain ⟨hany, hform, hbehind⟩ := Association.associate_in_any_order resolver
  exact ⟨⟨_, result_associate⟩, ⟨hperm, hany _ _ hperm⟩,
    ⟨hmem, isFormOf_raw, hform [] [generic, other] generic raw hmem isFormOf_raw⟩,
    hself, isFormOf_raw, hbehind [generic] [other] generic raw hself isFormOf_raw⟩

end RawAndGeneric

end OwnerBinding
