import OwnerBinding.Proofs.Manifest.Schema
import OwnerBinding.Proofs.Text.NameSet

/-!
# What the checks of manifests decide

A check decides a shape and a meaning (`Decides`) if it passes exactly the values of the shape and
gives what they mean. Each way to build a check from others keeps this, and so the check of a whole
manifest decides `IsManifest` and `Lists` (`decides_manifest`).
-/

namespace OwnerBinding

/-- A set of markers is told by its members. -/
theorem MarkerSet.ofList_eq_iff (kinds : List OwnerKind) (set : MarkerSet) :
    MarkerSet.ofList kinds = set ↔ ∀ kind, set.has kind = true ↔ kind ∈ kinds := by
  constructor
  · rintro rfl kind
    simp
  · intro h
    have hhas : ∀ kind, (MarkerSet.ofList kinds).has kind = set.has kind := by
      intro kind
      rw [Bool.eq_iff_iff, MarkerSet.has_ofList, h, decide_eq_true_iff]
    have hactivity := hhas .activity
    have hfragment := hhas .fragment
    rcases hset : MarkerSet.ofList kinds with ⟨activity, fragment⟩
    cases set
    simp_all [MarkerSet.has]

namespace Manifest

variable {α β : Type}

/-- A check passes exactly the inputs of a shape, and gives for each of them what it means. -/
structure Decides {ι α : Type} (check : ι → Checked Fault α) (shape : ι → Prop)
    (means : ι → α → Prop) : Prop where
  ok_iff : ∀ input a, check input = .ok a ↔ shape input ∧ means input a
  exists_means : ∀ input, shape input → ∃ a, means input a

namespace Decides

variable {ι : Type} {check : ι → Checked Fault α} {shape shape' : ι → Prop} {means : ι → α → Prop}

theorem congr (h : Decides check shape means) {means' : ι → α → Prop}
    (hshape : ∀ input, shape input ↔ shape' input)
    (hmeans : ∀ input a, means input a ↔ means' input a) : Decides check shape' means' where
  ok_iff := by
    intro input a
    rw [h.ok_iff, hshape, hmeans]
  exists_means := by
    intro input hinput
    obtain ⟨a, ha⟩ := h.exists_means input ((hshape input).2 hinput)
    exact ⟨a, (hmeans input a).1 ha⟩

/-- What is read can be told in another form. -/
theorem map (h : Decides check shape means) (f : α → β) (means' : ι → β → Prop)
    (hmeans : ∀ input b, means' input b ↔ ∃ a, means input a ∧ f a = b) :
    Decides (fun input => (check input).map f) shape means' where
  ok_iff := by
    intro input b
    rw [Checked.map_eq_ok_iff, hmeans]
    constructor
    · rintro ⟨a, ha, hb⟩
      obtain ⟨hshape, hmeansA⟩ := (h.ok_iff input a).1 ha
      exact ⟨hshape, a, hmeansA, hb⟩
    · rintro ⟨hshape, a, ha, hb⟩
      exact ⟨a, (h.ok_iff input a).2 ⟨hshape, ha⟩, hb⟩
  exists_means := by
    intro input hshape
    obtain ⟨a, ha⟩ := h.exists_means input hshape
    exact ⟨f a, (hmeans input (f a)).2 ⟨a, ha, rfl⟩⟩

theorem both {check' : ι → Checked Fault β} {means' : ι → β → Prop} (h : Decides check shape means)
    (h' : Decides check' shape' means') :
    Decides (fun input => Checked.both (check input) (check' input))
      (fun input => shape input ∧ shape' input)
      (fun input pair => means input pair.1 ∧ means' input pair.2) where
  ok_iff := by
    rintro input ⟨a, b⟩
    rw [Checked.both_eq_ok_iff, h.ok_iff, h'.ok_iff]
    exact and_and_and_comm
  exists_means := by
    rintro input ⟨hshape, hshape'⟩
    obtain ⟨a, ha⟩ := h.exists_means input hshape
    obtain ⟨b, hb⟩ := h'.exists_means input hshape'
    exact ⟨(a, b), ha, hb⟩

end Decides

section

variable {check : Check α} {shape : Json → Prop} {means : Json → α → Prop}

theorem decides_string : Decides string IsText TextMeans where
  ok_iff := by
    intro value text
    cases value with
    | string own => simp [string, IsText, TextMeans]
    | _ => simp [string, faultHere, Checked.fault, IsText]
  exists_means := fun _ hvalue => hvalue

theorem decides_nonemptyString : Decides nonemptyString IsNonemptyText TextMeans where
  ok_iff := by
    intro value text
    cases value with
    | string own =>
        by_cases hown : own = ""
        · simp [nonemptyString, faultHere, Checked.fault, IsNonemptyText, hown]
        · simp [nonemptyString, IsNonemptyText, TextMeans, hown]
    | _ => simp [nonemptyString, faultHere, Checked.fault, IsNonemptyText]
  exists_means := by
    rintro value ⟨text, htext, _⟩
    exact ⟨text, htext⟩

/-- One of several values is read by its word, if all values are listed and their words differ. -/
theorem decides_oneOf {values : List α} {word : α → String} (hword : Function.Injective word)
    (hall : ∀ a, a ∈ values) (cause : Cause) :
    Decides (oneOf values word cause) (fun value => ∃ a, value = .string (word a))
      (fun value a => value = .string (word a)) where
  ok_iff := by
    intro value a
    cases value with
    | string text =>
        rw [oneOf]
        cases hfind : values.find? fun other => word other = text with
        | none =>
            have hnone : ∀ other, text ≠ word other := by
              intro other htext
              have hother := List.find?_eq_none.1 hfind other (hall other)
              simp [htext] at hother
            simp [faultHere, Checked.fault, hnone]
        | some found =>
            have hfound : word found = text := by simpa using List.find?_some hfind
            simp [← hfound, hword.eq_iff]
    | _ => simp [oneOf, faultHere, Checked.fault]
  exists_means := fun _ hvalue => hvalue

theorem decides_typeKind : Decides typeKind IsKind KindMeans :=
  decides_oneOf (by intro a b; cases a <;> cases b <;> decide) (by intro a; cases a <;> decide) _

theorem decides_marker : Decides marker IsMarker MarkerMeans :=
  decides_oneOf (by intro a b; cases a <;> cases b <;> decide) (by intro a; cases a <;> decide) _

theorem Decides.nullable (h : Decides check shape means) (hnull : ∀ a, ¬ means .null a) :
    Decides (nullable check) (IsNullOr shape) (NullableMeans means) where
  ok_iff := by
    intro value a
    by_cases hvalue : value = .null
    · subst hvalue
      cases a with
      | none => simp [Manifest.nullable, IsNullOr, NullableMeans]
      | some a => simp [Manifest.nullable, NullableMeans, hnull]
    · have hcheck : Manifest.nullable check value = (check value).map some := by
        cases value <;> first | rfl | exact absurd rfl hvalue
      rw [hcheck, Checked.map_eq_ok_iff]
      cases a with
      | none => simp [NullableMeans, hvalue]
      | some a => simp [h.ok_iff, IsNullOr, NullableMeans, hvalue]
  exists_means := by
    rintro value (rfl | hvalue)
    · exact ⟨none, rfl⟩
    · obtain ⟨a, ha⟩ := h.exists_means value hvalue
      exact ⟨some a, ha⟩

theorem all_itemChecks_eq_ok_iff (h : Decides check shape means) (position : Nat)
    (items : List Json) (as : List α) :
    Checked.all (itemChecks check position items) = .ok as ↔
      (∀ item ∈ items, shape item) ∧ List.Forall₂ means items as := by
  induction items generalizing position as with
  | nil => cases as <;> simp [itemChecks]
  | cons item items ih =>
      rw [itemChecks]
      cases as with
      | nil => simp [Checked.all_cons_ne_ok_nil]
      | cons a as =>
          rw [Checked.all_cons_eq_ok_iff, below, Checked.mapFaults_eq_ok_iff, h.ok_iff, ih,
            List.forall_mem_cons, List.forall₂_cons]
          exact and_and_and_comm

theorem Decides.listOf (h : Decides check shape means) :
    Decides (listOf check) (IsListOf shape) (ListMeans means) where
  ok_iff := by
    intro value as
    cases value with
    | array items => simp [Manifest.listOf, all_itemChecks_eq_ok_iff h, IsListOf, ListMeans]
    | _ => simp [Manifest.listOf, faultHere, Checked.fault, IsListOf]
  exists_means := by
    rintro value ⟨items, rfl, hitems⟩
    have hmeans : ∃ as, List.Forall₂ means items as := by
      induction items with
      | nil => exact ⟨[], .nil⟩
      | cons item items ih =>
          obtain ⟨hitem, hitems⟩ := List.forall_mem_cons.1 hitems
          obtain ⟨a, ha⟩ := h.exists_means item hitem
          obtain ⟨as, has⟩ := ih hitems
          exact ⟨a :: as, .cons ha has⟩
    obtain ⟨as, has⟩ := hmeans
    exact ⟨as, items, rfl, has⟩

theorem Decides.required (h : Decides check shape means) (key : String) :
    Decides (required key check) (Has key shape) (MemberMeans key means) where
  ok_iff := by
    intro members a
    rw [Manifest.required, Has, MemberMeans]
    cases Json.member? key members with
    | none => simp [Checked.fault]
    | some value => simp [below, Checked.mapFaults_eq_ok_iff, h.ok_iff]
  exists_means := by
    rintro members ⟨value, hvalue, hshape⟩
    obtain ⟨a, ha⟩ := h.exists_means value hshape
    exact ⟨a, value, hvalue, ha⟩

theorem Decides.optional (h : Decides check shape means) (key : String) (default : α) :
    Decides (optional key default check) (MayHave key shape) (MemberMeansOr key default means) where
  ok_iff := by
    intro members a
    rw [Manifest.optional, MayHave, MemberMeansOr]
    cases Json.member? key members with
    | none => simp [eq_comm]
    | some value => simp [below, Checked.mapFaults_eq_ok_iff, h.ok_iff]
  exists_means := by
    intro members hmembers
    rw [MayHave] at hmembers
    simp only [MemberMeansOr]
    cases hvalue : Json.member? key members with
    | none => exact ⟨default, rfl⟩
    | some value => exact h.exists_means value (hmembers value hvalue)

theorem noOtherKeys_eq_ok_iff (expected : List String) (members : List (String × Json))
    (passed : Unit) :
    noOtherKeys expected members = .ok passed ↔ ∀ member ∈ members, member.1 ∈ expected := by
  have hfaults : unknownKeyFaults expected members = [] ↔
      ∀ member ∈ members, member.1 ∈ expected := by
    simp [unknownKeyFaults]
  rw [noOtherKeys, ← hfaults]
  cases unknownKeyFaults expected members <;> simp

theorem Decides.objectOf {check : List (String × Json) → Checked Fault α}
    {shape : List (String × Json) → Prop} {means : List (String × Json) → α → Prop}
    (h : Decides check shape means) (part : Part) (expected : List String) :
    Decides (objectOf part expected check) (IsObjectOf expected shape) (ObjectMeans means) where
  ok_iff := by
    intro value a
    cases value with
    | object members =>
        simp only [Manifest.objectOf, Checked.map_eq_ok_iff, Prod.exists, Checked.both_eq_ok_iff,
          h.ok_iff, noOtherKeys_eq_ok_iff, IsObjectOf, ObjectMeans, Json.object.injEq]
        constructor
        · rintro ⟨a, _, ⟨⟨hshape, hmeans⟩, hkeys⟩, rfl⟩
          exact ⟨⟨members, rfl, hkeys, hshape⟩, members, rfl, hmeans⟩
        · rintro ⟨⟨_, rfl, hkeys, hshape⟩, _, rfl, hmeans⟩
          exact ⟨a, (), ⟨⟨hshape, hmeans⟩, hkeys⟩, rfl⟩
    | _ => simp [Manifest.objectOf, faultHere, Checked.fault, IsObjectOf]
  exists_means := by
    rintro value ⟨members, rfl, _, hshape⟩
    obtain ⟨a, ha⟩ := h.exists_means members hshape
    exact ⟨a, members, rfl, ha⟩

end

/-! ## The parts of a manifest -/

theorem named_eq_ok_iff (argument result : TypeArgument) :
    named argument = .ok result ↔
      argument = result ∧ (result.kind = .wildcard ∨ result.name.getD "" ≠ "") := by
  rw [named]
  split
  · next h =>
      rw [Except.ok.injEq]
      constructor
      · rintro rfl
        exact ⟨rfl, h⟩
      · exact fun heq => heq.1
  · next h =>
      simp only [faultHere, Checked.fault, reduceCtorEq, false_iff, not_and]
      rintro rfl
      exact h

theorem kind_eq_wildcard_iff {members : List (String × Json)} {kind : TypeKind}
    (h : MemberMeansOr "kind" .declared KindMeans members kind) :
    kind = .wildcard ↔ Json.member? "kind" members = some (.string "wildcard") := by
  rw [MemberMeansOr] at h
  cases hkind : Json.member? "kind" members with
  | none =>
      rw [hkind] at h
      simp [h]
  | some value =>
      rw [hkind] at h
      obtain rfl : value = .string kind.word := h
      rw [Option.some.injEq, Json.string.injEq]
      cases kind <;> decide

theorem name_ne_empty_iff {members : List (String × Json)} {name : Option String}
    (h : MemberMeansOr "name" none (NullableMeans TextMeans) members name) :
    name.getD "" ≠ "" ↔ Has "name" IsNonemptyText members := by
  rw [MemberMeansOr] at h
  rw [Has]
  cases hname : Json.member? "name" members with
  | none =>
      rw [hname] at h
      simp [h]
  | some value =>
      rw [hname] at h
      cases name with
      | none =>
          obtain rfl : value = .null := h
          simp [IsNonemptyText]
      | some text =>
          obtain rfl : value = .string text := h
          simp [IsNonemptyText]

theorem decides_typeArgumentMembers :
    Decides typeArgumentMembers
      (fun members => MayHave "kind" IsKind members ∧ MayHave "name" (IsNullOr IsText) members)
      ArgumentMeans := by
  have hkind := decides_typeKind.optional "kind" .declared
  have hname := (decides_string.nullable (by simp [TextMeans])).optional "name" none
  refine (hkind.both hname).map _ _ ?_
  intro members argument
  constructor
  · intro h
    exact ⟨(argument.kind, argument.name), ⟨h.kind, h.name⟩, rfl⟩
  · rintro ⟨_, h, rfl⟩
    exact ⟨h.1, h.2⟩

theorem decides_typeArgument :
    Decides typeArgument IsTypeArgument (ObjectMeans ArgumentMeans) where
  ok_iff := by
    intro value argument
    have hobject := decides_typeArgumentMembers.objectOf .typeArgument ["kind", "name"]
    have hbind : typeArgument value = .ok argument ↔
        objectOf .typeArgument ["kind", "name"] typeArgumentMembers value = .ok argument ∧
          (argument.kind = .wildcard ∨ argument.name.getD "" ≠ "") := by
      rw [typeArgument]
      cases objectOf .typeArgument ["kind", "name"] typeArgumentMembers value with
      | error faults => simp [Except.bind]
      | ok found =>
          simp only [Except.bind, named_eq_ok_iff, Except.ok.injEq]
    rw [hbind, hobject.ok_iff]
    -- The members name the argument exactly if what they mean has a name or needs none.
    have hnamed : ∀ members, ArgumentMeans members argument →
        ((argument.kind = .wildcard ∨ argument.name.getD "" ≠ "") ↔
          (Json.member? "kind" members ≠ some (.string "wildcard") →
            Has "name" IsNonemptyText members)) := by
      intro members h
      rw [kind_eq_wildcard_iff h.kind, name_ne_empty_iff h.name, or_iff_not_imp_left]
    constructor
    · rintro ⟨⟨⟨members, rfl, hkeys, hkind, hname⟩, _, hvalue, hmeans⟩, h⟩
      obtain rfl := Json.object.inj hvalue
      exact ⟨⟨members, rfl, hkeys, hkind, hname, (hnamed members hmeans).1 h⟩, members, rfl, hmeans⟩
    · rintro ⟨⟨members, rfl, hkeys, hshape⟩, _, hvalue, hmeans⟩
      obtain rfl := Json.object.inj hvalue
      exact ⟨⟨⟨members, rfl, hkeys, hshape.kind, hshape.name⟩, members, rfl, hmeans⟩,
        (hnamed members hmeans).2 hshape.named⟩
  exists_means := by
    rintro value ⟨members, rfl, _, hshape⟩
    obtain ⟨argument, h⟩ := decides_typeArgumentMembers.exists_means members
      ⟨hshape.kind, hshape.name⟩
    exact ⟨argument, members, rfl, h⟩

theorem decides_superclass : Decides superclass IsSuperclass (ObjectMeans SuperclassMeans) := by
  have hname := decides_string.required "name"
  have hkind := decides_typeKind.optional "kind" .declared
  have harguments := decides_typeArgument.listOf.optional "arguments" []
  have hmembers : Decides superclassMembers SuperclassShape SuperclassMeans := by
    refine ((hname.both (hkind.both harguments)).map _ SuperclassMeans ?_).congr ?_
      fun _ _ => Iff.rfl
    · intro members superclass
      constructor
      · intro h
        exact ⟨(superclass.name, superclass.kind, superclass.arguments),
          ⟨h.name, h.kind, h.arguments⟩, rfl⟩
      · rintro ⟨_, h, rfl⟩
        exact ⟨h.1, h.2.1, h.2.2⟩
    · intro members
      exact ⟨fun h => ⟨h.1, h.2.1, h.2.2⟩, fun h => ⟨h.name, h.kind, h.arguments⟩⟩
  exact hmembers.objectOf .superclass _

theorem decides_declaration : Decides declaration IsDeclaration (ObjectMeans DeclarationMeans) := by
  have hmodule := decides_nonemptyString.required "module"
  have hname := decides_nonemptyString.required "name"
  have htypeParameters := decides_string.listOf.optional "type_parameters" []
  have hsuperclass := (decides_superclass.nullable (by simp [ObjectMeans])).optional "superclass" none
  have hinterfaces := decides_string.listOf.optional "interfaces" []
  have hmarkers := decides_marker.listOf.optional "markers" []
  have hmembers : Decides declarationMembers DeclarationShape DeclarationMeans := by
    refine ((hmodule.both (hname.both (htypeParameters.both (hsuperclass.both
      (hinterfaces.both hmarkers))))).map _ DeclarationMeans ?_).congr ?_
      fun _ _ => Iff.rfl
    · intro members d
      constructor
      · intro h
        obtain ⟨names, hnames, hinterfaces⟩ := h.interfaces
        obtain ⟨kinds, hkinds, hmarkers⟩ := h.markers
        refine ⟨(d.module, d.name, d.typeParameters, d.superclass, names, kinds),
          ⟨h.module, h.name, h.typeParameters, h.superclass, hnames, hkinds⟩, ?_⟩
        rw [(NameSet.ofList_eq_iff names d.interfaces).2 hinterfaces,
          (MarkerSet.ofList_eq_iff kinds d.markers).2 hmarkers]
      · rintro ⟨⟨module, name, typeParameters, superclass, names, kinds⟩, h, rfl⟩
        obtain ⟨hmodule, hname, htypeParameters, hsuperclass, hnames, hkinds⟩ := h
        exact ⟨hmodule, hname, htypeParameters, hsuperclass,
          ⟨names, hnames, (NameSet.ofList_eq_iff names _).1 rfl⟩,
          ⟨kinds, hkinds, (MarkerSet.ofList_eq_iff kinds _).1 rfl⟩⟩
    · intro members
      constructor
      · rintro ⟨hmodule, hname, htypeParameters, hsuperclass, hinterfaces, hmarkers⟩
        exact ⟨hmodule, hname, htypeParameters, hsuperclass, hinterfaces, hmarkers⟩
      · intro h
        exact ⟨h.module, h.name, h.typeParameters, h.superclass, h.interfaces, h.markers⟩
  exact hmembers.objectOf .declaration _

theorem decides_manifest : Decides manifest IsManifest Lists :=
  (decides_declaration.listOf.optional "declarations" []).objectOf .manifest _

/-- A value is read as a graph exactly if it is a manifest, and the graph has what it lists. -/
theorem ofValue_eq_ok_iff (value : Json) (graph : DeclarationGraph) :
    ofValue value = .ok graph ↔ IsManifest value ∧ Lists value graph.declarations := by
  rw [ofValue, Checked.map_eq_ok_iff]
  simp only [decides_manifest.ok_iff]
  constructor
  · rintro ⟨declarations, h, rfl⟩
    exact h
  · intro h
    exact ⟨graph.declarations, h, rfl⟩

theorem exists_ofValue_eq_ok_iff (value : Json) :
    (∃ graph, ofValue value = .ok graph) ↔ IsManifest value := by
  simp only [ofValue_eq_ok_iff]
  constructor
  · rintro ⟨_, h, _⟩
    exact h
  · intro h
    obtain ⟨declarations, hdeclarations⟩ := decides_manifest.exists_means value h
    exact ⟨{ declarations }, h, hdeclarations⟩

end Manifest

end OwnerBinding
