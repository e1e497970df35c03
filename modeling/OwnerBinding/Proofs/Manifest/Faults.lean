import OwnerBinding.Manifest

/-!
# What stands against a manifest

Every check of the schema is grounded: what it refuses it refuses for at least one fault, and each of
its faults is located in the value (`Fault.LocatedIn`). None of them is that a text is not JSON: that
fault comes from reading alone.
-/

namespace OwnerBinding

namespace Checked

variable {ε ε' α β : Type} {kind : ε → Prop}

/-- Whatever is refused is refused for some fault, and for faults of one kind only. -/
def Grounded (kind : ε → Prop) (check : Checked ε α) : Prop :=
  ∀ errors, check = .error errors → errors ≠ [] ∧ ∀ error ∈ errors, kind error

theorem grounded_ok (a : α) : Grounded kind (.ok a : Checked ε α) := by
  intro errors h
  cases h

theorem grounded_fault {error : ε} (h : kind error) :
    Grounded kind (fault error : Checked ε α) := by
  intro errors herrors
  cases herrors
  simpa using h

theorem Grounded.map {check : Checked ε α} (h : check.Grounded kind) (f : α → β) :
    Grounded kind (check.map f) := by
  cases check with
  | ok a => exact grounded_ok (f a)
  | error errors =>
      intro more hmore
      cases hmore
      exact h errors rfl

theorem Grounded.both {first : Checked ε α} {second : Checked ε β} (h : first.Grounded kind)
    (h' : second.Grounded kind) : (Checked.both first second).Grounded kind := by
  cases first with
  | ok a =>
      cases second with
      | ok b => exact grounded_ok (a, b)
      | error more =>
          intro all hall
          cases hall
          exact h' more rfl
  | error errors =>
      obtain ⟨hne, hkind⟩ := h errors rfl
      cases second with
      | ok b =>
          intro all hall
          cases hall
          exact ⟨hne, hkind⟩
      | error more =>
          intro all hall
          cases hall
          refine ⟨List.append_ne_nil_of_left_ne_nil hne more, ?_⟩
          intro error herror
          rcases List.mem_append.1 herror with herror | herror
          · exact hkind error herror
          · exact (h' more rfl).2 error herror

theorem Grounded.all {checks : List (Checked ε α)} (h : ∀ check ∈ checks, Grounded kind check) :
    (Checked.all checks).Grounded kind := by
  induction checks with
  | nil => exact grounded_ok []
  | cons check rest ih =>
      rw [List.forall_mem_cons] at h
      exact (h.1.both (ih h.2)).map _

theorem Grounded.bind {check : Checked ε α} (h : check.Grounded kind) {next : α → Checked ε β}
    (hnext : ∀ a, (next a).Grounded kind) : Grounded kind (Except.bind check next) := by
  cases check with
  | ok a => exact hnext a
  | error errors =>
      intro more hmore
      cases hmore
      exact h errors rfl

theorem Grounded.mapFaults {kind' : ε' → Prop} {check : Checked ε α} (h : check.Grounded kind)
    {f : ε → ε'} (hf : ∀ error, kind error → kind' (f error)) :
    (check.mapFaults f).Grounded kind' := by
  cases check with
  | ok a => exact grounded_ok a
  | error errors =>
      obtain ⟨hne, hkind⟩ := h errors rfl
      intro more hmore
      cases hmore
      refine ⟨fun hnil => hne (List.map_eq_nil_iff.1 hnil), ?_⟩
      intro error herror
      obtain ⟨own, hown, rfl⟩ := List.mem_map.1 herror
      exact hf own (hkind own hown)

end Checked

namespace Manifest

/-! ## Locations -/

/-- The value at a location of a value. -/
def valueAt? : List Step → Json → Option Json
  | [], value => some value
  | .key name :: rest, .object members => (Json.member? name members).bind (valueAt? rest)
  | .index position :: rest, .array items => items[position]?.bind (valueAt? rest)
  | _ :: _, _ => none

/-- A fault stands at a value that is there or, if a key is missing, at a key that an object does not
have. -/
inductive Fault.LocatedIn (value : Json) : Fault → Prop where
  | present {location : List Step} {cause : Cause} {found : Json}
      (hfound : valueAt? location value = some found) (hmissing : cause ≠ .missing)
      (hjson : cause ≠ .notJson) : LocatedIn value { location, cause }
  | absent {location : List Step} {key : String} {members : List (String × Json)}
      (hfound : valueAt? location value = some (.object members))
      (hkey : Json.member? key members = none) :
      LocatedIn value { location := location ++ [.key key], cause := .missing }

theorem Fault.LocatedIn.below {step : Step} {value inner : Json}
    (h : ∀ location, valueAt? (step :: location) value = valueAt? location inner) {fault : Fault}
    (hfault : fault.LocatedIn inner) : (fault.below step).LocatedIn value := by
  cases hfault with
  | present hfound hmissing hjson => exact .present ((h _).trans hfound) hmissing hjson
  | absent hfound hkey => exact .absent ((h _).trans hfound) hkey

/-! ## Grounded checks -/

/-- A check whose faults are located in the value. -/
def Grounded {α : Type} (check : Check α) : Prop :=
  ∀ value, (check value).Grounded (Fault.LocatedIn value)

/-- A check of the members of an object whose faults are located in the object. -/
def GroundedMembers {α : Type} (check : List (String × Json) → Checked Fault α) : Prop :=
  ∀ members, (check members).Grounded (Fault.LocatedIn (.object members))

section

variable {α : Type} {check : Check α}

theorem grounded_faultHere {value : Json} {cause : Cause} (hmissing : cause ≠ .missing)
    (hjson : cause ≠ .notJson) :
    (faultHere cause : Checked Fault α).Grounded (Fault.LocatedIn value) :=
  Checked.grounded_fault (.present rfl hmissing hjson)

theorem grounded_below {step : Step} {value inner : Json}
    (h : ∀ location, valueAt? (step :: location) value = valueAt? location inner)
    {checked : Checked Fault α} (hchecked : checked.Grounded (Fault.LocatedIn inner)) :
    (below step checked).Grounded (Fault.LocatedIn value) :=
  hchecked.mapFaults fun _ hfault => hfault.below h

theorem grounded_string : Grounded string := by
  intro value
  cases value with
  | string text => exact Checked.grounded_ok text
  | _ => exact grounded_faultHere (by simp) (by simp)

theorem grounded_nonemptyString : Grounded nonemptyString := by
  intro value
  cases value with
  | string text =>
      rw [nonemptyString]
      split
      · exact grounded_faultHere (by simp) (by simp)
      · exact Checked.grounded_ok text
  | _ => exact grounded_faultHere (by simp) (by simp)

theorem grounded_oneOf {values : List α} {word : α → String} {cause : Cause}
    (hmissing : cause ≠ .missing) (hjson : cause ≠ .notJson) :
    Grounded (oneOf values word cause) := by
  intro value
  cases value with
  | string text =>
      rw [oneOf]
      split
      · exact Checked.grounded_ok _
      · exact grounded_faultHere hmissing hjson
  | _ => exact grounded_faultHere hmissing hjson

theorem grounded_typeKind : Grounded typeKind := grounded_oneOf (by simp) (by simp)

theorem Grounded.nullable (h : Grounded check) : Grounded (nullable check) := by
  intro value
  cases value with
  | null => exact Checked.grounded_ok none
  | _ => exact (h _).map some

/-- The items of a list are checked one by one, each at its position. -/
theorem itemChecks_eq_map (check : Check α) (items : List Json) (position : Nat) :
    itemChecks check position items =
      (items.zipIdx position).map fun item => below (.index item.2) (check item.1) := by
  induction items generalizing position with
  | nil => rfl
  | cons item rest ih => rw [itemChecks, ih, List.zipIdx_cons, List.map_cons]

theorem Grounded.listOf (h : Grounded check) : Grounded (listOf check) := by
  intro value
  cases value with
  | array items =>
      rw [Manifest.listOf, itemChecks_eq_map]
      refine .all fun checked hchecked => ?_
      obtain ⟨⟨item, position⟩, hmem, rfl⟩ := List.mem_map.1 hchecked
      have hitem : items[position]? = some item := List.mk_mem_zipIdx_iff_getElem?.1 hmem
      refine grounded_below (fun location => ?_) (h item)
      rw [valueAt?, hitem, Option.bind_some]
  | _ => exact grounded_faultHere (by simp) (by simp)

theorem valueAt?_key {key : String} {members : List (String × Json)} {value : Json}
    (h : Json.member? key members = some value) (location : List Step) :
    valueAt? (.key key :: location) (.object members) = valueAt? location value := by
  rw [valueAt?, h, Option.bind_some]

theorem Grounded.required (h : Grounded check) (key : String) :
    GroundedMembers (required key check) := by
  intro members
  rw [Manifest.required]
  split
  · next hmember => exact grounded_below (valueAt?_key hmember) (h _)
  · next hmember => exact Checked.grounded_fault (@Fault.LocatedIn.absent _ [] _ _ rfl hmember)

theorem Grounded.optional (h : Grounded check) (key : String) (default : α) :
    GroundedMembers (optional key default check) := by
  intro members
  rw [Manifest.optional]
  split
  · next hmember => exact grounded_below (valueAt?_key hmember) (h _)
  · exact Checked.grounded_ok default

theorem exists_member?_eq_some {member : String × Json} {members : List (String × Json)}
    (h : member ∈ members) : ∃ value, Json.member? member.1 members = some value := by
  induction members with
  | nil => cases h
  | cons first rest ih =>
      rw [Json.member?_cons]
      split
      · exact ⟨first.2, rfl⟩
      · next hne =>
          rcases List.mem_cons.1 h with rfl | hrest
          · exact absurd rfl hne
          · exact ih hrest

theorem grounded_noOtherKeys (expected : List String) : GroundedMembers (noOtherKeys expected) := by
  intro members
  rw [noOtherKeys]
  split
  · exact Checked.grounded_ok ()
  · next hne =>
      intro errors herrors
      cases herrors
      refine ⟨hne, ?_⟩
      intro fault hfault
      obtain ⟨member, hmember, rfl⟩ := List.mem_map.1 hfault
      obtain ⟨value, hvalue⟩ := exists_member?_eq_some (List.mem_filter.1 hmember).1
      exact .present (valueAt?_key hvalue []) (by simp) (by simp)

theorem GroundedMembers.objectOf {check : List (String × Json) → Checked Fault α}
    (h : GroundedMembers check) (part : Part) (expected : List String) :
    Grounded (objectOf part expected check) := by
  intro value
  cases value with
  | object members => exact ((h members).both (grounded_noOtherKeys expected members)).map _
  | _ => exact grounded_faultHere (by simp) (by simp)

end

theorem grounded_typeArgument : Grounded typeArgument := by
  have hmembers : GroundedMembers typeArgumentMembers := by
    intro members
    have hkind := grounded_typeKind.optional "kind" .declared members
    have hname := grounded_string.nullable.optional "name" none members
    exact (hkind.both hname).map _
  have hnamed : ∀ value argument, (named argument).Grounded (Fault.LocatedIn value) := by
    intro value argument
    rw [named]
    split
    · exact Checked.grounded_ok argument
    · exact grounded_faultHere (by simp) (by simp)
  intro value
  exact (hmembers.objectOf .typeArgument _ value).bind (hnamed value)

theorem grounded_superclass : Grounded superclass := by
  have hmembers : GroundedMembers superclassMembers := by
    intro members
    have hname := grounded_string.required "name" members
    have hkind := grounded_typeKind.optional "kind" .declared members
    have harguments := grounded_typeArgument.listOf.optional "arguments" [] members
    exact (hname.both (hkind.both harguments)).map _
  exact hmembers.objectOf .superclass _

theorem grounded_declaration : Grounded declaration := by
  have hmembers : GroundedMembers declarationMembers := by
    intro members
    have hmodule := grounded_nonemptyString.required "module" members
    have hname := grounded_nonemptyString.required "name" members
    have htypeParameters := grounded_string.listOf.optional "type_parameters" [] members
    have hsuperclass := grounded_superclass.nullable.optional "superclass" none members
    have hinterfaces := grounded_string.listOf.optional "interfaces" [] members
    have hmarkers : Grounded marker := grounded_oneOf (by simp) (by simp)
    have hmarkers := hmarkers.listOf.optional "markers" [] members
    exact (hmodule.both (hname.both (htypeParameters.both (hsuperclass.both
      (hinterfaces.both hmarkers))))).map _
  exact hmembers.objectOf .declaration _

/-- A manifest that is refused has a fault, and each of its faults is located in it. -/
theorem located_ofValue (value : Json) : (ofValue value).Grounded (Fault.LocatedIn value) := by
  have hmanifest : Grounded manifest :=
    (grounded_declaration.listOf.optional "declarations" []).objectOf .manifest _
  exact (hmanifest value).map _

end Manifest

end OwnerBinding
