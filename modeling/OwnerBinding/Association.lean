import OwnerBinding.OwnerType
import OwnerBinding.Resolution

/-!
# Associations of owner types with bindings

An association lists owner types with their bindings in the order in which the types were first
seen. `set` binds a type: a type that is there keeps its place and the form in which it was first
given, and takes the new binding.

`associate` resolves scanned owners one after the other into an association. A type that already has
a binding of another name is rebound if overrides are allowed and is a conflict otherwise.
-/

namespace OwnerBinding

abbrev Association.Entry := OwnerType × Declaration

/-- Binds an owner type among entries. -/
def Association.setEntry (owner : OwnerType) (binding : Declaration) :
    List Association.Entry → List Association.Entry
  | [] => [(owner, binding)]
  | entry :: rest =>
      if entry.1.sameAs owner then (entry.1, binding) :: rest
      else entry :: setEntry owner binding rest

/-- The names of the owner types of entries. -/
def Association.keys (entries : List Association.Entry) : List TypeName :=
  entries.map (·.1.toTypeName)

@[simp] theorem Association.keys_cons (entry : Association.Entry)
    (rest : List Association.Entry) :
    keys (entry :: rest) = entry.1.toTypeName :: keys rest := rfl

/-- Binding a type keeps the keys, and adds a new key at the end. -/
theorem Association.keys_setEntry (owner : OwnerType) (binding : Declaration)
    (entries : List Association.Entry) :
    keys (setEntry owner binding entries) =
      if owner.toTypeName ∈ keys entries then keys entries
      else keys entries ++ [owner.toTypeName] := by
  induction entries with
  | nil => simp [keys, setEntry]
  | cons entry rest ih =>
      rw [setEntry]
      by_cases h : entry.1.toTypeName = owner.toTypeName
      · simp [keys, h]
      · have hs : entry.1.sameAs owner = false := by simp [OwnerType.sameAs, h]
        have hn : owner.toTypeName ≠ entry.1.toTypeName := Ne.symm h
        by_cases hm : owner.toTypeName ∈ keys rest
        · simp [hs, ih, hm]
        · simp [hs, ih, hm, hn]

/-- Owner types with their bindings, each type once. -/
structure Association where
  entries : List Association.Entry
  nodup_keys : (Association.keys entries).Nodup := by simp [Association.keys]

namespace Association

def empty : Association := { entries := [] }

def set (association : Association) (owner : OwnerType) (binding : Declaration) : Association where
  entries := setEntry owner binding association.entries
  nodup_keys := by
    rw [keys_setEntry]
    split
    · exact association.nodup_keys
    · next h =>
        rw [List.nodup_append]
        refine ⟨association.nodup_keys, by simp, ?_⟩
        intro a ha b hb
        simp only [List.mem_singleton] at hb
        rintro rfl
        exact h (hb ▸ ha)

/-- The entry of an owner type: the form in which the type was first given, and its binding. -/
def find? (association : Association) (owner : OwnerType) : Option Entry :=
  association.entries.find? (·.1.sameAs owner)

def size (association : Association) : Nat := association.entries.length

/-- The association that binds pairs in their order. -/
def ofList (pairs : List Entry) : Association :=
  pairs.foldl (fun association pair => association.set pair.1 pair.2) empty

/-- Binds the type of an owner to the binding that was resolved for it. -/
def bindOwner (allowOverrides : Bool) (association : Association) (owner : OwnerType)
    (binding : Declaration) : Reported Notice Failure Association :=
  match association.find? owner with
  | none => pure (association.set owner binding)
  | some (key, existing) =>
      if existing.qualifiedName = binding.qualifiedName then
        pure (association.set owner binding)
      else if allowOverrides then do
        .report (.rebound key.label existing.qualifiedName binding.qualifiedName)
        return association.set owner binding
      else
        let conflict := Failure.ownerTypeConflict key.label existing.qualifiedName
          binding.qualifiedName
        do
          .report (.resolutionFailed conflict)
          .fail conflict

/-- Resolves owners in their order and binds their types on top of an association. -/
def extend (resolver : Resolver) (allowOverrides : Bool) :
    Association → List ScannedOwner → Reported Notice Failure Association
  | association, [] => pure association
  | association, owner :: rest => do
      let binding ← resolver.resolve owner.declaration
      let extended ← association.bindOwner allowOverrides owner.ownerType binding
      extend resolver allowOverrides extended rest

end Association

/-- Resolves owners in their order into an association. -/
def associate (resolver : Resolver) (allowOverrides : Bool) (owners : List ScannedOwner) :
    Reported Notice Failure Association :=
  Association.empty.extend resolver allowOverrides owners

end OwnerBinding
