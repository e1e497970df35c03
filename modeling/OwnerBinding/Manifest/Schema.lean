import OwnerBinding.Checked
import OwnerBinding.Json.Basic
import OwnerBinding.Manifest.Fault

/-!
# Schema of manifests

The checks that a manifest passes on its way to declarations. An object is checked key by key in the
order of its part, then for keys that the part does not have in their own order, and all faults are
kept. That a type argument has a name is asked only of an argument without any other fault.
-/

namespace OwnerBinding

namespace Manifest

/-- A check of a value, with its faults located from the value on. -/
abbrev Check (α : Type) := Json → Checked Fault α

variable {α β : Type}

/-- A fault of the value itself. -/
def faultHere (cause : Cause) : Checked Fault α := Checked.fault { location := [], cause }

/-- A check of something one step further in. -/
def below (step : Step) (check : Checked Fault α) : Checked Fault α :=
  check.mapFaults (Fault.below step)

def string : Check String
  | .string text => .ok text
  | _ => faultHere .notAString

def nonemptyString : Check String
  | .string text => if text.isEmpty then faultHere .emptyString else .ok text
  | _ => faultHere .notAString

/-- One of the values of a list, by its word. -/
def oneOf (values : List α) (word : α → String) (cause : Cause) : Check α
  | .string text =>
      match values.find? fun value => word value = text with
      | some value => .ok value
      | none => faultHere cause
  | _ => faultHere cause

def typeKind : Check TypeKind := oneOf TypeKind.all TypeKind.word .notAKind

def marker : Check OwnerKind := oneOf OwnerKind.all OwnerKind.marker .notAMarker

/-- Null, or a value that passes a check. -/
def nullable (check : Check α) : Check (Option α)
  | .null => .ok none
  | value => (check value).map some

/-- The checks of the items of a list from a position on. -/
def itemChecks (check : Check α) : Nat → List Json → List (Checked Fault α)
  | _, [] => []
  | position, item :: rest =>
      below (.index position) (check item) :: itemChecks check (position + 1) rest

def listOf (check : Check α) : Check (List α)
  | .array items => Checked.all (itemChecks check 0 items)
  | _ => faultHere .notAList

def required (key : String) (check : Check α) (members : List (String × Json)) :
    Checked Fault α :=
  match Json.member? key members with
  | some value => below (.key key) (check value)
  | none => Checked.fault { location := [.key key], cause := .missing }

def optional (key : String) (default : α) (check : Check α) (members : List (String × Json)) :
    Checked Fault α :=
  match Json.member? key members with
  | some value => below (.key key) (check value)
  | none => .ok default

/-- The keys of an object that are not expected, as faults. -/
def unknownKeyFaults (expected : List String) (members : List (String × Json)) : List Fault :=
  (members.filter fun member => !expected.contains member.1).map fun member =>
    { location := [.key member.1], cause := .unknownKey }

/-- No other keys than those expected. -/
def noOtherKeys (expected : List String) (members : List (String × Json)) : Checked Fault Unit :=
  match unknownKeyFaults expected members with
  | [] => .ok ()
  | faults => .error faults

/-- An object whose members pass a check and that has no other keys than those expected. -/
def objectOf (part : Part) (expected : List String)
    (check : List (String × Json) → Checked Fault α) : Check α
  | .object members =>
      (Checked.both (check members) (noOtherKeys expected members)).map Prod.fst
  | _ => faultHere (.notAnObject part)

/-- A type argument has a name, unless it is a wildcard. -/
def named (argument : TypeArgument) : Checked Fault TypeArgument :=
  if argument.kind = .wildcard ∨ argument.name.getD "" ≠ "" then .ok argument
  else faultHere (.unnamedArgument argument.kind)

def typeArgumentMembers (members : List (String × Json)) : Checked Fault TypeArgument :=
  (Checked.both (optional "kind" .declared typeKind members)
    (optional "name" none (nullable string) members)).map fun values =>
      { kind := values.1, name := values.2 }

def typeArgument : Check TypeArgument := fun value =>
  (objectOf .typeArgument ["kind", "name"] typeArgumentMembers value).bind named

def superclassMembers (members : List (String × Json)) : Checked Fault Superclass :=
  (Checked.both (required "name" string members)
    (Checked.both (optional "kind" .declared typeKind members)
      (optional "arguments" [] (listOf typeArgument) members))).map fun values =>
        { name := values.1, kind := values.2.1, arguments := values.2.2 }

def superclass : Check Superclass :=
  objectOf .superclass ["name", "kind", "arguments"] superclassMembers

def declarationMembers (members : List (String × Json)) : Checked Fault Declaration :=
  (Checked.both (required "module" nonemptyString members)
    (Checked.both (required "name" nonemptyString members)
      (Checked.both (optional "type_parameters" [] (listOf string) members)
        (Checked.both (optional "superclass" none (nullable superclass) members)
          (Checked.both (optional "interfaces" [] (listOf string) members)
            (optional "markers" [] (listOf marker) members)))))).map fun values =>
    { module := values.1
      name := values.2.1
      typeParameters := values.2.2.1
      superclass := values.2.2.2.1
      interfaces := NameSet.ofList values.2.2.2.2.1
      markers := MarkerSet.ofList values.2.2.2.2.2 }

def declaration : Check Declaration :=
  objectOf .declaration
    ["module", "name", "type_parameters", "superclass", "interfaces", "markers"]
    declarationMembers

/-- A manifest as the list of its declarations. -/
def manifest : Check (List Declaration) :=
  objectOf .manifest ["declarations"] (optional "declarations" [] (listOf declaration))

end Manifest

end OwnerBinding
