import OwnerBinding.Declaration

/-!
# Faults of manifests

A fault says what is wrong at a location of a manifest. The location is the path from the whole
document to the value, or to the key that is missing or not expected. Two messages depend on whether
the manifest was given as a text or as a value that is read already.
-/

namespace OwnerBinding

namespace Manifest

inductive Form where
  | text
  | value
  deriving DecidableEq, Repr

/-- One step of a location. -/
inductive Step where
  | key (name : String)
  | index (position : Nat)
  deriving DecidableEq, Repr

inductive Part where
  | manifest
  | declaration
  | superclass
  | typeArgument
  deriving DecidableEq, Repr

def Part.title : Part → String
  | .manifest => "DeclarationManifest"
  | .declaration => "DeclarationModel"
  | .superclass => "SuperclassModel"
  | .typeArgument => "TypeArgumentModel"

/-- What is wrong at a location. -/
inductive Cause where
  | notJson
  /-- A key that has to be there is not. -/
  | missing
  | notAString
  | emptyString
  | notAList
  | notAnObject (part : Part)
  /-- The value is not one of the words for a type kind. -/
  | notAKind
  /-- The value is not one of the words for a marker. -/
  | notAMarker
  | unknownKey
  /-- A type argument that needs a name has none. -/
  | unnamedArgument (kind : TypeKind)
  deriving DecidableEq, Repr

/-- Words in quotes, as alternatives. -/
def alternatives : List String → String
  | [] => ""
  | [word] => "'" ++ word ++ "'"
  | [first, last] => "'" ++ first ++ "' or '" ++ last ++ "'"
  | word :: rest => "'" ++ word ++ "', " ++ alternatives rest

namespace Cause

/-- The stable code of a cause. -/
def code : Cause → String
  | .notJson => "json_invalid"
  | .missing => "missing"
  | .notAString => "string_type"
  | .emptyString => "string_too_short"
  | .notAList => "list_type"
  | .notAnObject _ => "model_type"
  | .notAKind => "enum"
  | .notAMarker => "enum"
  | .unknownKey => "extra_forbidden"
  | .unnamedArgument _ => "value_error"

/-- The text told to the reader. A text that is not JSON is told about by its code alone. -/
def message (form : Form) : Cause → Option String
  | .notJson => none
  | .missing => some "Field required"
  | .notAString => some "Input should be a valid string"
  | .emptyString => some "String should have at least 1 character"
  | .notAList =>
      match form with
      | .text => some "Input should be a valid array"
      | .value => some "Input should be a valid list"
  | .notAnObject part =>
      match form with
      | .text => some "Input should be an object"
      | .value => some ("Input should be a valid dictionary or instance of " ++ part.title)
  | .notAKind => some ("Input should be " ++ alternatives (TypeKind.all.map TypeKind.word))
  | .notAMarker => some ("Input should be " ++ alternatives (OwnerKind.all.map OwnerKind.marker))
  | .unknownKey => some "Extra inputs are not permitted"
  | .unnamedArgument kind =>
      some ("Value error, Type argument of kind '" ++ kind.word ++ "' requires a name.")

end Cause

structure Fault where
  location : List Step
  cause : Cause
  deriving DecidableEq, Repr

/-- The fault as it is seen from one step further out. -/
def Fault.below (step : Step) (fault : Fault) : Fault :=
  { fault with location := step :: fault.location }

/-- The first line told about a manifest with faults. -/
def summary (faults : List Fault) : String :=
  "Invalid declaration manifest: " ++ toString faults.length ++ " validation "
    ++ (if faults.length = 1 then "error" else "errors") ++ " for " ++ Part.manifest.title

end Manifest

end OwnerBinding
