/-!
# Failures of a run

The causes for which a run, a lookup or a dispatch is given up, each with what is needed to tell the
reader about it, and the wording in `Failure.message`.
-/

namespace OwnerBinding

inductive Failure where
  /-- A failure without a more specific cause. -/
  | unspecified (text : String)
  /-- A marked owner has no argument that implements the contract. -/
  | bindingNotFound (declaration contract : String)
  /-- No output directory is configured; the option that sets it is named. -/
  | missingOutputDirectory (option : String)
  /-- Two owners of one type resolve to different bindings. -/
  | ownerTypeConflict (ownerType existing incoming : String)
  /-- A graph holds no declaration of the name. -/
  | unknownDeclaration (name : String)
  | invalidManifest (text : String)
  /-- A dispatch has no branch for its owner. -/
  | ownerNotRegistered (text : String)
  /-- A reference names a module that is not imported. -/
  | moduleNotImported (module : String)
  deriving DecidableEq, Repr

namespace Failure

def message : Failure → String
  | .unspecified text => text
  | .bindingNotFound declaration contract =>
      declaration ++ " should have a parent class with a generic argument implementing "
        ++ contract ++ ", for example Base[T] where T implements " ++ contract ++ "."
  | .missingOutputDirectory option =>
      "Output directory is not configured; set the '" ++ option ++ "' option."
  | .ownerTypeConflict ownerType existing incoming =>
      "Owner type " ++ ownerType ++ " is already bound to " ++ existing
        ++ "; refusing to rebind it to " ++ incoming ++ "."
  | .unknownDeclaration name =>
      "Declaration '" ++ name ++ "' is not part of the declaration graph."
  | .invalidManifest text => text
  | .ownerNotRegistered text => text
  | .moduleNotImported module => module

end Failure

end OwnerBinding
