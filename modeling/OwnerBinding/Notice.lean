import OwnerBinding.Failure

/-!
# Notices

What a run tells about itself while it goes on. A notice is told at a level, by one of four speakers
that are named by dotted names, and with a text.
-/

namespace OwnerBinding

inductive Level where
  | debug
  | info
  | warning
  | error
  deriving DecidableEq, Repr

def Level.word : Level → String
  | .debug => "DEBUG"
  | .info => "INFO"
  | .warning => "WARNING"
  | .error => "ERROR"

inductive Notice where
  /-- A binding was found for a declaration. -/
  | resolved (binding declaration : String)
  /-- An owner type was bound to another binding than before. -/
  | rebound (ownerType existing incoming : String)
  /-- A binding could not be found, or was refused. -/
  | resolutionFailed (failure : Failure)
  /-- The run could not begin. -/
  | notConfigured (failure : Failure)
  | nothingMarked
  /-- A factory module with these numbers of branches is written out. -/
  | rendering (fragments activities : Nat)
  | stored (module path : String)
  deriving DecidableEq, Repr

namespace Notice

def level : Notice → Level
  | .resolved _ _ => .debug
  | .rebound _ _ _ => .warning
  | .resolutionFailed _ => .error
  | .notConfigured _ => .error
  | .nothingMarked => .info
  | .rendering _ _ => .info
  | .stored _ _ => .info

def speaker : Notice → String
  | .resolved _ _ => "bindwire.resolver"
  | .rebound _ _ _ => "bindwire.resolver"
  | .resolutionFailed _ => "bindwire.resolver"
  | .notConfigured _ => "bindwire.processor"
  | .nothingMarked => "bindwire.processor"
  | .rendering _ _ => "bindwire.templates.renderer"
  | .stored _ _ => "bindwire.artifacts"

def message : Notice → String
  | .resolved binding declaration => "Resolved binding " ++ binding ++ " for " ++ declaration
  | .rebound ownerType existing incoming =>
      "Owner type " ++ ownerType ++ " rebound from " ++ existing ++ " to " ++ incoming
  | .resolutionFailed failure => failure.message
  | .notConfigured failure => failure.message
  | .nothingMarked => "No marked owner declarations; skipping binding factory generation"
  | .rendering fragments activities =>
      "Binding factory codegen: fragment_owner_count=" ++ toString fragments
        ++ " activity_owner_count=" ++ toString activities
  | .stored module path => "Wrote " ++ module ++ " to " ++ path

end Notice

end OwnerBinding
