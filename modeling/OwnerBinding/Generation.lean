import OwnerBinding.Factory.Source
import OwnerBinding.Settings

/-!
# Generation runs

A run turns a declaration graph into a factory module. It first asks for the output directory, then
scans both kinds of owners, associates the fragment owners and after them the activity owners, and
plans the module only when both associations are complete. The module is handed over for storing
once, as the last thing of a successful run, so a failure leaves nothing behind.
-/

namespace OwnerBinding

/-- Something that a run does to the world outside. -/
inductive RunEvent where
  | noticed (notice : Notice)
  /-- Hands an artifact over for storing under a directory. -/
  | delivered (artifact : Artifact) (outputDirectory : Path)
  deriving DecidableEq, Repr

namespace Generation

/-- The version of this program, which its output names. -/
def programVersion : String := "0.1.0"

/-- The factory module for two associations, announced before it is planned. -/
def render (options : FactoryOptions) (version : Option String)
    (fragments activities : Association) : Reported Notice Failure FactoryModule := do
  .report (.rendering fragments.size activities.size)
  .ofExcept (FactoryModule.plan options version fragments activities)

/-- The factory module for the owners of a graph. -/
def renderOwners (settings : Settings) (graph : DeclarationGraph)
    (fragments activities : List ScannedOwner) : Reported Notice Failure FactoryModule := do
  let resolver : Resolver := { graph, contract := settings.bindingContract }
  let fragments ← associate resolver settings.allowOwnerOverrides fragments
  let activities ← associate resolver settings.allowOwnerOverrides activities
  render settings.factoryOptions (some programVersion) fragments activities

/-- The factory module for a graph and the directory that it is for, or nothing if no declaration is
marked. -/
def plan (settings : Settings) (graph : DeclarationGraph) :
    Reported Notice Failure (Option (FactoryModule × Path)) :=
  match settings.requireOutputDirectory with
  | .error failure => do
      .report (.notConfigured failure)
      .fail failure
  | .ok outputDirectory =>
      let fragments := scan graph.declarations .fragment
      let activities := scan graph.declarations .activity
      if fragments.isEmpty && activities.isEmpty then do
        .report .nothingMarked
        return none
      else do
        let factory ← renderOwners settings graph fragments activities
        return some (factory, outputDirectory)

/-- Hands a planned module over for storing. -/
def deliver : Option (FactoryModule × Path) → Reported RunEvent Failure (Option Artifact)
  | none => pure none
  | some (factory, outputDirectory) => do
      .report (.delivered factory.artifact outputDirectory)
      return some factory.artifact

/-- A whole run: the artifact that it stores, or nothing if no declaration is marked. -/
def run (settings : Settings) (graph : DeclarationGraph) :
    Reported RunEvent Failure (Option Artifact) := do
  let planned ← (plan settings graph).mapReports .noticed
  deliver planned

end Generation

end OwnerBinding
