import OwnerBinding.Association
import OwnerBinding.Factory.Alias

/-!
# Plans of factory modules

The plan of a factory module has everything that its text shows: the imports, and for each owner
kind a dispatch method with one branch per entry of the association, in the order of the
association. All types stand in it as references below the aliases of the imports.

Which modules are imported is decided from the associations alone (`importedModules`); which types
the methods refer to is decided where the methods are planned (`DispatchMethod.plan`). The plan
fails if a referred module is not imported.
-/

namespace OwnerBinding

/-- The types that every factory module is written against. -/
def containerType : TypeName := { module := "bindwire.contracts", name := "ViewGroup" }

/-- The failure that a dispatch without a matching branch ends in. -/
def dispatchFailureType : TypeName :=
  { module := "bindwire.exceptions", name := "BindingNotFoundAtRuntimeError" }

namespace OwnerKind

/-- The type that all owners of a kind derive from. -/
def base : OwnerKind → TypeName
  | .fragment => { module := "bindwire.contracts", name := "Fragment" }
  | .activity => { module := "bindwire.contracts", name := "FragmentActivity" }

def methodName : OwnerKind → String
  | .fragment => "get_fragment_binding"
  | .activity => "get_activity_binding"

/-- The word for an owner of a kind in running text. -/
def noun : OwnerKind → String
  | .fragment => "fragment"
  | .activity => "activity"

end OwnerKind

/-- How a factory module is named and what its bindings implement. -/
structure FactoryOptions where
  className : String
  package : String
  module : String
  contract : String
  deriving DecidableEq, Repr

/-- The names used unless others are configured. -/
def FactoryOptions.default : FactoryOptions where
  className := "BindingFactory"
  package := "factory"
  module := "binding_factory"
  contract := defaultContract

/-- One branch of a dispatch: owners of a type get a binding. -/
structure Branch where
  owner : Reference
  arity : Int
  binding : Reference
  deriving DecidableEq, Repr

structure DispatchMethod where
  kind : OwnerKind
  ownerBase : Reference
  contract : Reference
  container : Reference
  failure : Reference
  branches : List Branch
  deriving DecidableEq, Repr

/-- A factory module before it is written out. -/
structure FactoryModule where
  options : FactoryOptions
  /-- The version of the generating program, if it is known. -/
  version : Option String
  imports : List (String × String)
  fragment : DispatchMethod
  activity : DispatchMethod
  deriving DecidableEq, Repr

/-- The modules named by the entries of one association. The base of the owner kind is among them
unless there is exactly one entry, whose own types then stand in its place. -/
def associationModules (kind : OwnerKind) (association : Association) : List String :=
  (if association.size = 1 then [] else [kind.base.module]) ++
    association.entries.flatMap fun entry => [entry.1.module, entry.2.module]

def importedModules (contract : String) (fragments activities : Association) : List String :=
  [containerType.module, dispatchFailureType.module,
      (TypeName.ofQualifiedName contract).module] ++
    associationModules .fragment fragments ++ associationModules .activity activities

def Branch.plan (aliases : ModuleAliases) (entry : Association.Entry) : Except Failure Branch := do
  let owner ← aliases.reference entry.1.toTypeName
  let binding ← aliases.reference entry.2.toTypeName
  return { owner, arity := entry.1.arity, binding }

def DispatchMethod.plan (aliases : ModuleAliases) (contract : String) (kind : OwnerKind)
    (association : Association) : Except Failure DispatchMethod := do
  let ownerBase ← aliases.reference kind.base
  let contract ← aliases.referenceQualified contract
  let container ← aliases.reference containerType
  let failure ← aliases.reference dispatchFailureType
  let branches ← association.entries.mapM (Branch.plan aliases)
  return { kind, ownerBase, contract, container, failure, branches }

/-- The factory module for the associations of both kinds. -/
def FactoryModule.plan (options : FactoryOptions) (version : Option String)
    (fragments activities : Association) : Except Failure FactoryModule := do
  let aliases := ModuleAliases.ofModules (importedModules options.contract fragments activities)
  let fragment ← DispatchMethod.plan aliases options.contract .fragment fragments
  let activity ← DispatchMethod.plan aliases options.contract .activity activities
  return { options, version, imports := aliases.imports, fragment, activity }

end OwnerBinding
