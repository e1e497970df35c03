import OwnerBinding.Generation
import OwnerBinding.Live.Instance
import OwnerBinding.Text.Normalization
import OwnerBinding.View

/-!
# Running factory modules

A factory module is run in a program: its imports need their modules to exist, and its statements
bind names one after the other, the last one for a name being the one that counts. All names of it are
identifiers, and two of them are the same if their normalization forms are. A dispatch goes through
the branches of a method from the first to the last. Each reference is looked up when its branch is
reached, from its alias on through the namespaces of modules and classes, so what it finds is what the
program has bound there by then.

An import goes to its module through the packages above it. What a package has bound to the name of a
module below it is what the import gives.

The first branch whose class the owner is an instance of makes the binding, with the inflater of the
owner and without attaching it. Behind the last branch stands the failure.
-/

namespace OwnerBinding

/-- What a name of a factory module stands for. -/
inductive GlobalBinding where
  /-- An imported module. -/
  | importedModule (name : String)
  /-- The class of the factory. -/
  | factory
  /-- Anything that no dispatch is meant to use. -/
  | other
  deriving DecidableEq, Repr

namespace FactoryModule

/-- The name that the class of a factory module is bound to. -/
def className (m : FactoryModule) : String := Text.normalized m.options.className

/-- The names that the statements of a factory module bind, in their order. -/
def globals (m : FactoryModule) : List (String × GlobalBinding) :=
  ("annotations", .other) :: m.typingNames.map (fun name => (name, .other)) ++
    m.imports.map (fun entry => (entry.2, .importedModule entry.1)) ++
    [(m.className, .factory), ("__all__", .other)]

/-- What a name stands for once the module has run. -/
def global? (m : FactoryModule) (name : String) : Option GlobalBinding :=
  m.globals.reverse.lookup name

/-- The name that is looked up for one that is written inside the class of the factory: a name that
starts with two low lines and does not end with two is private to the class, and gets the name of the
class in front. -/
def privateName (m : FactoryModule) (name : String) : String :=
  let name := Text.normalized name
  let owner := m.className.toList.dropWhile (· == '_')
  let chars := name.toList
  if ['_', '_'].isPrefixOf chars && !(['_', '_'].isSuffixOf chars) && !owner.isEmpty then
    String.ofList ('_' :: owner ++ chars)
  else name

end FactoryModule

namespace Live

/-- What an expression of a factory module gives. -/
inductive Target where
  | value (v : Value)
  | module (name : String)
  | factory

/-- What a name that is bound to a value gives. -/
def Target.ofValue : Value → Target
  | .module name => .module name
  | plain => .value plain

/-- What a dispatch leaves behind: the store of the objects, and those of interest in it. -/
structure Dispatched where
  store : ViewStore
  owner : ViewId
  container : Option ViewId
  binding : ViewId

namespace Program

/-- What an attribute of a class is bound to, in the nearest class that binds it. -/
def classAttribute? (program : Program) (id : ClassId) (name : String) : Option Value :=
  (program.table.lookupOrder id).findSome? fun ancestor =>
    (program.table.get ancestor).attributes.lookup name

/-- An attribute of a module: what its namespace binds, or else a module below it. -/
def moduleAttribute? (program : Program) (module name : String) : Option Value :=
  match (program.module? module).bind (·.lookup name) with
  | some value => some value
  | none =>
      let below := module ++ "." ++ name
      if (program.module? below).isSome then some (.module below) else none

/-- An attribute of what an expression gave. -/
def select (program : Program) (m : FactoryModule) (target : Target) (name : String) :
    Except LiveFault Target :=
  let found : Option Target :=
    match target with
    | .module module => (program.moduleAttribute? module name).map .ofValue
    | .value (.cls id _) => (program.classAttribute? id name).map .ofValue
    | .value _ => none
    | .factory =>
        if m.methods.any fun method => method.kind.methodName == name then some (.value .other)
        else none
  match found with
  | some value => .ok value
  | none => .error (.attributeNotFound name)

/-- One step of an import, from what the steps before it gave. What has no attribute of the name is
taken for a package by its own name. -/
def importFrom (program : Program) (m : FactoryModule) (target : Target) (name : String) :
    Except LiveFault Target :=
  match program.select m target name with
  | .ok found => .ok found
  | .error _ =>
      match target with
      | .value (.cls id _) =>
          let below := (Text.splitLast (program.table.get id).name).2 ++ "." ++ name
          if (program.module? below).isSome then .ok (.module below)
          else .error (.importFailed name)
      | _ => .error (.importFailed name)

/-- The packages and the module that an import of a module goes through. -/
def importNames (module : String) : List String := (Text.components module).map Text.normalized

/-- What the import of a module gives to its alias. -/
def importModule (program : Program) (m : FactoryModule) (module : String) :
    Except LiveFault Target :=
  let names := importNames module
  match program.module? (".".intercalate names), names with
  | some _, package :: rest => rest.foldlM (program.importFrom m) (.module package)
  | _, _ => .error (.moduleNotFound module)

/-- What a name gives that stands by itself. -/
def lookupName (program : Program) (m : FactoryModule) (name : String) :
    Except LiveFault Target :=
  match m.global? name with
  | some (.importedModule module) => program.importModule m module
  | some .factory => .ok .factory
  | some .other => .ok (.value .other)
  | none =>
      match program.workshop.provided? name with
      | some id => .ok (.value (.cls id []))
      | none => .error (.nameNotFound name)

/-- What a reference gives when it is evaluated inside the class of the factory. -/
def evaluate (program : Program) (m : FactoryModule) (reference : Reference) :
    Except LiveFault Target :=
  let names := (reference.alias?.toList ++ Text.components reference.name).map m.privateName
  match names with
  | [] => .error .unsuitable
  | first :: rest => do
      let start ← program.lookupName m first
      rest.foldlM (program.select m) start

/-- Whether an object is an instance of what a reference gave. Only classes can be asked for, and
classes that only describe others cannot, unless they are the class of the object itself. -/
def isInstance (program : Program) (object : Instance) : Target → Except LiveFault Bool
  | .value (.cls id []) =>
      if object.cls = id then .ok true
      else if id = anyId || program.isDescriptive id then .error .unsuitable
      else .ok (program.table.inherits object.cls id)
  | _ => .error .unsuitable

/-- Makes the binding of a branch for an owner. -/
def inflate (program : Program) (binding : Target) (owner : Instance) (withContainer : Bool) :
    Except LiveFault Dispatched :=
  match binding with
  | .value (.cls id _) =>
      if !program.inheritsContract id "ViewBinding" then .error (.attributeNotFound "inflate")
      else if !owner.holdsInflater then .error (.attributeNotFound "layout_inflater")
      else do
        program.checkBinding id
        let (ownerView, store) := ViewStore.empty.addOwner none
        let (container, store) :=
          if withContainer then
            let (group, store) := store.add (.group [])
            (some group, store)
          else (none, store)
        match store.inflate (program.table.fullName id) (store.inflaterOf? ownerView) container
            false with
        | some (made, store) => .ok { store, owner := ownerView, container, binding := made }
        | none => .error (.attributeNotFound "add_view")
  | _ => .error (.attributeNotFound "inflate")

/-- Goes through branches for an owner and gives the binding of the first one that accepts it. -/
def firstBinding (program : Program) (m : FactoryModule) (owner : Instance) :
    List Branch → Except LiveFault (Option Target)
  | [] => .ok none
  | branch :: rest => do
      let cls ← program.evaluate m branch.owner
      if (m.global? "isinstance").isSome then throw .unsuitable
      if ← program.isInstance owner cls then
        let binding ← program.evaluate m branch.binding
        return some binding
      else program.firstBinding m owner rest

/-- The name that no statement can bind. -/
def unassignableName : String := "__debug__"

/-- Loads a factory module, which imports its modules. -/
def load (program : Program) (m : FactoryModule) : Except LiveFault Unit := do
  if m.className = unassignableName then throw .invalidSyntax
  m.imports.forM fun entry => discard (program.importModule m entry.1)

/-- Calls the dispatch method of an owner kind. -/
def dispatch (program : Program) (m : FactoryModule) (kind : OwnerKind) (owner : Instance)
    (withContainer : Bool) : Except LiveFault Dispatched := do
  if m.global? m.className ≠ some .factory then
    throw (.attributeNotFound kind.methodName)
  let method := m.method kind
  match ← program.firstBinding m owner method.branches with
  | some binding => program.inflate binding owner withContainer
  | none =>
      let _ ← program.evaluate m method.failure
      throw (.failed (.ownerNotRegistered ("Binder not found for " ++ owner.shown)))

end Program

end Live

end OwnerBinding
