import OwnerBinding.Live.Collection
import OwnerBinding.Live.Provided

/-!
# Live programs

A program has classes and modules. The packages above a module exist with it, and a package binds
what comes to exist in it, in place of what its own body bound to that name before. Classes are
collected from modules in the order in which the modules are given. A module is given by its name,
under which it has to exist, or as it is.
-/

namespace OwnerBinding

namespace Live

/-- What can go wrong in a running program. -/
inductive LiveFault where
  | moduleNotFound (module : String)
  /-- A module exists, and there is no way to it through its packages. -/
  | importFailed (name : String)
  /-- A module is no program. -/
  | invalidSyntax
  | attributeNotFound (name : String)
  | nameNotFound (name : String)
  /-- An object is used for what it is not made for. -/
  | unsuitable
  | failed (failure : Failure)
  deriving DecidableEq, Repr

/-- A module that was run: its name and what the names in it are bound to. -/
structure LiveModule where
  name : String
  entries : Namespace

/-- A module that classes are collected from, by its name or as it is. -/
inductive ModuleForm where
  | named (name : String)
  | loaded (module : LiveModule)

structure Program where
  workshop : Workshop
  modules : List (String × Namespace)

namespace Program

def table (program : Program) : ClassTable := program.workshop.table

/-- The packages above a module: every part of its name that ends before a dot. -/
def packagesAbove (module : String) : List String :=
  let components := Text.components module
  (List.range (components.length - 1)).map fun n => ".".intercalate (components.take (n + 1))

/-- The modules that exist without classes of interest. -/
def emptyModules : List String := ["bindwire", "builtins", "typing"]

/-- The namespace of a module, if the module exists. -/
def module? (program : Program) (name : String) : Option Namespace :=
  match program.modules.lookup name with
  | some entries => some entries
  | none =>
      if emptyModules.contains name ∨ program.modules.any (packagesAbove ·.1 |>.contains name) then
        some []
      else none

/-- The way to a module: the packages above it, each with the name of what is next in it. -/
def wayTo (module : String) : List (String × String) :=
  (packagesAbove module).zip (Text.components module).tail

/-- The namespaces of the modules when a module comes to exist. What did not exist on the way to it is
bound in its package. -/
def bindSubmodules (program : Program) (module : String) : List (String × Namespace) :=
  let arriving := (wayTo module).filter fun step =>
    (program.module? (step.1 ++ "." ++ step.2)).isNone
  program.modules.map fun entry =>
    (entry.1, arriving.foldl (fun entries step =>
      if step.1 = entry.1 then entries.put step.2 (.module (step.1 ++ "." ++ step.2)) else entries)
      entry.2)

def addModule (program : Program) (name : String) (items : List Item) : Program :=
  let (workshop, entries) := Item.makeAll name "" program.workshop [] items
  { workshop, modules := (name, entries) :: program.bindSubmodules name }

/-- The program before any of its own modules is run. -/
def initial : Program :=
  let empty : Program := { workshop := .language, modules := [] }
  (empty.addModule contractsModule contractItems).addModule failuresModule failureItems

/-- The module that is given in a form. -/
def given (program : Program) : ModuleForm → Except LiveFault LiveModule
  | .named name =>
      match program.module? name with
      | none => .error (.moduleNotFound name)
      | some entries => .ok { name, entries }
  | .loaded module => .ok module

/-- The modules that are given in some forms, all of which have to exist. -/
def modulesOf (program : Program) (forms : List ModuleForm) : Except LiveFault (List LiveModule) :=
  forms.mapM program.given

/-- The classes of modules, in the order of the modules. -/
def classesOf (program : Program) (modules : List LiveModule) : List ClassId :=
  modules.flatMap fun module => program.table.definedIn module.name module.entries

/-- The graph of the classes of modules. -/
def graphOf (program : Program) (forms : List ModuleForm) : Except LiveFault DeclarationGraph :=
  (program.modulesOf forms).map fun modules => program.table.graph (program.classesOf modules)

/-- The graph of the classes of modules that are given by their names. -/
def collect (program : Program) (names : List String) : Except LiveFault DeclarationGraph :=
  program.graphOf (names.map .named)

/-- The program with one more marker on a class. -/
def mark (program : Program) (id : ClassId) (kind : OwnerKind) : Program :=
  { program with
    workshop := { program.workshop with table := program.table.mark id kind } }

end Program

end Live

end OwnerBinding
