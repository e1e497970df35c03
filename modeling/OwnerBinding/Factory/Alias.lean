import OwnerBinding.Failure
import OwnerBinding.Text.NameSet
import OwnerBinding.TypeName

/-!
# Module aliases

A factory module imports every module under a numbered alias, in the order of the module names, so a
reference in it never starts with the name of a package that something else could hide. The numbers
follow the sorted set of the imported modules. The empty module is never imported: its types are
referred to by their bare names.
-/

namespace OwnerBinding

/-- An expression of the factory module that refers to a type: a dotted name, below an alias if the
type belongs to a module. -/
structure Reference where
  alias? : Option String
  name : String
  deriving DecidableEq, Repr

def Reference.text (reference : Reference) : String :=
  match reference.alias? with
  | some short => short ++ "." ++ reference.name
  | none => reference.name

structure ModuleAliases where
  modules : NameSet

namespace ModuleAliases

/-- The imports of all modules of a list that have a name. -/
def ofModules (modules : List String) : ModuleAliases where
  modules := NameSet.ofList (modules.filter fun m => !m.isEmpty)

def aliasAt (index : Nat) : String := "_m" ++ toString index

def alias? (aliases : ModuleAliases) (module : String) : Option String :=
  (aliases.modules.toList.idxOf? module).map aliasAt

/-- The imported modules with their aliases, in order. -/
def imports (aliases : ModuleAliases) : List (String × String) :=
  aliases.modules.toList.zipIdx.map fun entry => (entry.1, aliasAt entry.2)

/-- The reference to a type. Its module has to be imported, unless it has none. -/
def reference (aliases : ModuleAliases) (t : TypeName) : Except Failure Reference :=
  if t.module.isEmpty then .ok { alias? := none, name := t.name }
  else
    match aliases.alias? t.module with
    | some short => .ok { alias? := some short, name := t.name }
    | none => .error (.moduleNotImported t.module)

/-- The reference to the type that a qualified name is read as. -/
def referenceQualified (aliases : ModuleAliases) (name : String) : Except Failure Reference :=
  aliases.reference (TypeName.ofQualifiedName name)

theorem mem_modules_ofModules (modules : List String) (module : String) :
    module ∈ (ofModules modules).modules ↔ module ∈ modules ∧ module ≠ "" := by
  simp [ofModules]

end ModuleAliases

end OwnerBinding
