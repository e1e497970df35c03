import OwnerBinding.Live.Dispatch

/-!
# Sessions

A session works on one live program: it collects a graph from its classes, generates a factory for
the graph, and calls the factory. Generating forgets the factory that was there before, and a new
one is there only if the modules that it imports exist.
-/

namespace OwnerBinding

namespace Live

/-- A program with the graph that was collected last and the factory that was generated last. -/
structure Session where
  program : Program
  graph : DeclarationGraph
  factory : Option FactoryModule

namespace Session

/-- A session on a program, without classes collected. -/
def start (program : Program) : Session :=
  { program, graph := { declarations := [] }, factory := none }

/-- Collects the classes of modules. A module that does not exist leaves the graph as it was. -/
def collect (session : Session) (modules : List String) :
    Session × Except LiveFault DeclarationGraph :=
  match session.program.collect modules with
  | .ok graph => ({ session with graph }, .ok graph)
  | .error fault => (session, .error fault)

def collectClasses (session : Session) (roots : List ClassId) : Session × DeclarationGraph :=
  let graph := session.program.table.graph roots
  ({ session with graph }, graph)

/-- Marks a class. The graph keeps what it has. -/
def mark (session : Session) (id : ClassId) (kind : OwnerKind) : Session :=
  { session with program := session.program.mark id kind }

/-- Generates a factory for the graph and loads it. -/
def generate (session : Session) (settings : Settings) :
    Session × Reported RunEvent LiveFault (Option Artifact) :=
  let run := Generation.run settings session.graph
  let without := { session with factory := none }
  match (Generation.plan settings session.graph).result with
  | .error failure => (without, ⟨run.reports, .error (.failed failure)⟩)
  | .ok none => (without, ⟨run.reports, .ok none⟩)
  | .ok (some (factory, _)) =>
      match session.program.load factory with
      | .ok () =>
          ({ session with factory := some factory },
            ⟨run.reports, .ok (some factory.artifact)⟩)
      | .error fault => (without, ⟨run.reports, .error fault⟩)

end Session

end Live

end OwnerBinding
