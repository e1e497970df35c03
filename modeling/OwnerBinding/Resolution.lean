import OwnerBinding.Declaration.Graph
import OwnerBinding.Notice
import OwnerBinding.Reported

/-!
# Resolution of bindings

The binding of an owner is found in one step. The candidates are the declared arguments of its
direct superclass that the graph knows, in order, and the binding is the first candidate that lists
the contract among its own interfaces.
-/

namespace OwnerBinding

/-- The contract that bindings implement unless another one is configured. -/
def defaultContract : String := "bindwire.contracts.ViewBinding"

/-- The declaration that an argument refers to, if it is declared in the graph. -/
def DeclarationGraph.argument? (graph : DeclarationGraph) (argument : TypeArgument) :
    Option Declaration :=
  match argument.kind, argument.name with
  | .declared, some name => graph.get? name
  | _, _ => none

/-- A graph together with the contract that bindings implement. -/
structure Resolver where
  graph : DeclarationGraph
  contract : String

namespace Resolver

/-- The declared arguments of the direct superclass in order, if the superclass is declared. -/
def candidates (resolver : Resolver) (d : Declaration) : List Declaration :=
  match d.superclass with
  | some superclass =>
      if superclass.kind = .declared then
        superclass.arguments.filterMap resolver.graph.argument?
      else []
  | none => []

/-- The first candidate that implements the contract. -/
def binding? (resolver : Resolver) (d : Declaration) : Option Declaration :=
  (resolver.candidates d).find? (·.implements resolver.contract)

/-- The failure to find a binding. -/
def notFound (resolver : Resolver) (d : Declaration) : Failure :=
  .bindingNotFound d.qualifiedName resolver.contract

/-- The binding of a declaration. Both outcomes are reported. -/
def resolve (resolver : Resolver) (d : Declaration) : Reported Notice Failure Declaration :=
  match resolver.binding? d with
  | some binding => do
      .report (.resolved binding.qualifiedName d.qualifiedName)
      return binding
  | none => do
      .report (.resolutionFailed (resolver.notFound d))
      .fail (resolver.notFound d)

theorem resolve_of_some {resolver : Resolver} {d binding : Declaration}
    (h : resolver.binding? d = some binding) :
    resolver.resolve d =
      ⟨[.resolved binding.qualifiedName d.qualifiedName], .ok binding⟩ := by
  simp only [resolve, h]
  rfl

theorem resolve_of_none {resolver : Resolver} {d : Declaration}
    (h : resolver.binding? d = none) :
    resolver.resolve d =
      ⟨[.resolutionFailed (resolver.notFound d)], .error (resolver.notFound d)⟩ := by
  simp only [resolve, h]
  rfl

end Resolver

end OwnerBinding
