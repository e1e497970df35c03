import OwnerBinding.Artifact
import OwnerBinding.Factory.Plan
import OwnerBinding.Text.Template

/-!
# Text of factory modules

The text of a module is rendered from templates: one for the module, one for its imports, one for the
class and one for each dispatch method. What is rendered from one of them is put into the next as a
block. The blocks of imports and methods are stripped first, and a block that stands inside another
is indented as a whole by `Text.indent`, so a name with line breaks in it is indented at each of
them. Names are written as they are, without any escaping.
-/

namespace OwnerBinding

def margin : String := "    "

namespace Branch

/-- The type of the owner as an annotation: generic types have a wildcard for each parameter. -/
def ownerText (branch : Branch) : String :=
  if 0 < branch.arity then branch.owner.text ++ wildcards branch.arity else branch.owner.text

/-- The test of the branch and the call behind it. -/
def bodyLines (branch : Branch) : List String :=
  ["if isinstance(view_owner, " ++ branch.owner.text ++ "):",
    margin ++ "return " ++ branch.binding.text
      ++ ".inflate(view_owner.layout_inflater, container, False)"]

end Branch

namespace DispatchMethod

/-- The annotations of the owner and of the result in one overload. -/
structure OverloadValues where
  owner : String
  result : String

/-- What the text of a dispatch method shows. -/
structure Values where
  overloads : List OverloadValues
  name : String
  owner : String
  container : String
  result : String
  docstring : String
  body : String

/-- The overloads of a method, its signature with a docstring, and its body. -/
def template : Template Values OverloadValues :=
  [.each (·.overloads)
      [[.text "@overload"],
        [.text "@staticmethod"],
        [.text "def ", .place (·.1.name), .text "("],
        [.text "    view_owner: ", .place (·.2.owner), .text ","],
        [.text "    container: ", .place (·.1.container), .text ","],
        [.text ") -> ", .place (·.2.result), .text ": ..."],
        []],
    .line [.text "@staticmethod"],
    .line [.text "def ", .place (·.name), .text "("],
    .line [.text "    view_owner: ", .place (·.owner), .text ","],
    .line [.text "    container: ", .place (·.container), .text ","],
    .line [.text ") -> ", .place (·.result), .text ":"],
    .line [.text "    \"\"\"", .place (·.docstring), .text "\"\"\""],
    .line [.place (·.body)]]

/-- Whether the branches are told apart by overloads. -/
def isOverloaded (method : DispatchMethod) : Bool := 2 ≤ method.branches.length

/-- The annotations of the owner and of the result in the signature of the method itself. A single
branch has its own types there. -/
def signature (method : DispatchMethod) : String × String :=
  match method.branches with
  | [branch] => (branch.ownerText, branch.binding.text)
  | _ => (method.ownerBase.text, method.contract.text)

/-- The branches in order, and the failure behind them. -/
def bodyLines (method : DispatchMethod) : List String :=
  method.branches.flatMap Branch.bodyLines ++
    ["msg = f\"Binder not found for \x7bview_owner!r\x7d\"",
      "raise " ++ method.failure.text ++ "(msg)"]

def values (method : DispatchMethod) : Values where
  overloads :=
    if method.isOverloaded then
      method.branches.map fun branch =>
        { owner := branch.ownerText, result := branch.binding.text }
    else []
  name := method.kind.methodName
  owner := method.signature.1
  container := method.container.text ++ " | None"
  result := method.signature.2
  docstring := "Create the binding registered for the " ++ method.kind.noun ++ "'s dynamic type."
  body := Text.indent margin (Text.joinLines method.bodyLines)

/-- The text of the method, without indentation of its own. -/
def text (method : DispatchMethod) : String :=
  Text.strip (Template.render method.values template)

end DispatchMethod

namespace FactoryModule

def method (m : FactoryModule) : OwnerKind → DispatchMethod
  | .fragment => m.fragment
  | .activity => m.activity

/-- The dispatch methods in the order of the text. -/
def methods (m : FactoryModule) : List DispatchMethod := [m.fragment, m.activity]

/-- The text at the head of the module. -/
def docstring (m : FactoryModule) : String :=
  Text.joinLines
    ["\"\"\"Generated binding factory module.",
      "",
      "Generated by: bindwire.templates.renderer.FactoryTemplateRenderer.render",
      "bindwire version used for generation: " ++ m.version.getD "unknown",
      "",
      "Dispatch branches:",
      "- fragment owners: " ++ toString m.fragment.branches.length,
      "- activity owners: " ++ toString m.activity.branches.length,
      "\"\"\""]

/-- The names of the typing module that the annotations and overloads use, in order. -/
def typingNames (m : FactoryModule) : List String :=
  (if m.methods.any fun method => method.branches.any fun branch => 0 < branch.arity then ["Any"]
    else []) ++
  (if m.methods.any DispatchMethod.isOverloaded then ["overload"] else [])

/-- What the import block shows. -/
structure ImportValues where
  typingNames : List String
  imports : List (String × String)

/-- The import of the typing names, if there are any, and that of each module under its alias. -/
def importTemplate : Template ImportValues (String × String) :=
  [.line [.text "from __future__ import annotations"],
    .given (fun values => !values.typingNames.isEmpty)
      [[],
        [.text "from typing import ", .place fun values => ", ".intercalate values.typingNames]],
    .line [],
    .each (·.imports) [[.text "import ", .place (·.2.1), .text " as ", .place (·.2.2)]]]

def importBlock (m : FactoryModule) : String :=
  Text.strip
    (Template.render { typingNames := m.typingNames, imports := m.imports } importTemplate)

/-- What the class shows. -/
structure ClassValues where
  name : String
  docstring : String
  methods : String

def classTemplate : Template ClassValues Empty :=
  [.line [.text "class ", .place (·.name), .text ":"],
    .line [.text "    \"\"\"", .place (·.docstring), .text "\"\"\""],
    .line [],
    .line [.place (·.methods)]]

def classBlock (m : FactoryModule) : String :=
  Template.render
    { name := m.options.className
      docstring := "Create view bindings for marked view owners."
      methods := "\n\n".intercalate
        (m.methods.map fun method => Text.indent margin method.text) }
    classTemplate

/-- What the module shows. -/
structure SourceValues where
  docstring : String
  imports : String
  classBlock : String
  className : String

def sourceTemplate : Template SourceValues Empty :=
  [.line [.place (·.docstring)],
    .line [],
    .line [.place (·.imports)],
    .line [],
    .line [],
    .line [.place (·.classBlock)],
    .line [],
    .line [],
    .line [.text "__all__ = [\"", .place (·.className), .text "\"]"]]

def source (m : FactoryModule) : String :=
  Template.render
    { docstring := m.docstring
      imports := m.importBlock
      classBlock := m.classBlock
      className := m.options.className }
    sourceTemplate ++ "\n"

def artifact (m : FactoryModule) : Artifact where
  package := m.options.package
  module := m.options.module
  source := m.source
  fragmentBranches := m.fragment.branches.length
  activityBranches := m.activity.branches.length

end FactoryModule

end OwnerBinding
