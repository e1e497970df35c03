import OwnerBinding.Factory.Source
import OwnerBinding.Proofs.Factory.Reference
import OwnerBinding.Proofs.Text.Lines

/-!
# Blocks of factory modules

What the templates come to, whatever names are put into them: each block is the text of its lines,
joined (`DispatchMethod.text_eq_blocks`, `FactoryModule.importBlock_eq`, `FactoryModule.source_eq_blocks`).
The blocks that are stripped begin and end visibly, so all that they lose is the end of the last
import. For the imports this takes an alias at their end, which a planned module always has.
-/

namespace OwnerBinding

namespace DispatchMethod

/-- The parameters of the method, with a given annotation for the owner. -/
def parameterLines (method : DispatchMethod) (ownerText : String) : List String :=
  ["@staticmethod",
    "def " ++ method.kind.methodName ++ "(",
    margin ++ "view_owner: " ++ ownerText ++ ",",
    margin ++ "container: " ++ method.container.text ++ " | None,"]

/-- The overload of one branch, with an empty line behind it. -/
def overloadLines (method : DispatchMethod) (branch : Branch) : List String :=
  ["@overload"] ++ method.parameterLines branch.ownerText ++
    [") -> " ++ branch.binding.text ++ ": ...", ""]

/-- The overloads of a method with two branches or more. -/
def overloads (method : DispatchMethod) : List String :=
  if method.isOverloaded then method.branches.flatMap method.overloadLines else []

/-- The signature of the method and its docstring. -/
def headLines (method : DispatchMethod) : List String :=
  method.parameterLines method.signature.1 ++
    [") -> " ++ method.signature.2 ++ ":",
      margin ++ "\"\"\"Create the binding registered for the " ++ method.kind.noun
        ++ "'s dynamic type.\"\"\""]

theorem parameterLines_eq (method : DispatchMethod) (ownerText : String) :
    method.parameterLines ownerText =
      ["@staticmethod",
        "def " ++ (method.kind.methodName ++ "("),
        "    view_owner: " ++ (ownerText ++ ","),
        "    container: " ++ (method.container.text ++ (" | None" ++ ","))] := by
  have howner : margin ++ "view_owner: " = "    view_owner: " := by decide
  have hcontainer : margin ++ "container: " = "    container: " := by decide
  have hnone : " | None" ++ "," = " | None," := by decide
  simp only [parameterLines, howner, hcontainer, hnone, String.append_assoc]

theorem overloadLines_eq (method : DispatchMethod) (branch : Branch) :
    method.overloadLines branch =
      ["@overload",
        "@staticmethod",
        "def " ++ (method.kind.methodName ++ "("),
        "    view_owner: " ++ (branch.ownerText ++ ","),
        "    container: " ++ (method.container.text ++ (" | None" ++ ",")),
        ") -> " ++ (branch.binding.text ++ ": ..."),
        ""] := by
  simp only [overloadLines, parameterLines_eq, String.append_assoc, List.cons_append,
    List.nil_append]

theorem headLines_eq (method : DispatchMethod) :
    method.headLines =
      ["@staticmethod",
        "def " ++ (method.kind.methodName ++ "("),
        "    view_owner: " ++ (method.signature.1 ++ ","),
        "    container: " ++ (method.container.text ++ (" | None" ++ ",")),
        ") -> " ++ (method.signature.2 ++ ":"),
        "    \"\"\"" ++ ("Create the binding registered for the " ++
          (method.kind.noun ++ ("'s dynamic type." ++ "\"\"\"")))] := by
  have hopen : margin ++ "\"\"\"Create the binding registered for the " =
      "    \"\"\"" ++ "Create the binding registered for the " := by decide
  have hclose : "'s dynamic type.\"\"\"" = "'s dynamic type." ++ "\"\"\"" := by decide
  simp only [headLines, parameterLines_eq, hopen, hclose, String.append_assoc, List.cons_append,
    List.nil_append]

theorem lines_template (method : DispatchMethod) :
    template.flatMap (Template.Part.lines method.values) =
      method.overloads ++ method.headLines ++
        [Text.indent margin (Text.joinLines method.bodyLines)] := by
  have hoverload : method.overloadLines = _ := funext method.overloadLines_eq
  rw [overloads, hoverload, headLines_eq]
  cases h : method.isOverloaded <;>
    simp [template, values, h, Template.Part.lines, Template.renderLine, Template.Piece.render,
      List.flatMap_map, String.append_assoc]

/-- The text of a method is not touched by the stripping. -/
theorem text_eq_blocks (method : DispatchMethod) :
    method.text = Text.joinLines (method.overloads ++ method.headLines ++
      [Text.indent margin (Text.joinLines method.bodyLines)]) := by
  have hrender : Template.render method.values template = Text.joinLines
      (method.overloads ++ method.headLines ++
        [Text.indent margin (Text.joinLines method.bodyLines)]) := by
    rw [Template.render_eq_joinLines _ rfl, lines_template]
  -- The text ends as the failure behind the branches does.
  have hlast : (Text.indent margin (Text.joinLines method.bodyLines)).toList.getLast? =
      some ')' := by
    rw [Text.getLast?_indent, bodyLines, List.append_cons, Text.getLast?_joinLines _ (by simp),
      String.toList_append, List.getLast?_append_of_ne_nil _ (by decide)]
    decide
  have hbody : Text.indent margin (Text.joinLines method.bodyLines) ≠ "" := by
    intro hempty
    rw [hempty] at hlast
    cases hlast
  have hgetLast := Text.getLast?_joinLines (method.overloads ++ method.headLines) hbody
  rw [hlast] at hgetLast
  have hhead : (Text.joinLines (method.overloads ++ method.headLines ++
      [Text.indent margin (Text.joinLines method.bodyLines)])).toList.head? = some '@' := by
    rw [overloads]
    split
    · cases method.branches with
      | nil => exact Text.head?_joinLines _ (by decide)
      | cons branch rest => exact Text.head?_joinLines _ (by decide)
    · exact Text.head?_joinLines _ (by decide)
  have hstrip := Text.strip_append hhead (by decide) hgetLast (by decide)
    fun c (hc : c ∈ "".toList) => absurd hc (by simp)
  rw [String.append_empty] at hstrip
  rw [text, hrender, hstrip]

end DispatchMethod

namespace FactoryModule

/-- The import of the typing names, with an empty line before it, if there are any. -/
def typingLines (m : FactoryModule) : List String :=
  match m.typingNames with
  | [] => []
  | names => ["", "from typing import " ++ ", ".intercalate names]

theorem typingNames_subset (m : FactoryModule) : m.typingNames ⊆ ["Any", "overload"] := by
  rw [typingNames]
  split <;> split <;> decide

/-- The import of a module under its alias. -/
def importLine (entry : String × String) : String :=
  "import " ++ entry.1 ++ " as " ++ entry.2

/-- The lines of the import block. -/
def importLines (m : FactoryModule) : List String :=
  ["from __future__ import annotations"] ++ m.typingLines ++ [""] ++ m.imports.map importLine

/-- The import block of the module ends with an alias. -/
def EndsInAlias (m : FactoryModule) : Prop :=
  ∃ before module index, m.imports = before ++ [(module, ModuleAliases.aliasAt index)]

theorem lines_importTemplate (m : FactoryModule) :
    importTemplate.flatMap
      (Template.Part.lines { typingNames := m.typingNames, imports := m.imports }) =
        m.importLines := by
  have hline : importLine = fun entry => "import " ++ (entry.1 ++ (" as " ++ entry.2)) := by
    funext entry
    simp only [importLine, String.append_assoc]
  rw [importLines, typingLines, hline, List.map_eq_flatMap]
  cases m.typingNames <;>
    simp [importTemplate, Template.Part.lines, Template.renderLine, Template.Piece.render]

/-- All that the stripping takes from the import block is the end of the last import. -/
theorem importBlock_eq {m : FactoryModule} (h : m.EndsInAlias) :
    m.importBlock = Text.joinLines m.importLines := by
  have hne : m.importLines ≠ [] := by simp [importLines]
  have hrender : Template.render { typingNames := m.typingNames, imports := m.imports }
      importTemplate = Template.endLines m.importLines := by
    rw [Template.render_eq_endLines _ rfl, lines_importTemplate]
  obtain ⟨before, module, index, himports⟩ := h
  have halias : (ModuleAliases.aliasAt index).toList ≠ [] := by
    simp [ModuleAliases.toList_aliasAt]
  have hvisible := ModuleAliases.isBlank_of_mem_aliasAt (List.getLast_mem halias)
  have hgetLast : (Text.joinLines m.importLines).toList.getLast? =
      some ((ModuleAliases.aliasAt index).toList.getLast halias) := by
    rw [importLines, himports, List.map_append, ← List.append_assoc, List.map_singleton,
      Text.getLast?_joinLines _ (by simp [importLine]), importLine, String.toList_append,
      List.getLast?_append_of_ne_nil _ halias, List.getLast?_eq_some_getLast halias]
  have hlines : m.importLines = "from __future__ import annotations" ::
      (m.typingLines ++ [""] ++ m.imports.map importLine) := by simp [importLines]
  have hhead : (Text.joinLines m.importLines).toList.head? = some 'f' := by
    rw [hlines, Text.head?_joinLines _ (by decide)]
    decide
  have hfeed : ∀ c ∈ "\n".toList, Text.isBlank c = true := by
    intro c hc
    rw [List.mem_singleton.1 hc]
    decide
  rw [importBlock, hrender, Template.endLines_eq_joinLines hne]
  exact Text.strip_append hhead (by decide) hgetLast hvisible hfeed

/-- The module of the container is always imported, so there is a last import. -/
theorem endsInAlias_ofAssociations (options : FactoryOptions) (version : Option String)
    (fragments activities : Association) :
    (ofAssociations options version fragments activities).EndsInAlias := by
  have hmem : containerType.module ∈
      (aliases options.contract fragments activities).modules.toList := by
    rw [aliases]
    exact (ModuleAliases.mem_modules_ofModules _ _).2 ⟨by simp [importedModules], by decide⟩
  rw [EndsInAlias, imports_ofAssociations, ModuleAliases.imports]
  rcases List.eq_nil_or_concat (aliases options.contract fragments activities).modules.toList
    with hnil | ⟨before, module, hmodules⟩
  · rw [hnil] at hmem
    cases hmem
  · rw [hmodules, List.concat_eq_append, List.zipIdx_append]
    exact ⟨_, module, _, by rw [List.map_append]; rfl⟩

/-- The class is its head and its methods, each as one indented block. -/
theorem classBlock_eq_blocks (m : FactoryModule) :
    m.classBlock = Text.joinLines
      ["class " ++ m.options.className ++ ":",
        margin ++ "\"\"\"Create view bindings for marked view owners.\"\"\"",
        "",
        Text.indent margin m.fragment.text,
        "",
        Text.indent margin m.activity.text] := by
  have hempty : "\n\n" = "\n" ++ "\n" := by decide
  have hmethods : "\n\n".intercalate (m.methods.map fun method => Text.indent margin method.text) =
      Text.joinLines [Text.indent margin m.fragment.text, "", Text.indent margin m.activity.text] := by
    simp only [methods, List.map_cons, List.map_nil, String.intercalate_cons_cons,
      String.intercalate_singleton, Text.joinLines, hempty, String.append_assoc,
      String.empty_append]
  have hdocstring : margin ++ "\"\"\"Create view bindings for marked view owners.\"\"\"" =
      "    \"\"\"" ++ ("Create view bindings for marked view owners." ++ "\"\"\"") := by
    decide +kernel
  rw [classBlock, Template.render_eq_joinLines _ rfl, hmethods, hdocstring]
  simp [classTemplate, Template.Part.lines, Template.renderLine, Template.Piece.render,
    Text.joinLines_cons, String.append_assoc]

theorem source_eq_blocks (m : FactoryModule) :
    m.source = Text.joinLines
      [m.docstring, "", m.importBlock, "", "", m.classBlock, "", "",
        "__all__ = [\"" ++ m.options.className ++ "\"]", ""] := by
  rw [source, Template.render_eq_joinLines _ rfl]
  simp [sourceTemplate, Template.Part.lines, Template.renderLine, Template.Piece.render,
    Text.joinLines_cons, String.append_assoc]

end FactoryModule

end OwnerBinding
