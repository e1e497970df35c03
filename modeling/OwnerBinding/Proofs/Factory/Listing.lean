import OwnerBinding.Proofs.Factory.Layout
import OwnerBinding.Proofs.Generation

/-!
# Factory modules line by line

A factory module as a list of lines, said directly from the associations: no templates, no blocks, no
indentation of text, and every line with the spaces that stand before it (`Listing.module`). It is
what is rendered from names without line breaks (`Generation.render_listing`).

The two ways of saying it meet in the lines of a method. There the margins that a method gets from
the class around it are put together with those of its own lines (`Text.indentLine_append`).
-/

namespace OwnerBinding

namespace Listing

/-- A type below imports of modules: its bare name if its module is empty. -/
def typeText (modules : List String) (t : TypeName) : String :=
  if t.module = "" then t.name
  else "_m" ++ toString (modules.idxOf t.module) ++ "." ++ t.name

/-- The annotation of an owner, with a wildcard for each parameter. -/
def ownerText (modules : List String) (owner : OwnerType) : String :=
  if 0 < owner.arity then typeText modules owner.toTypeName ++ wildcards owner.arity
  else typeText modules owner.toTypeName

/-- The decorators and the signature of one overload, and an empty line. -/
def overload (modules : List String) (kind : OwnerKind) (entry : Association.Entry) :
    List String :=
  ["    @overload",
    "    @staticmethod",
    "    def " ++ kind.methodName ++ "(",
    "        view_owner: " ++ ownerText modules entry.1 ++ ",",
    "        container: " ++ typeText modules containerType ++ " | None,",
    "    ) -> " ++ typeText modules entry.2.toTypeName ++ ": ...",
    ""]

/-- The types in the signature of a method: those of its only entry, or else the base of the owners
and the contract. -/
def signature (modules : List String) (contract : String) (kind : OwnerKind)
    (association : Association) : String × String :=
  match association.entries with
  | [entry] => (ownerText modules entry.1, typeText modules entry.2.toTypeName)
  | _ => (typeText modules kind.base, typeText modules (TypeName.ofQualifiedName contract))

/-- The test for an owner and the call for its binding. -/
def branch (modules : List String) (entry : Association.Entry) : List String :=
  ["        if isinstance(view_owner, " ++ typeText modules entry.1.toTypeName ++ "):",
    "            return " ++ typeText modules entry.2.toTypeName
      ++ ".inflate(view_owner.layout_inflater, container, False)"]

/-- The dispatch method of a kind. -/
def method (modules : List String) (contract : String) (kind : OwnerKind)
    (association : Association) : List String :=
  (if 2 ≤ association.size then association.entries.flatMap (overload modules kind) else []) ++
    ["    @staticmethod",
      "    def " ++ kind.methodName ++ "(",
      "        view_owner: " ++ (signature modules contract kind association).1 ++ ",",
      "        container: " ++ typeText modules containerType ++ " | None,",
      "    ) -> " ++ (signature modules contract kind association).2 ++ ":",
      "        \"\"\"Create the binding registered for the " ++ kind.noun
        ++ "'s dynamic type.\"\"\""] ++
    association.entries.flatMap (branch modules) ++
    ["        msg = f\"Binder not found for \x7bview_owner!r\x7d\"",
      "        raise " ++ typeText modules dispatchFailureType ++ "(msg)"]

/-- The names of the typing module that two associations need. -/
def typingNames (fragments activities : Association) : List String :=
  (if ∃ entry ∈ fragments.entries ++ activities.entries, 0 < entry.1.arity then ["Any"] else []) ++
    (if 2 ≤ fragments.size ∨ 2 ≤ activities.size then ["overload"] else [])

/-- The modules that a factory module imports, each once and in order. -/
def modules (contract : String) (fragments activities : Association) : List String :=
  (NameSet.ofList ((importedModules contract fragments activities).filter fun module =>
    !module.isEmpty)).toList

/-- The factory module for two associations. -/
def module (options : FactoryOptions) (version : Option String)
    (fragments activities : Association) : List String :=
  let modules := modules options.contract fragments activities
  ["\"\"\"Generated binding factory module.",
    "",
    "Generated by: bindwire.templates.renderer.FactoryTemplateRenderer.render",
    "bindwire version used for generation: " ++ version.getD "unknown",
    "",
    "Dispatch branches:",
    "- fragment owners: " ++ toString fragments.size,
    "- activity owners: " ++ toString activities.size,
    "\"\"\"",
    "",
    "from __future__ import annotations"] ++
  (if typingNames fragments activities = [] then []
    else ["", "from typing import " ++ ", ".intercalate (typingNames fragments activities)]) ++
  [""] ++
  modules.zipIdx.map (fun entry => "import " ++ entry.1 ++ " as _m" ++ toString entry.2) ++
  ["",
    "",
    "class " ++ options.className ++ ":",
    "    \"\"\"Create view bindings for marked view owners.\"\"\"",
    ""] ++
  method modules options.contract .fragment fragments ++
  [""] ++
  method modules options.contract .activity activities ++
  ["",
    "",
    "__all__ = [\"" ++ options.className ++ "\"]",
    ""]

end Listing

/-! ## Texts of types -/

namespace ModuleAliases

/-- A reference reads as the type below the imported modules. -/
theorem text_refer_eq {aliases : ModuleAliases} {t : TypeName} (h : aliases.Covers t) :
    (aliases.refer t).text = Listing.typeText aliases.modules.toList t := by
  by_cases hempty : t.module = ""
  · simp [refer, Listing.typeText, Reference.text, hempty]
  · have hmem : t.module ∈ aliases.modules := h.resolve_left hempty
    have hsome : (aliases.modules.toList.idxOf? t.module).isSome := by
      rw [List.isSome_idxOf?]
      exact hmem
    obtain ⟨index, hindex⟩ := Option.isSome_iff_exists.1 hsome
    have hidxOf : aliases.modules.toList.idxOf t.module = index := by
      rw [List.idxOf_eq_getD_idxOf?, hindex, Option.getD_some]
    simp [refer, Listing.typeText, Reference.text, hempty, alias?, hindex, hidxOf, aliasAt]

end ModuleAliases

namespace Branch

variable {aliases : ModuleAliases} {entry : Association.Entry}

theorem ownerText_ofEntry (h : aliases.Covers entry.1.toTypeName) :
    (ofEntry aliases entry).ownerText = Listing.ownerText aliases.modules.toList entry.1 := by
  rw [ownerText, ofEntry, Listing.ownerText, ModuleAliases.text_refer_eq h]

end Branch

/-! ## Lines of a method -/

namespace DispatchMethod

theorem map_indentLine_parameterLines (method : DispatchMethod) (ownerText : String) :
    (method.parameterLines ownerText).map (Text.indentLine margin) =
      ["    @staticmethod",
        "    def " ++ method.kind.methodName ++ "(",
        "        view_owner: " ++ ownerText ++ ",",
        "        container: " ++ method.container.text ++ " | None,"] := by
  have hdecorator : Text.indentLine "    " "@staticmethod" = "    @staticmethod" := by decide
  simp (disch := decide) [parameterLines, Text.indentLine_append, margin, hdecorator,
    String.append_assoc]

section OfAssociation

variable {aliases : ModuleAliases} {contract : String} {kind : OwnerKind}
  {association : Association}

theorem map_indentLine_overloadLines (h : aliases.CoversMethod contract kind association)
    {entry : Association.Entry} (hentry : entry ∈ association.entries) :
    ((ofAssociation aliases contract kind association).overloadLines
      (Branch.ofEntry aliases entry)).map (Text.indentLine margin) =
        Listing.overload aliases.modules.toList kind entry := by
  have hdecorator : Text.indentLine margin "@overload" = "    @overload" := by decide
  have hempty : Text.indentLine margin "" = "" := by decide
  have hresult : Text.indentLine margin
      (") -> " ++ (Branch.ofEntry aliases entry).binding.text ++ ": ...") =
        "    ) -> " ++ Listing.typeText aliases.modules.toList entry.2.toTypeName ++ ": ..." := by
    rw [Branch.ofEntry, ModuleAliases.text_refer_eq (h.entries entry hentry).2]
    simp (disch := decide) [Text.indentLine_append, margin, String.append_assoc]
  rw [overloadLines, List.map_append, List.map_append, map_indentLine_parameterLines,
    Branch.ownerText_ofEntry (h.entries entry hentry).1, ofAssociation,
    ModuleAliases.text_refer_eq h.container]
  simp only [List.map_cons, List.map_nil, hdecorator, hempty, hresult]
  rfl

theorem signature_ofAssociation (h : aliases.CoversMethod contract kind association) :
    (ofAssociation aliases contract kind association).signature =
      Listing.signature aliases.modules.toList contract kind association := by
  rw [signature, Listing.signature, ofAssociation, ModuleAliases.text_refer_eq h.base,
    ModuleAliases.text_refer_eq h.contract]
  rcases hassociation : association.entries with _ | ⟨first, _ | ⟨second, rest⟩⟩
  · rfl
  · have hfirst := h.entries first (by simp [hassociation])
    simp only [List.map_cons, List.map_nil, Branch.ownerText_ofEntry hfirst.1]
    rw [Branch.ofEntry, ModuleAliases.text_refer_eq hfirst.2]
  · rfl

theorem map_indentLine_headLines (method : DispatchMethod) :
    method.headLines.map (Text.indentLine margin) =
      ["    @staticmethod",
        "    def " ++ method.kind.methodName ++ "(",
        "        view_owner: " ++ method.signature.1 ++ ",",
        "        container: " ++ method.container.text ++ " | None,",
        "    ) -> " ++ method.signature.2 ++ ":",
        "        \"\"\"Create the binding registered for the " ++ method.kind.noun
          ++ "'s dynamic type.\"\"\""] := by
  rw [headLines, List.map_append, map_indentLine_parameterLines]
  simp (disch := decide) [Text.indentLine_append, margin, String.append_assoc]

theorem map_indentLine_overloads (h : aliases.CoversMethod contract kind association) :
    (ofAssociation aliases contract kind association).overloads.map (Text.indentLine margin) =
      if 2 ≤ association.size then
        association.entries.flatMap (Listing.overload aliases.modules.toList kind) else [] := by
  have hbranches : (ofAssociation aliases contract kind association).branches =
      association.entries.map (Branch.ofEntry aliases) := rfl
  have hcount : (ofAssociation aliases contract kind association).isOverloaded =
      decide (2 ≤ association.size) := by
    rw [isOverloaded, hbranches, List.length_map, Association.size]
  rw [overloads, hcount]
  by_cases hsize : 2 ≤ association.size
  · simp only [hsize, decide_true, ↓reduceIte]
    rw [List.map_flatMap, hbranches, List.flatMap_map]
    exact List.flatMap_congr fun entry hentry => map_indentLine_overloadLines h hentry
  · simp [hsize]

/-- A branch stands two levels further in than its own text, one from the method and one from the
class. -/
theorem map_indentLine_branch {entry : Association.Entry}
    (howner : aliases.Covers entry.1.toTypeName) (hbinding : aliases.Covers entry.2.toTypeName) :
    ((Branch.ofEntry aliases entry).bodyLines.map (Text.indentLine margin)).map
      (Text.indentLine margin) = Listing.branch aliases.modules.toList entry := by
  rw [Branch.bodyLines, Branch.ofEntry, ModuleAliases.text_refer_eq howner,
    ModuleAliases.text_refer_eq hbinding, Listing.branch]
  simp (disch := decide) [Text.indentLine_append, margin, String.append_assoc]

theorem map_indentLine_bodyLines (h : aliases.CoversMethod contract kind association) :
    ((ofAssociation aliases contract kind association).bodyLines.map (Text.indentLine margin)).map
      (Text.indentLine margin) =
        association.entries.flatMap (Listing.branch aliases.modules.toList) ++
          ["        msg = f\"Binder not found for \x7bview_owner!r\x7d\"",
            "        raise " ++ Listing.typeText aliases.modules.toList dispatchFailureType
              ++ "(msg)"] := by
  have hbranches : (ofAssociation aliases contract kind association).branches =
      association.entries.map (Branch.ofEntry aliases) := rfl
  have htests : association.entries.flatMap (fun entry =>
      ((Branch.ofEntry aliases entry).bodyLines.map (Text.indentLine margin)).map
        (Text.indentLine margin)) =
          association.entries.flatMap (Listing.branch aliases.modules.toList) :=
    List.flatMap_congr fun entry hentry =>
      map_indentLine_branch (h.entries entry hentry).1 (h.entries entry hentry).2
  have hmessage : Text.indentLine "    " (Text.indentLine "    "
      "msg = f\"Binder not found for \x7bview_owner!r\x7d\"") =
        "        msg = f\"Binder not found for \x7bview_owner!r\x7d\"" := by decide +kernel
  have hraise : (ofAssociation aliases contract kind association).failure.text =
      Listing.typeText aliases.modules.toList dispatchFailureType :=
    ModuleAliases.text_refer_eq h.failure
  rw [bodyLines, List.map_append, List.map_append, List.map_flatMap, List.map_flatMap, hbranches,
    List.flatMap_map, htests, hraise]
  simp (disch := decide) [Text.indentLine_append, margin, hmessage, String.append_assoc]

theorem methodLines_ofAssociation (h : aliases.CoversMethod contract kind association) :
    FactoryModule.methodLines (ofAssociation aliases contract kind association) =
      Listing.method aliases.modules.toList contract kind association := by
  have hkind : (ofAssociation aliases contract kind association).kind = kind := rfl
  have hcontainerText : (ofAssociation aliases contract kind association).container.text =
      Listing.typeText aliases.modules.toList containerType :=
    ModuleAliases.text_refer_eq h.container
  rw [FactoryModule.methodLines, lines, List.map_append, List.map_append,
    map_indentLine_overloads h, map_indentLine_headLines, map_indentLine_bodyLines h,
    signature_ofAssociation h, hcontainerText, hkind, Listing.method]
  simp only [List.append_assoc]

end OfAssociation

end DispatchMethod

namespace FactoryModule

variable (options : FactoryOptions) (version : Option String) (fragments activities : Association)

theorem typingNames_ofAssociations :
    (ofAssociations options version fragments activities).typingNames =
      Listing.typingNames fragments activities := by
  have hgeneric : ((ofAssociations options version fragments activities).methods.any
      fun method => method.branches.any fun branch => 0 < branch.arity) = true ↔
        ∃ entry ∈ fragments.entries ++ activities.entries, 0 < entry.1.arity := by
    simp [methods, ofAssociations, DispatchMethod.ofAssociation, List.any_eq_true, Branch.ofEntry,
      or_and_right, exists_or, -List.any_map]
  have hseveral : ((ofAssociations options version fragments activities).methods.any
      DispatchMethod.isOverloaded) = true ↔ 2 ≤ fragments.size ∨ 2 ≤ activities.size := by
    simp [methods, ofAssociations, DispatchMethod.ofAssociation, DispatchMethod.isOverloaded,
      Association.size]
  rw [typingNames, Listing.typingNames]
  simp only [hgeneric, hseveral]

theorem typingLines_ofAssociations :
    (ofAssociations options version fragments activities).typingLines =
      if Listing.typingNames fragments activities = [] then []
      else ["", "from typing import " ++
        ", ".intercalate (Listing.typingNames fragments activities)] := by
  rw [typingLines, typingNames_ofAssociations]
  cases Listing.typingNames fragments activities <;> rfl

theorem map_importLine_ofAssociations :
    (ofAssociations options version fragments activities).imports.map importLine =
      (Listing.modules options.contract fragments activities).zipIdx.map fun entry =>
        "import " ++ entry.1 ++ " as _m" ++ toString entry.2 := by
  rw [imports_ofAssociations, ModuleAliases.imports, List.map_map]
  refine List.map_congr_left fun entry _ => ?_
  have hfuse : " as " ++ ("_m" ++ toString entry.2) = " as _m" ++ toString entry.2 := by
    rw [← String.append_assoc]
    rfl
  simp only [Function.comp_apply, importLine, ModuleAliases.aliasAt, String.append_assoc, hfuse]

/-- The lines of a planned module are those of the listing. -/
theorem lines_ofAssociations :
    (ofAssociations options version fragments activities).lines =
      Listing.module options version fragments activities := by
  have hfragment : methodLines (ofAssociations options version fragments activities).fragment =
      Listing.method (Listing.modules options.contract fragments activities) options.contract
        .fragment fragments :=
    DispatchMethod.methodLines_ofAssociation (coversMethod _ _ _ .fragment (.inl rfl))
  have hactivity : methodLines (ofAssociations options version fragments activities).activity =
      Listing.method (Listing.modules options.contract fragments activities) options.contract
        .activity activities :=
    DispatchMethod.methodLines_ofAssociation (coversMethod _ _ _ .activity (.inr rfl))
  have hfragments :
      (ofAssociations options version fragments activities).fragment.branches.length =
        fragments.size := List.length_map _
  have hactivities :
      (ofAssociations options version fragments activities).activity.branches.length =
        activities.size := List.length_map _
  have hoptions : (ofAssociations options version fragments activities).options = options := rfl
  have hversion : (ofAssociations options version fragments activities).version = version := rfl
  have hdocstring : margin ++ "\"\"\"Create view bindings for marked view owners.\"\"\"" =
      "    \"\"\"Create view bindings for marked view owners.\"\"\"" := by decide +kernel
  rw [lines, headLines, importLines, hfragment, hactivity, typingLines_ofAssociations,
    map_importLine_ofAssociations]
  simp only [docstringLines, classLines, tailLines, hfragments, hactivities, hoptions, hversion,
    hdocstring, Listing.module, List.append_assoc, List.cons_append, List.nil_append]

end FactoryModule

namespace Generation

/-- From names without line breaks a module is rendered line by line as it is listed. -/
theorem render_listing {options : FactoryOptions} {version : Option String}
    {fragments activities : Association} (hoptions : options.Unbroken version)
    (hfragments : fragments.Unbroken) (hactivities : activities.Unbroken) :
    ∃ found, (render options version fragments activities).result = .ok found ∧
      found.artifact.source.toList.splitOn '\n' =
        (Listing.module options version fragments activities).map String.toList := by
  refine ⟨_, result_render options version fragments activities, ?_⟩
  have hunbroken := FactoryModule.unbroken_ofAssociations hoptions hfragments hactivities
  rw [← FactoryModule.lines_ofAssociations, ← hunbroken.splitOn_source]
  rfl

end Generation

/-! ## Two fragment owners, one of them outside all modules -/

namespace GlobalOwner

/-- The declaration of a binding. -/
def binding (module name : String) : Declaration where
  module := module
  name := name
  typeParameters := []
  superclass := none
  interfaces := .ofList [defaultContract]
  markers := .empty

/-- An owner of the empty module, and a generic one whose binding is of the empty module. -/
def fragments : Association := .ofList
  [({ module := "", name := "Home", arity := 0 }, binding "app" "HomeBinding"),
    ({ module := "app.ui", name := "Items", arity := 2 }, binding "" "ItemsBinding")]

theorem unbroken_options : FactoryOptions.default.Unbroken (some Generation.programVersion) where
  className := by decide
  contract := by decide
  version := by decide

theorem unbroken_fragments : fragments.Unbroken := by
  have hentries : fragments.entries =
      [({ module := "", name := "Home", arity := 0 }, binding "app" "HomeBinding"),
        ({ module := "app.ui", name := "Items", arity := 2 }, binding "" "ItemsBinding")] := rfl
  intro entry hentry
  rw [hentries] at hentry
  simp only [List.mem_cons, List.not_mem_nil, or_false] at hentry
  rcases hentry with rfl | rfl
  · constructor <;> decide
  · constructor <;> decide

theorem unbroken_empty : Association.empty.Unbroken := by
  intro entry hentry
  cases hentry

theorem render_listing_globalOwner :
    FactoryOptions.default.Unbroken (some Generation.programVersion) ∧ fragments.Unbroken ∧
      Association.empty.Unbroken ∧
      ∃ found, (Generation.render FactoryOptions.default (some Generation.programVersion) fragments
          .empty).result = .ok found ∧
        found.artifact.source.toList.splitOn '\n' =
          (Listing.module FactoryOptions.default (some Generation.programVersion) fragments
            .empty).map String.toList :=
  ⟨unbroken_options, unbroken_fragments, unbroken_empty,
    Generation.render_listing unbroken_options unbroken_fragments unbroken_empty⟩

end GlobalOwner

end OwnerBinding
