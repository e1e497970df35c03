import OwnerBinding.Proofs.Factory.Blocks

/-!
# Lines of factory modules

The text of a factory module is joined from blocks, and blocks in it are indented as a whole. When
no reference of a method has a line break in it, this comes to a plain list of lines
(`FactoryModule.source_eq`): those of a method stand in the class one level further in. Names without
line breaks give references without any, so a module of such names is written line by line
(`FactoryModule.unbroken_ofAssociations`).
-/

namespace OwnerBinding

namespace Branch

/-- Neither the owner nor the binding is written with a line break. -/
def Unbroken (branch : Branch) : Prop :=
  Text.Unbroken branch.owner.text ∧ Text.Unbroken branch.binding.text

theorem unbroken_wildcards (arity : Int) : Text.Unbroken (wildcards arity) := by
  have hlist : ∀ n, Text.Unbroken (", ".intercalate (List.replicate n "Any")) := by
    intro n
    induction n with
    | zero => decide
    | succ n ih =>
        cases n with
        | zero => decide
        | succ n =>
            have hany : Text.Unbroken ("Any" ++ ", ") := by decide
            rw [List.replicate_succ, String.intercalate_cons_of_ne_nil (by simp)]
            exact hany.append ih
  have hopen : Text.Unbroken "[" := by decide
  have hclose : Text.Unbroken "]" := by decide
  exact (hopen.append (hlist _)).append hclose

theorem Unbroken.ownerText {branch : Branch} (h : branch.Unbroken) :
    Text.Unbroken branch.ownerText := by
  rw [Branch.ownerText]
  split
  · exact h.1.append (unbroken_wildcards branch.arity)
  · exact h.1

theorem Unbroken.bodyLines {branch : Branch} (h : branch.Unbroken) :
    ∀ line ∈ branch.bodyLines, Text.Unbroken line := by
  have htest : Text.Unbroken "if isinstance(view_owner, " := by decide
  have hcolon : Text.Unbroken "):" := by decide
  have hreturn : Text.Unbroken (margin ++ "return ") := by decide
  have hcall : Text.Unbroken ".inflate(view_owner.layout_inflater, container, False)" := by decide
  intro line hline
  simp only [Branch.bodyLines, List.mem_cons, List.not_mem_nil, or_false] at hline
  rcases hline with rfl | rfl
  · exact (htest.append h.1).append hcolon
  · exact (hreturn.append h.2).append hcall

end Branch

namespace DispatchMethod

/-- None of the references of the method is written with a line break. -/
structure Unbroken (method : DispatchMethod) : Prop where
  ownerBase : Text.Unbroken method.ownerBase.text
  contract : Text.Unbroken method.contract.text
  container : Text.Unbroken method.container.text
  failure : Text.Unbroken method.failure.text
  branches : ∀ branch ∈ method.branches, branch.Unbroken

/-- The lines of the method, without indentation of its own. -/
def lines (method : DispatchMethod) : List String :=
  method.overloads ++ method.headLines ++ method.bodyLines.map (Text.indentLine margin)

variable {method : DispatchMethod}

theorem Unbroken.parameterLines (h : method.Unbroken) {ownerText : String}
    (howner : Text.Unbroken ownerText) :
    ∀ line ∈ method.parameterLines ownerText, Text.Unbroken line := by
  have hname : Text.Unbroken method.kind.methodName := by
    cases method.kind <;> decide
  have hdef : Text.Unbroken "def " := by decide
  have hopen : Text.Unbroken "(" := by decide
  have hview : Text.Unbroken (margin ++ "view_owner: ") := by decide
  have hcontainer : Text.Unbroken (margin ++ "container: ") := by decide
  intro line hline
  simp only [DispatchMethod.parameterLines, List.mem_cons, List.not_mem_nil, or_false] at hline
  rcases hline with rfl | rfl | rfl | rfl
  · decide
  · exact (hdef.append hname).append hopen
  · exact (hview.append howner).append (by decide)
  · exact (hcontainer.append h.container).append (by decide)

theorem Unbroken.signature (h : method.Unbroken) :
    Text.Unbroken method.signature.1 ∧ Text.Unbroken method.signature.2 := by
  rw [DispatchMethod.signature]
  split
  · next branch hbranches =>
      have hbranch := h.branches branch (by simp [hbranches])
      exact ⟨hbranch.ownerText, hbranch.2⟩
  · exact ⟨h.ownerBase, h.contract⟩

theorem Unbroken.overloads (h : method.Unbroken) :
    ∀ line ∈ method.overloads, Text.Unbroken line := by
  intro line hline
  rw [DispatchMethod.overloads] at hline
  split at hline
  · obtain ⟨branch, hbranch, hline⟩ := List.mem_flatMap.1 hline
    have hunbroken := h.branches branch hbranch
    have harrow : Text.Unbroken ") -> " := by decide
    simp only [overloadLines, List.mem_append, List.mem_cons, List.not_mem_nil, or_false] at hline
    rcases hline with (rfl | hline) | rfl | rfl
    · decide
    · exact h.parameterLines hunbroken.ownerText line hline
    · exact (harrow.append hunbroken.2).append (by decide)
    · decide
  · cases hline

theorem Unbroken.headLines (h : method.Unbroken) :
    ∀ line ∈ method.headLines, Text.Unbroken line := by
  have harrow : Text.Unbroken ") -> " := by decide
  intro line hline
  simp only [DispatchMethod.headLines, List.mem_append, List.mem_cons, List.not_mem_nil,
    or_false] at hline
  rcases hline with hline | rfl | rfl
  · exact h.parameterLines h.signature.1 line hline
  · exact (harrow.append h.signature.2).append (by decide)
  · cases method.kind <;> decide

theorem Unbroken.bodyLines (h : method.Unbroken) :
    ∀ line ∈ method.bodyLines, Text.Unbroken line := by
  have hraise : Text.Unbroken "raise " := by decide
  intro line hline
  simp only [DispatchMethod.bodyLines, List.mem_append, List.mem_flatMap, List.mem_cons,
    List.not_mem_nil, or_false] at hline
  rcases hline with ⟨branch, hbranch, hline⟩ | rfl | rfl
  · exact (h.branches branch hbranch).bodyLines line hline
  · decide
  · exact (hraise.append h.failure).append (by decide)

theorem unbroken_indentLine {line : String} (h : Text.Unbroken line) :
    Text.Unbroken (Text.indentLine margin line) := by
  have hmargin : Text.Unbroken margin := by decide
  rw [Text.indentLine]
  split
  · exact h
  · exact hmargin.append h

theorem Unbroken.lines (h : method.Unbroken) : ∀ line ∈ method.lines, Text.Unbroken line := by
  intro line hline
  simp only [DispatchMethod.lines, List.mem_append, List.mem_map] at hline
  rcases hline with (hline | hline) | ⟨inner, hinner, rfl⟩
  · exact h.overloads line hline
  · exact h.headLines line hline
  · exact unbroken_indentLine (h.bodyLines inner hinner)

theorem headLines_ne_nil (method : DispatchMethod) : method.headLines ≠ [] := by
  simp [headLines]

theorem bodyLines_ne_nil (method : DispatchMethod) : method.bodyLines ≠ [] := by
  simp [bodyLines]

theorem lines_ne_nil (method : DispatchMethod) : method.lines ≠ [] := by
  simp [lines, headLines_ne_nil]

theorem text_eq (h : method.Unbroken) : method.text = Text.joinLines method.lines := by
  have hbody : method.bodyLines.map (Text.indentLine margin) ≠ [] := by
    simp [bodyLines_ne_nil]
  have hhead : method.overloads ++ method.headLines ≠ [] := by simp [headLines_ne_nil]
  rw [text_eq_blocks, Text.indent_joinLines_of_unbroken margin h.bodyLines, lines,
    Text.joinLines_append hhead (by simp), Text.joinLines_singleton,
    Text.joinLines_append hhead hbody]

end DispatchMethod

namespace FactoryModule

/-- The lines of a method within the class. -/
def methodLines (method : DispatchMethod) : List String :=
  method.lines.map (Text.indentLine margin)

/-- The lines of the docstring at the head of the module. -/
def docstringLines (m : FactoryModule) : List String :=
  ["\"\"\"Generated binding factory module.",
    "",
    "Generated by: bindwire.templates.renderer.FactoryTemplateRenderer.render",
    "bindwire version used for generation: " ++ m.version.getD "unknown",
    "",
    "Dispatch branches:",
    "- fragment owners: " ++ toString m.fragment.branches.length,
    "- activity owners: " ++ toString m.activity.branches.length,
    "\"\"\""]

/-- The lines of the class before its methods. -/
def classLines (m : FactoryModule) : List String :=
  ["class " ++ m.options.className ++ ":",
    margin ++ "\"\"\"Create view bindings for marked view owners.\"\"\"", ""]

/-- The lines before the methods. -/
def headLines (m : FactoryModule) : List String :=
  m.docstringLines ++ [""] ++ m.importLines ++ ["", ""] ++ m.classLines

/-- The lines behind the methods. -/
def tailLines (m : FactoryModule) : List String :=
  ["", "", "__all__ = [\"" ++ m.options.className ++ "\"]", ""]

/-- The lines of the module. -/
def lines (m : FactoryModule) : List String :=
  m.headLines ++ methodLines m.fragment ++ [""] ++ methodLines m.activity ++ m.tailLines

theorem methodLines_ne_nil (method : DispatchMethod) : methodLines method ≠ [] := by
  simp [methodLines, method.lines_ne_nil]

theorem lines_ne_nil (m : FactoryModule) : m.lines ≠ [] := by
  simp [lines, tailLines]

theorem indent_text_eq {method : DispatchMethod} (h : method.Unbroken) :
    Text.indent margin method.text = Text.joinLines (methodLines method) := by
  rw [DispatchMethod.text_eq h, Text.indent_joinLines_of_unbroken margin h.lines, methodLines]

theorem classBlock_eq {m : FactoryModule} (hfragment : m.fragment.Unbroken)
    (hactivity : m.activity.Unbroken) :
    m.classBlock = Text.joinLines
      (m.classLines ++ methodLines m.fragment ++ [""] ++ methodLines m.activity) := by
  let blocks : List (List String) :=
    m.classLines.map ([·]) ++ [methodLines m.fragment, [""], methodLines m.activity]
  have hblocks : ∀ block ∈ blocks, block ≠ [] := by
    simp [blocks, classLines, methodLines_ne_nil]
  have hjoin := Text.joinLines_map_joinLines hblocks
  rw [classBlock_eq_blocks, indent_text_eq hfragment, indent_text_eq hactivity]
  simpa [blocks, classLines] using hjoin

theorem source_eq {m : FactoryModule} (himports : m.EndsInAlias) (hfragment : m.fragment.Unbroken)
    (hactivity : m.activity.Unbroken) : m.source = Text.joinLines m.lines := by
  let classBlockLines :=
    m.classLines ++ methodLines m.fragment ++ [""] ++ methodLines m.activity
  let blocks : List (List String) :=
    [m.docstringLines, [""], m.importLines, [""], [""], classBlockLines] ++ m.tailLines.map ([·])
  have hblocks : ∀ block ∈ blocks, block ≠ [] := by
    simp [blocks, classBlockLines, docstringLines, importLines, classLines, tailLines]
  have hjoin := Text.joinLines_map_joinLines hblocks
  rw [source_eq_blocks, importBlock_eq himports, classBlock_eq hfragment hactivity]
  have hlines : blocks.flatten = m.lines := by
    simp [blocks, classBlockLines, lines, headLines, tailLines]
  rw [hlines] at hjoin
  rw [← hjoin]
  rfl

/-- What enters the text of a module from outside stands on one line. Outside of the methods nothing
is indented, so only line feeds matter there. -/
structure Unbroken (m : FactoryModule) : Prop where
  endsInAlias : m.EndsInAlias
  fragment : m.fragment.Unbroken
  activity : m.activity.Unbroken
  className : '\n' ∉ m.options.className.toList
  version : '\n' ∉ (m.version.getD "unknown").toList
  imports : ∀ entry ∈ m.imports, '\n' ∉ entry.1.toList ∧ '\n' ∉ entry.2.toList

theorem lineFeed_notMem_toString (n : Nat) : '\n' ∉ (toString n).toList := by
  intro hmem
  have hdigit := Text.isDigit_of_mem_toString hmem
  revert hdigit
  decide

theorem lineFeed_notMem_methodLines {method : DispatchMethod} (h : method.Unbroken) :
    ∀ line ∈ methodLines method, '\n' ∉ line.toList := by
  intro line hline
  obtain ⟨inner, hinner, rfl⟩ := List.mem_map.1 hline
  exact (DispatchMethod.unbroken_indentLine (h.lines inner hinner)).lineFeed_notMem

theorem lineFeed_notMem_typingLines (m : FactoryModule) :
    ∀ line ∈ m.typingLines, '\n' ∉ line.toList := by
  have hnames : m.typingNames ∈ [[], ["Any"], ["overload"], ["Any", "overload"]] := by
    rw [typingNames]
    split <;> split <;> decide
  simp only [List.mem_cons, List.not_mem_nil, or_false] at hnames
  rw [typingLines]
  rcases hnames with h | h | h | h <;> rw [h] <;> decide

theorem lineFeed_notMem_docstringLines {m : FactoryModule}
    (h : '\n' ∉ (m.version.getD "unknown").toList) :
    ∀ line ∈ m.docstringLines, '\n' ∉ line.toList := by
  intro line hline
  simp only [docstringLines, List.mem_cons, List.not_mem_nil, or_false] at hline
  rcases hline with rfl | rfl | rfl | rfl | rfl | rfl | rfl | rfl | rfl
  all_goals first
    | decide
    | simp only [String.toList_append, List.mem_append, not_or, h, lineFeed_notMem_toString,
        not_false_eq_true, and_true]
      decide

theorem Unbroken.lineFeed_notMem_headLines {m : FactoryModule} (h : m.Unbroken) :
    ∀ line ∈ m.headLines, '\n' ∉ line.toList := by
  have hempty : '\n' ∉ "".toList := by decide
  intro line hline
  simp only [headLines, importLines, List.mem_append, List.mem_cons, List.not_mem_nil, or_false,
    List.mem_map] at hline
  rcases hline with (((hline | rfl) | ((rfl | hline) | rfl) | ⟨entry, hentry, rfl⟩) | rfl | rfl)
    | hline
  · exact lineFeed_notMem_docstringLines h.version line hline
  · exact hempty
  · decide
  · exact lineFeed_notMem_typingLines m line hline
  · exact hempty
  · obtain ⟨hmodule, halias⟩ := h.imports entry hentry
    simp [importLine, hmodule, halias]
  · exact hempty
  · exact hempty
  · simp only [classLines, List.mem_cons, List.not_mem_nil, or_false] at hline
    rcases hline with rfl | rfl | rfl
    · simp [h.className]
    · decide
    · exact hempty

theorem Unbroken.lineFeed_notMem_lines {m : FactoryModule} (h : m.Unbroken) :
    ∀ line ∈ m.lines, '\n' ∉ line.toList := by
  have hempty : '\n' ∉ "".toList := by decide
  intro line hline
  simp only [lines, tailLines, List.mem_append, List.mem_cons, List.not_mem_nil, or_false] at hline
  rcases hline with (((hline | hline) | rfl) | hline) | rfl | rfl | rfl | rfl
  · exact h.lineFeed_notMem_headLines line hline
  · exact lineFeed_notMem_methodLines h.fragment line hline
  · exact hempty
  · exact lineFeed_notMem_methodLines h.activity line hline
  · exact hempty
  · exact hempty
  · simp [h.className]
  · exact hempty

/-- Cut at its line feeds, the text of a module falls apart into its lines. -/
theorem Unbroken.splitOn_source {m : FactoryModule} (h : m.Unbroken) :
    m.source.toList.splitOn '\n' = m.lines.map String.toList := by
  rw [source_eq h.endsInAlias h.fragment h.activity,
    Text.splitOn_joinLines m.lines_ne_nil h.lineFeed_notMem_lines]

end FactoryModule

/-! ## Unbroken names -/

namespace ModuleAliases

theorem unbroken_aliasAt (index : Nat) : Text.Unbroken (aliasAt index) := by
  intro c hc
  rw [Bool.eq_false_iff]
  intro hbreak
  have hblank := Text.isBlank_of_isLineBreak c hbreak
  rw [isBlank_of_mem_aliasAt hc] at hblank
  cases hblank

theorem unbroken_refer (aliases : ModuleAliases) {t : TypeName} (h : Text.Unbroken t.name) :
    Text.Unbroken (aliases.refer t).text := by
  have hdot : Text.Unbroken "." := by decide
  rcases text_refer aliases t with htext | ⟨index, htext⟩
  · rw [htext]
    exact h
  · rw [htext]
    exact ((unbroken_aliasAt index).append hdot).append h

end ModuleAliases

/-- The types of an entry are written without line breaks. -/
structure Association.Entry.Unbroken (entry : Association.Entry) : Prop where
  ownerModule : Text.Unbroken entry.1.module
  ownerName : Text.Unbroken entry.1.name
  bindingModule : Text.Unbroken entry.2.module
  bindingName : Text.Unbroken entry.2.name

/-- All entries are written without line breaks. -/
def Association.Unbroken (association : Association) : Prop :=
  ∀ entry ∈ association.entries, entry.Unbroken

/-- The names of a factory module, and the version of the generating program, are written without
line breaks. -/
structure FactoryOptions.Unbroken (options : FactoryOptions) (version : Option String) : Prop where
  className : '\n' ∉ options.className.toList
  contract : Text.Unbroken options.contract
  version : '\n' ∉ (version.getD "unknown").toList

theorem DispatchMethod.unbroken_ofAssociation (aliases : ModuleAliases) {contract : String}
    (kind : OwnerKind) {association : Association} (hcontract : Text.Unbroken contract)
    (hassociation : association.Unbroken) :
    (DispatchMethod.ofAssociation aliases contract kind association).Unbroken where
  ownerBase := aliases.unbroken_refer (by cases kind <;> decide)
  contract := aliases.unbroken_refer hcontract.splitLast.2
  container := aliases.unbroken_refer (by decide)
  failure := aliases.unbroken_refer (by decide)
  branches := by
    intro branch hbranch
    obtain ⟨entry, hentry, rfl⟩ := List.mem_map.1 hbranch
    exact ⟨aliases.unbroken_refer (hassociation entry hentry).ownerName,
      aliases.unbroken_refer (hassociation entry hentry).bindingName⟩

namespace FactoryModule

variable {options : FactoryOptions} {version : Option String} {fragments activities : Association}

theorem lineFeed_notMem_imports (hcontract : Text.Unbroken options.contract)
    (hfragments : fragments.Unbroken) (hactivities : activities.Unbroken) :
    ∀ entry ∈ (ofAssociations options version fragments activities).imports,
      '\n' ∉ entry.1.toList ∧ '\n' ∉ entry.2.toList := by
  have hmodules : ∀ module ∈ importedModules options.contract fragments activities,
      '\n' ∉ module.toList := by
    refine forall_mem_importedModules (by decide) (by decide)
      hcontract.splitLast.1.lineFeed_notMem ?_
    intro entry hentry
    have hunbroken : entry.Unbroken :=
      (List.mem_append.1 hentry).elim (hfragments entry) (hactivities entry)
    exact ⟨hunbroken.ownerModule.lineFeed_notMem, hunbroken.bindingModule.lineFeed_notMem⟩
  intro entry hentry
  rw [imports_ofAssociations] at hentry
  obtain ⟨hmodule, index, halias⟩ := ModuleAliases.exists_of_mem_imports hentry
  refine ⟨hmodules entry.1 ((ModuleAliases.mem_modules_ofModules _ entry.1).1 hmodule).1, ?_⟩
  rw [halias]
  exact (ModuleAliases.unbroken_aliasAt index).lineFeed_notMem

/-- A module of unbroken names is written line by line. -/
theorem unbroken_ofAssociations (hoptions : options.Unbroken version)
    (hfragments : fragments.Unbroken) (hactivities : activities.Unbroken) :
    (ofAssociations options version fragments activities).Unbroken where
  endsInAlias := endsInAlias_ofAssociations options version fragments activities
  fragment := DispatchMethod.unbroken_ofAssociation _ .fragment hoptions.contract hfragments
  activity := DispatchMethod.unbroken_ofAssociation _ .activity hoptions.contract hactivities
  className := hoptions.className
  version := hoptions.version
  imports := lineFeed_notMem_imports hoptions.contract hfragments hactivities

end FactoryModule

end OwnerBinding
