import OwnerBinding.Proofs.Factory.Records
import OwnerBinding.Proofs.Generation

/-!
# What the text of a factory module determines

The reader gets back from a rendered module what the two associations say, each entry in its place
(`FactoryModule.read_source`). So the text determines the associations as far as they enter it,
whatever dotted names there are in them.
-/

namespace OwnerBinding

open FactoryReader

namespace FactoryModule

/-- The ways in which a statement before the methods begins, apart from those that import a module. -/
def headOpenings : List String :=
  ["\"\"\"", "Generated by: ", "bindwire version used for generation: ", "Dispatch branches:",
    "- fragment owners: ", "- activity owners: ", "from __future__ ", "from typing import ", "class "]

theorem begins_docstringLines (m : FactoryModule) :
    ∀ s ∈ m.docstringLines.map statementOf, Begins headOpenings s := by
  intro s hs
  obtain ⟨line, hline, rfl⟩ := List.mem_map.1 hs
  simp only [docstringLines, List.mem_cons, List.not_mem_nil, or_false] at hline
  rcases hline with rfl | rfl | rfl | rfl | rfl | rfl | rfl | rfl | rfl
  · exact .inr ⟨"\"\"\"", by decide, by decide⟩
  · exact .inl rfl
  · exact .inr ⟨"Generated by: ", by decide, by decide⟩
  · exact begins_append (by decide) (by decide) _
  · exact .inl rfl
  · exact .inr ⟨"Dispatch branches:", by decide, by decide⟩
  · exact begins_append (by decide) (by decide) _
  · exact begins_append (by decide) (by decide) _
  · exact .inr ⟨"\"\"\"", by decide, by decide⟩

theorem begins_typingLines (m : FactoryModule) :
    ∀ s ∈ m.typingLines.map statementOf, Begins headOpenings s := by
  intro s hs
  obtain ⟨line, hline, rfl⟩ := List.mem_map.1 hs
  rw [typingLines] at hline
  split at hline
  · cases hline
  · next names _ =>
      simp only [List.mem_cons, List.not_mem_nil, or_false] at hline
      rcases hline with rfl | rfl
      · exact .inl rfl
      · exact begins_append (by decide) (by decide) _

theorem begins_classLines (m : FactoryModule) :
    ∀ s ∈ m.classLines.map statementOf, Begins headOpenings s := by
  intro s hs
  obtain ⟨line, hline, rfl⟩ := List.mem_map.1 hs
  simp only [classLines, List.mem_cons, List.not_mem_nil, or_false] at hline
  rcases hline with rfl | rfl | rfl
  · rw [String.append_assoc]
    exact begins_append (by decide) (by decide) _
  · exact .inr ⟨"\"\"\"", by decide, by decide⟩
  · exact .inl rfl

theorem begins_tailLines (m : FactoryModule) :
    ∀ s ∈ m.tailLines.map statementOf, Begins ["__all__ = [\""] s := by
  intro s hs
  obtain ⟨line, hline, rfl⟩ := List.mem_map.1 hs
  simp only [tailLines, List.mem_cons, List.not_mem_nil, or_false] at hline
  rcases hline with rfl | rfl | rfl | rfl
  · exact .inl rfl
  · exact .inl rfl
  · rw [String.append_assoc]
    exact begins_append (by decide) (by decide) _
  · exact .inl rfl

/-- A statement before the methods imports a module, or begins in one of the given ways. -/
theorem begins_headLines (m : FactoryModule) : ∀ s ∈ m.headLines.map statementOf,
    s ∈ (m.imports.map importLine).map statementOf ∨ Begins headOpenings s := by
  intro s hs
  simp only [headLines, importLines, List.map_append, List.mem_append, List.map_cons,
    List.map_nil, List.mem_cons, List.not_mem_nil, or_false] at hs
  rcases hs with (((hs | rfl) | ((rfl | hs) | rfl) | hs) | rfl | rfl) | hs
  · exact .inr (m.begins_docstringLines s hs)
  · exact .inr (.inl rfl)
  · exact .inr (.inr ⟨"from __future__ ", by decide, by decide⟩)
  · exact .inr (m.begins_typingLines s hs)
  · exact .inr (.inl rfl)
  · exact .inl hs
  · exact .inr (.inl rfl)
  · exact .inr (.inl rfl)
  · exact .inr (m.begins_classLines s hs)

theorem openingOf_notMem_headLines (m : FactoryModule) (kind : OwnerKind) :
    openingOf kind ∉ m.headLines.map statementOf := by
  intro hmem
  rcases m.begins_headLines _ hmem with himport | hbegins
  · obtain ⟨line, hline, heq⟩ := List.mem_map.1 himport
    obtain ⟨entry, _, rfl⟩ := List.mem_map.1 hline
    have hbegins : Begins ["import "] (openingOf kind) := by
      rw [← heq, importLine, String.append_assoc, String.append_assoc]
      exact begins_append (by decide) (by decide) _
    exact hbegins.not_isPrefix (by decide) (isPrefix_openingOf kind)
  · exact hbegins.not_isPrefix (by decide) (isPrefix_openingOf kind)

theorem map_statementOf_lines (m : FactoryModule) : m.lines.map statementOf =
    m.headLines.map statementOf ++ m.fragment.statements ++ [[]] ++ m.activity.statements ++
      m.tailLines.map statementOf := by
  simp only [lines, List.map_append, DispatchMethod.map_statementOf_methodLines, List.map_cons,
    List.map_nil]
  rfl

theorem filterMap_imported?_eq_nil {statements : List Statement} {openings : List String}
    (h : ∀ s ∈ statements, Begins openings s) (hapart : Apart "import " openings) :
    statements.filterMap imported? = [] := by
  rw [List.filterMap_eq_nil_iff]
  exact fun s hs => (h s hs).imported?_eq_none hapart

theorem filterMap_imported?_importLine {imports : List (String × String)}
    (h : ∀ entry ∈ imports, ' ' ∉ entry.1.toList) :
    ((imports.map importLine).map statementOf).filterMap imported? = imports := by
  induction imports with
  | nil => rfl
  | cons entry rest ih =>
      rw [List.map_cons, List.map_cons,
        List.filterMap_cons_some (imported?_importLine (h entry (by simp))),
        ih fun other hother => h other (List.mem_cons_of_mem entry hother)]

theorem filterMap_imported?_lines {m : FactoryModule}
    (h : ∀ entry ∈ m.imports, ' ' ∉ entry.1.toList) :
    (m.lines.map statementOf).filterMap imported? = m.imports := by
  have hempty : imported? (statementOf "") = none := by decide
  have hfuture : imported? (statementOf "from __future__ import annotations") = none := by decide
  have hhead : (m.headLines.map statementOf).filterMap imported? = m.imports := by
    simp only [headLines, importLines, List.map_append, List.filterMap_append,
      filterMap_imported?_eq_nil m.begins_docstringLines (by decide),
      filterMap_imported?_eq_nil m.begins_typingLines (by decide),
      filterMap_imported?_eq_nil m.begins_classLines (by decide),
      filterMap_imported?_importLine h, List.map_cons, List.map_nil, List.filterMap_cons,
      List.filterMap_nil, hempty, hfuture, List.nil_append, List.append_nil]
  have hnil : imported? [] = none := by decide
  rw [map_statementOf_lines]
  simp only [List.filterMap_append, hhead, DispatchMethod.filterMap_imported?_statements,
    filterMap_imported?_eq_nil m.begins_tailLines (by decide), List.filterMap_cons, hnil,
    List.filterMap_nil, List.append_nil]

theorem openingOf_ne_nil (kind : OwnerKind) : openingOf kind ≠ [] := by
  cases kind <;> decide

theorem ne_openingOf {kind : OwnerKind} {statements : List Statement}
    (h : openingOf kind ∉ statements) : ∀ s ∈ statements, decide (s ≠ openingOf kind) = true := by
  intro s hs
  rw [decide_eq_true_eq]
  rintro rfl
  exact h hs

section MethodStatements

variable {m : FactoryModule} {fragmentDecorators fragmentRest activityDecorators activityRest :
  List Statement}

theorem methodStatements_activity (hfragment : m.fragment.kind = .fragment)
    (hactivity : m.activity.statements =
      activityDecorators ++ openingOf .activity :: activityRest)
    (hdecorators : ∀ s ∈ activityDecorators, Begins ["@"] s) :
    methodStatements .activity (m.lines.map statementOf) =
      openingOf .activity :: activityRest ++ m.tailLines.map statementOf := by
  have hbefore : openingOf .activity ∉ m.headLines.map statementOf ++ m.fragment.statements ++
      [[]] ++ activityDecorators := by
    have hmethod : openingOf .activity ∉ m.fragment.statements :=
      DispatchMethod.openingOf_notMem_statements (by rw [hfragment]; decide)
    simp only [List.mem_append, List.mem_singleton, not_or]
    exact ⟨⟨⟨m.openingOf_notMem_headLines .activity, hmethod⟩, openingOf_ne_nil .activity⟩,
      openingOf_notMem_of_begins hdecorators (by decide)⟩
  have hlines : m.lines.map statementOf = (m.headLines.map statementOf ++ m.fragment.statements ++
      [[]] ++ activityDecorators) ++
        (openingOf .activity :: activityRest ++ m.tailLines.map statementOf) := by
    rw [map_statementOf_lines, hactivity]
    simp
  rw [methodStatements, hlines, List.dropWhile_append_of_pos (ne_openingOf hbefore)]
  simp

theorem methodStatements_fragment (hkind : m.fragment.kind = .fragment)
    (hfragment : m.fragment.statements =
      fragmentDecorators ++ openingOf .fragment :: fragmentRest)
    (hactivity : m.activity.statements =
      activityDecorators ++ openingOf .activity :: activityRest)
    (hfragmentDecorators : ∀ s ∈ fragmentDecorators, Begins ["@"] s)
    (hactivityDecorators : ∀ s ∈ activityDecorators, Begins ["@"] s) :
    methodStatements .fragment (m.lines.map statementOf) =
      openingOf .fragment :: fragmentRest ++ ([] :: activityDecorators) := by
  have hbefore : openingOf .fragment ∉ m.headLines.map statementOf ++ fragmentDecorators := by
    rw [List.mem_append, not_or]
    exact ⟨m.openingOf_notMem_headLines .fragment,
      openingOf_notMem_of_begins hfragmentDecorators (by decide)⟩
  have hwithin : openingOf .activity ∉
      openingOf .fragment :: fragmentRest ++ ([] :: activityDecorators) := by
    have hmethod : openingOf .activity ∉ m.fragment.statements :=
      DispatchMethod.openingOf_notMem_statements (by rw [hkind]; decide)
    rw [hfragment, List.mem_append, not_or] at hmethod
    rw [List.mem_append, List.mem_cons (a := openingOf .activity) (b := []), not_or, not_or]
    exact ⟨hmethod.2, openingOf_ne_nil .activity,
      openingOf_notMem_of_begins hactivityDecorators (by decide)⟩
  have hlines : m.lines.map statementOf = (m.headLines.map statementOf ++ fragmentDecorators) ++
      ((openingOf .fragment :: fragmentRest ++ ([] :: activityDecorators)) ++
        (openingOf .activity :: activityRest ++ m.tailLines.map statementOf)) := by
    rw [map_statementOf_lines, hfragment, hactivity]
    simp
  have honwards : ((openingOf .fragment :: fragmentRest ++ ([] :: activityDecorators)) ++
      (openingOf .activity :: activityRest ++ m.tailLines.map statementOf)).dropWhile
        (· ≠ openingOf .fragment) =
      (openingOf .fragment :: fragmentRest ++ ([] :: activityDecorators)) ++
        (openingOf .activity :: activityRest ++ m.tailLines.map statementOf) := by
    simp
  rw [methodStatements, hlines, List.dropWhile_append_of_pos (ne_openingOf hbefore), honwards]
  rw [List.takeWhile_append_of_pos (ne_openingOf hwithin)]
  simp

end MethodStatements

end FactoryModule

/-! ## Lines of a module -/

namespace FactoryModule

/-- The text of a module falls apart into its statements. -/
theorem Unbroken.statements_source {m : FactoryModule} (h : m.Unbroken) :
    statements m.source = m.lines.map statementOf := by
  rw [source_eq h.endsInAlias h.fragment h.activity,
    statements_joinLines m.lines_ne_nil h.lineFeed_notMem_lines]

end FactoryModule

/-! ## Names of a module -/

/-- The names that enter a factory module are dotted names, its class has an identifier for a name,
and the version of the generating program is written on one line. -/
structure FactoryOptions.IsNamed (options : FactoryOptions) (version : Option String) : Prop where
  className : Text.isIdentifier options.className = true
  contract : Text.IsDottedName options.contract
  version : '\n' ∉ (version.getD "unknown").toList

/-- All entries have dotted names. -/
def Association.IsNamed (association : Association) : Prop :=
  ∀ entry ∈ association.entries, entry.IsNamed

theorem FactoryOptions.IsNamed.unbroken {options : FactoryOptions} {version : Option String}
    (h : options.IsNamed version) : options.Unbroken version where
  className := (Text.nameText_of_isIdentifier h.className).unbroken.lineFeed_notMem
  contract := h.contract.nameText.unbroken
  version := h.version

theorem Association.IsNamed.unbroken {association : Association} (h : association.IsNamed) :
    association.Unbroken := fun entry hentry =>
  { ownerModule := (h entry hentry).ownerModule.nameText.unbroken
    ownerName := (h entry hentry).ownerName.nameText.unbroken
    bindingModule := (h entry hentry).bindingModule.nameText.unbroken
    bindingName := (h entry hentry).bindingName.nameText.unbroken }

namespace FactoryModule

variable {options : FactoryOptions} {version : Option String} {fragments activities : Association}

theorem space_notMem_imports (hnamed : options.IsNamed version) (hfragments : fragments.IsNamed)
    (hactivities : activities.IsNamed) :
    ∀ entry ∈ (ofAssociations options version fragments activities).imports,
      ' ' ∉ entry.1.toList := by
  have hspace : ∀ {module : String}, Text.NameText module → ' ' ∉ module.toList :=
    fun h => h.notMem_of_outside (by decide)
  have hmodules : ∀ module ∈ importedModules options.contract fragments activities,
      ' ' ∉ module.toList := by
    refine forall_mem_importedModules (by decide) (by decide)
      (hspace hnamed.contract.nameText.splitLast.1) ?_
    intro entry hentry
    have hentryNamed : entry.IsNamed :=
      (List.mem_append.1 hentry).elim (hfragments entry) (hactivities entry)
    exact ⟨hspace hentryNamed.ownerModule.nameText, hspace hentryNamed.bindingModule.nameText⟩
  intro entry hentry
  rw [imports_ofAssociations] at hentry
  obtain ⟨hmodule, _⟩ := ModuleAliases.exists_of_mem_imports hentry
  exact hmodules entry.1 ((ModuleAliases.mem_modules_ofModules _ entry.1).1 hmodule).1

theorem source_artifact (m : FactoryModule) : m.artifact.source = m.source := rfl

/-- A rendered module is read as what its associations say. -/
theorem read_source (hnamed : options.IsNamed version) (hfragments : fragments.IsNamed)
    (hactivities : activities.IsNamed) :
    read (ofAssociations options version fragments activities).source =
      some (fragments.records, activities.records) := by
  have hunbroken := unbroken_ofAssociations hnamed.unbroken hfragments.unbroken hactivities.unbroken
  have htable := filterMap_imported?_lines (space_notMem_imports hnamed hfragments hactivities)
  obtain ⟨fragmentDecorators, fragmentRest, hfragmentSplit, hfragmentDecorators⟩ :=
    (ofAssociations options version fragments activities).fragment.exists_statements_eq
  obtain ⟨activityDecorators, activityRest, hactivitySplit, hactivityDecorators⟩ :=
    (ofAssociations options version fragments activities).activity.exists_statements_eq
  have hcovers : ∀ association, association = fragments ∨ association = activities →
      ∀ entry ∈ association.entries,
        (aliases options.contract fragments activities).Covers entry.1.toTypeName ∧
          (aliases options.contract fragments activities).Covers entry.2.toTypeName :=
    fun association h entry hentry =>
      covers_entry options.contract fragments activities h hentry
  have hbetween : ∀ s ∈ [] :: activityDecorators, Begins ["@", "__all__ = [\""] s := by
    intro s hs
    rcases List.mem_cons.1 hs with rfl | hs
    · exact .inl rfl
    · exact (hactivityDecorators s hs).mono (by simp)
  have htail : ∀ s ∈ (ofAssociations options version fragments activities).tailLines.map
      statementOf, Begins ["@", "__all__ = [\""] s :=
    fun s hs => (begins_tailLines _ s hs).mono (by simp)
  have hreadFragment := DispatchMethod.method?_ofAssociation hfragments (hcovers _ (.inl rfl))
    hfragmentSplit hfragmentDecorators hbetween
  have hreadActivity := DispatchMethod.method?_ofAssociation hactivities (hcovers _ (.inr rfl))
    hactivitySplit hactivityDecorators htail
  have hsections := methodStatements_fragment rfl hfragmentSplit hactivitySplit hfragmentDecorators
    hactivityDecorators
  have hsections' := methodStatements_activity rfl hactivitySplit hactivityDecorators
  simp only [FactoryReader.read, hunbroken.statements_source, htable, hsections, hsections',
    imports_ofAssociations, hreadFragment, hreadActivity]
  rfl

end FactoryModule

namespace Generation

/-- Associations with dotted names are rendered, and the text is read as what they say. So two pairs
of associations that are rendered as the same text say the same. -/
theorem render_readable {options : FactoryOptions} {version : Option String}
    {fragments activities : Association} (hnamed : options.IsNamed version)
    (hfragments : fragments.IsNamed) (hactivities : activities.IsNamed) :
    ∃ found, (render options version fragments activities).result = .ok found ∧
      FactoryReader.read found.artifact.source = some (fragments.records, activities.records) ∧
      ∀ otherFragments otherActivities : Association,
        otherFragments.IsNamed → otherActivities.IsNamed → ∀ other,
          (render options version otherFragments otherActivities).result = .ok other →
            other.artifact.source = found.artifact.source →
              otherFragments.records = fragments.records ∧
                otherActivities.records = activities.records := by
  have hread : FactoryReader.read (FactoryModule.ofAssociations options version fragments
      activities).artifact.source = some (fragments.records, activities.records) := by
    rw [FactoryModule.source_artifact]
    exact FactoryModule.read_source hnamed hfragments hactivities
  refine ⟨_, result_render options version fragments activities, hread, ?_⟩
  intro otherFragments otherActivities hotherFragments hotherActivities other hother hsource
  rw [result_render, Except.ok.injEq] at hother
  have hreadOther := FactoryModule.read_source hnamed hotherFragments hotherActivities
  rw [hother, ← FactoryModule.source_artifact] at hreadOther
  have hsame : some (otherFragments.records, otherActivities.records) =
      some (fragments.records, activities.records) := by
    calc
      some (otherFragments.records, otherActivities.records)
          = FactoryReader.read other.artifact.source := hreadOther.symm
      _ = FactoryReader.read (FactoryModule.ofAssociations options version fragments
            activities).artifact.source := by rw [hsource]
      _ = some (fragments.records, activities.records) := hread
  simpa using hsame

end Generation

/-! ## Two owners with one qualified name -/

namespace NestedOwner

/-- A declaration without structure. -/
def declaration (module name : String) : Declaration where
  module := module
  name := name
  typeParameters := []
  superclass := none
  interfaces := .empty
  markers := .empty

/-- Two different owners that are both called `a.b.C`, one of them generic. -/
def fragments : Association := .ofList
  [({ module := "a", name := "b.C", arity := 2 }, declaration "a.b" "CBinding"),
    ({ module := "a.b", name := "C", arity := 0 }, declaration "a" "b.Binding")]

/-- A single owner. -/
def activities : Association := .ofList
  [({ module := "a.b", name := "Main", arity := 1 }, declaration "a.b" "MainBinding")]

theorem isNamed_options : FactoryOptions.default.IsNamed (some Generation.programVersion) where
  className := by decide +kernel
  contract := by decide +kernel
  version := by decide

theorem isNamed_fragments : fragments.IsNamed := by
  have hentries : fragments.entries =
      [({ module := "a", name := "b.C", arity := 2 }, declaration "a.b" "CBinding"),
        ({ module := "a.b", name := "C", arity := 0 }, declaration "a" "b.Binding")] := rfl
  intro entry hentry
  rw [hentries] at hentry
  simp only [List.mem_cons, List.not_mem_nil, or_false] at hentry
  rcases hentry with rfl | rfl
  · constructor <;> decide +kernel
  · constructor <;> decide +kernel

theorem isNamed_activities : activities.IsNamed := by
  have hentries : activities.entries =
      [({ module := "a.b", name := "Main", arity := 1 }, declaration "a.b" "MainBinding")] := rfl
  intro entry hentry
  rw [hentries, List.mem_singleton] at hentry
  subst hentry
  constructor <;> decide +kernel

theorem render_readable_nestedOwner :
    FactoryOptions.default.IsNamed (some Generation.programVersion) ∧ fragments.IsNamed ∧
      activities.IsNamed ∧
      ∃ found, (Generation.render FactoryOptions.default (some Generation.programVersion) fragments
          activities).result = .ok found ∧
        FactoryReader.read found.artifact.source = some (fragments.records, activities.records) := by
  refine ⟨isNamed_options, isNamed_fragments, isNamed_activities, ?_⟩
  obtain ⟨found, hfound, hread, _⟩ :=
    Generation.render_readable isNamed_options isNamed_fragments isNamed_activities
  exact ⟨found, hfound, hread⟩

end NestedOwner

end OwnerBinding
