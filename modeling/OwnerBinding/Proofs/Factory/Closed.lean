import OwnerBinding.Proofs.Factory.Blocks
import OwnerBinding.Proofs.Generation

/-!
# Factory modules are closed

Which modules are imported is decided from the associations, and which types a method is written with
is decided where it is planned, so nothing in the text itself says that the two agree. They do, for
any two associations and whatever the names in them are: every rendered module is closed
(`Generation.render_closed`). Its imports are the modules that its types come from, each of its
references starts with an alias that one import binds, and what it takes from the typing module is
what its annotations and overloads use.

For two branches or more the base of the owners stands in the signature, for a single branch its own
types do. `DispatchMethod.ownerAnnotations` and `DispatchMethod.resultAnnotations` keep these forms
apart once; everything else is said about their members.
-/

namespace OwnerBinding

namespace ModuleAliases

theorem map_fst_imports (aliases : ModuleAliases) :
    aliases.imports.map Prod.fst = aliases.modules.toList := by
  rw [imports, List.map_map]
  exact List.zipIdx_map_fst 0 _

theorem map_snd_imports (aliases : ModuleAliases) :
    aliases.imports.map Prod.snd = (List.range aliases.modules.toList.length).map aliasAt := by
  have hindices : (aliases.modules.toList.zipIdx).map Prod.snd =
      List.range aliases.modules.toList.length := by
    rw [List.zipIdx_map_snd, List.range_eq_range']
  rw [imports, List.map_map, ← hindices, List.map_map]
  rfl

theorem getElem?_imports {aliases : ModuleAliases} {index : Nat} {entry : String × String}
    (h : aliases.imports[index]? = some entry) : entry.2 = aliasAt index := by
  rw [imports, List.getElem?_map, List.getElem?_zipIdx, Nat.zero_add] at h
  obtain ⟨_, hget, rfl⟩ := Option.map_eq_some_iff.1 h
  obtain ⟨_, _, rfl⟩ := Option.map_eq_some_iff.1 hget
  rfl

theorem nodup_map_snd_imports (aliases : ModuleAliases) :
    (aliases.imports.map Prod.snd).Nodup := by
  rw [map_snd_imports]
  exact List.nodup_range.map aliasAt_injective

/-- The alias of a reference is bound by one import. -/
theorem count_alias_refer {aliases : ModuleAliases} {t : TypeName} {short : String}
    (h : (aliases.refer t).alias? = some short) :
    (aliases.imports.map Prod.snd).count short = 1 := by
  refine List.count_eq_one_of_mem aliases.nodup_map_snd_imports ?_
  rw [refer] at h
  split at h
  · cases h
  · obtain ⟨index, hindex, rfl⟩ := Option.map_eq_some_iff.1 h
    obtain ⟨hlt, _⟩ := List.idxOf?_eq_some_iff.1 hindex
    rw [map_snd_imports]
    exact List.mem_map_of_mem (List.mem_range.2 hlt)

end ModuleAliases

namespace DispatchMethod

/-- The owners in the annotations of a method, with the numbers of their wildcards: those of the
overloads, and behind them the one of the signature. -/
def ownerAnnotations (method : DispatchMethod) : List (Reference × Int) :=
  (if method.isOverloaded then
    method.branches.map fun branch => (branch.owner, branch.arity) else []) ++
    [match method.branches with
      | [branch] => (branch.owner, branch.arity)
      | _ => (method.ownerBase, 0)]

/-- The results in the annotations of a method, in the same order. -/
def resultAnnotations (method : DispatchMethod) : List Reference :=
  (if method.isOverloaded then method.branches.map Branch.binding else []) ++
    [match method.branches with
      | [branch] => branch.binding
      | _ => method.contract]

/-- The references that a method is written with: those in its annotations, those in the tests of its
branches and in the calls behind them, and that of the failure it ends in. -/
def references (method : DispatchMethod) : List Reference :=
  method.ownerAnnotations.map Prod.fst ++ [method.container] ++ method.resultAnnotations ++
    method.branches.flatMap (fun branch => [branch.owner, branch.binding]) ++ [method.failure]

/-- How an owner is written in an annotation. -/
def annotationText (hint : Reference × Int) : String :=
  if 0 < hint.2 then hint.1.text ++ wildcards hint.2 else hint.1.text

/-- A method is written with its references, and imports bind the alias of each of them once. -/
structure Closed (method : DispatchMethod) (imports : List (String × String)) : Prop where
  text_eq : method.text = Text.joinLines (method.overloads ++ method.headLines ++
    [Text.indent margin (Text.joinLines method.bodyLines)])
  owners_eq : method.values.overloads.map OverloadValues.owner ++ [method.values.owner] =
    method.ownerAnnotations.map annotationText
  results_eq : method.values.overloads.map OverloadValues.result ++ [method.values.result] =
    method.resultAnnotations.map Reference.text
  bound : ∀ reference ∈ method.references, ∀ short, reference.alias? = some short →
    (imports.map Prod.snd).count short = 1

/-- Below imports, the references of a method lead to the types that it is for. -/
structure Denotes (method : DispatchMethod) (imports : List (String × String)) (contract : String)
    (kind : OwnerKind) (association : Association) : Prop where
  ownerBase : method.ownerBase.denoted? imports = some kind.base
  contract : method.contract.denoted? imports = some (TypeName.ofQualifiedName contract)
  container : method.container.denoted? imports = some containerType
  failure : method.failure.denoted? imports = some dispatchFailureType
  branches : method.branches.map (fun branch =>
      (branch.owner.denoted? imports, branch.arity, branch.binding.denoted? imports)) =
    association.entries.map fun entry =>
      (some entry.1.toTypeName, entry.1.arity, some entry.2.toTypeName)

theorem owners_eq (method : DispatchMethod) :
    method.values.overloads.map OverloadValues.owner ++ [method.values.owner] =
      method.ownerAnnotations.map annotationText := by
  rcases method with ⟨_, _, _, _, _, _ | ⟨first, _ | ⟨second, rest⟩⟩⟩
  · simp [values, ownerAnnotations, signature, isOverloaded, annotationText]
  · simp [values, ownerAnnotations, signature, isOverloaded, annotationText, Branch.ownerText]
  · simp [values, ownerAnnotations, signature, isOverloaded, annotationText, Branch.ownerText]

theorem results_eq (method : DispatchMethod) :
    method.values.overloads.map OverloadValues.result ++ [method.values.result] =
      method.resultAnnotations.map Reference.text := by
  rcases method with ⟨_, _, _, _, _, _ | ⟨first, _ | ⟨second, rest⟩⟩⟩ <;>
    simp [values, resultAnnotations, signature, isOverloaded]

/-- The methods with overloads are those with two branches or more. -/
theorem overload_mem_overloads_iff (method : DispatchMethod) :
    "@overload" ∈ method.overloads ↔ method.isOverloaded = true := by
  rw [overloads]
  split
  · next h =>
      obtain ⟨branch, hbranch⟩ : ∃ branch, branch ∈ method.branches := by
        rw [isOverloaded, decide_eq_true_eq] at h
        exact List.exists_mem_of_length_pos (by omega)
      exact iff_of_true (List.mem_flatMap.2 ⟨branch, hbranch, by simp [overloadLines]⟩) h
  · next h => simp [h]

theorem cases_of_mem_ownerAnnotations {method : DispatchMethod} {hint : Reference × Int}
    (h : hint ∈ method.ownerAnnotations) :
    hint = (method.ownerBase, 0) ∨
      ∃ branch ∈ method.branches, hint = (branch.owner, branch.arity) := by
  rw [ownerAnnotations, List.mem_append] at h
  rcases h with hoverload | hsignature
  · split at hoverload
    · obtain ⟨branch, hbranch, rfl⟩ := List.mem_map.1 hoverload
      exact .inr ⟨branch, hbranch, rfl⟩
    · cases hoverload
  · rw [List.mem_singleton] at hsignature
    split at hsignature
    · next branch hbranches => exact .inr ⟨branch, by simp [hbranches], hsignature⟩
    · exact .inl hsignature

theorem cases_of_mem_resultAnnotations {method : DispatchMethod} {result : Reference}
    (h : result ∈ method.resultAnnotations) :
    result = method.contract ∨ ∃ branch ∈ method.branches, result = branch.binding := by
  rw [resultAnnotations, List.mem_append] at h
  rcases h with hoverload | hsignature
  · split at hoverload
    · obtain ⟨branch, hbranch, rfl⟩ := List.mem_map.1 hoverload
      exact .inr ⟨branch, hbranch, rfl⟩
    · cases hoverload
  · rw [List.mem_singleton] at hsignature
    split at hsignature
    · next branch hbranches => exact .inr ⟨branch, by simp [hbranches], hsignature⟩
    · exact .inl hsignature

/-- Every branch is annotated, in an overload or, if it is the only one, in the signature. -/
theorem mem_ownerAnnotations {method : DispatchMethod} {branch : Branch}
    (h : branch ∈ method.branches) : (branch.owner, branch.arity) ∈ method.ownerAnnotations := by
  rcases method with ⟨_, _, _, _, _, _ | ⟨first, _ | ⟨second, rest⟩⟩⟩
  · cases h
  · rw [List.mem_singleton.1 h]
    simp [ownerAnnotations]
  · refine List.mem_append_left _ ?_
    rw [isOverloaded, if_pos (by simp)]
    exact List.mem_map_of_mem h

theorem exists_ownerAnnotations_iff (method : DispatchMethod) :
    (∃ hint ∈ method.ownerAnnotations, 0 < hint.2) ↔
      ∃ branch ∈ method.branches, 0 < branch.arity := by
  constructor
  · rintro ⟨hint, hhint, hpos⟩
    rcases cases_of_mem_ownerAnnotations hhint with rfl | ⟨branch, hbranch, rfl⟩
    · exact absurd hpos (Int.lt_irrefl 0)
    · exact ⟨branch, hbranch, hpos⟩
  · rintro ⟨branch, hbranch, hpos⟩
    exact ⟨_, mem_ownerAnnotations hbranch, hpos⟩

variable {aliases : ModuleAliases} {contract : String} {kind : OwnerKind}
  {association : Association}

theorem exists_refer_of_mem_branches {branch : Branch}
    (h : branch ∈ (ofAssociation aliases contract kind association).branches) :
    (∃ t, branch.owner = aliases.refer t) ∧ ∃ t, branch.binding = aliases.refer t := by
  obtain ⟨entry, _, rfl⟩ := List.mem_map.1 h
  exact ⟨⟨_, rfl⟩, ⟨_, rfl⟩⟩

theorem exists_refer_of_mem_references {reference : Reference}
    (h : reference ∈ (ofAssociation aliases contract kind association).references) :
    ∃ t, reference = aliases.refer t := by
  simp only [references, List.mem_append, List.mem_map, List.mem_flatMap, List.mem_cons,
    List.not_mem_nil, or_false] at h
  rcases h with (((⟨hint, hhint, rfl⟩ | rfl) | hresult) | ⟨branch, hbranch, rfl | rfl⟩)
    | rfl
  · rcases cases_of_mem_ownerAnnotations hhint with rfl | ⟨branch, hbranch, rfl⟩
    · exact ⟨_, rfl⟩
    · exact (exists_refer_of_mem_branches hbranch).1
  · exact ⟨_, rfl⟩
  · rcases cases_of_mem_resultAnnotations hresult with rfl | ⟨branch, hbranch, rfl⟩
    · exact ⟨_, rfl⟩
    · exact (exists_refer_of_mem_branches hbranch).2
  · exact (exists_refer_of_mem_branches hbranch).1
  · exact (exists_refer_of_mem_branches hbranch).2
  · exact ⟨_, rfl⟩

theorem denotes_ofAssociation (h : aliases.CoversMethod contract kind association) :
    (ofAssociation aliases contract kind association).Denotes aliases.imports contract kind
      association where
  ownerBase := ModuleAliases.denoted?_refer h.base
  contract := ModuleAliases.denoted?_refer h.contract
  container := ModuleAliases.denoted?_refer h.container
  failure := ModuleAliases.denoted?_refer h.failure
  branches := by
    rw [ofAssociation, List.map_map]
    refine List.map_congr_left fun entry hentry => ?_
    simp only [Function.comp_apply, Branch.ofEntry,
      ModuleAliases.denoted?_refer (h.entries entry hentry).1,
      ModuleAliases.denoted?_refer (h.entries entry hentry).2]

theorem closed_ofAssociation :
    (ofAssociation aliases contract kind association).Closed aliases.imports where
  text_eq := text_eq_blocks _
  owners_eq := owners_eq _
  results_eq := results_eq _
  bound := by
    intro reference hreference short hshort
    obtain ⟨t, rfl⟩ := exists_refer_of_mem_references hreference
    exact ModuleAliases.count_alias_refer hshort

end DispatchMethod

namespace FactoryModule

/-- Some method is written with overloads. -/
def HasOverloads (m : FactoryModule) : Prop := ∃ method ∈ m.methods, "@overload" ∈ method.overloads

/-- Some owner is annotated with wildcards. -/
def HasWildcards (m : FactoryModule) : Prop :=
  ∃ method ∈ m.methods, ∃ hint ∈ method.ownerAnnotations, 0 < hint.2

/-- A factory module for two associations in which everything that its text refers to is bound, and
nothing is imported for any other reason. -/
structure Closed (m : FactoryModule) (contract : String) (fragments activities : Association) :
    Prop where
  source_eq : m.source = Text.joinLines
    [m.docstring, "",
      Text.joinLines (["from __future__ import annotations"] ++ m.typingLines ++ [""] ++
        m.imports.map importLine),
      "", "",
      Text.joinLines
        ["class " ++ m.options.className ++ ":",
          margin ++ "\"\"\"Create view bindings for marked view owners.\"\"\"", "",
          Text.indent margin m.fragment.text, "", Text.indent margin m.activity.text],
      "", "", "__all__ = [\"" ++ m.options.className ++ "\"]", ""]
  fragment : m.fragment.Closed m.imports
  activity : m.activity.Closed m.imports
  fragment_denotes : m.fragment.Denotes m.imports contract .fragment fragments
  activity_denotes : m.activity.Denotes m.imports contract .activity activities
  /-- The imported modules are those of the types in the text. The base of the owners stands there
  unless there is exactly one entry. -/
  mem_imports_iff : ∀ module, module ∈ m.imports.map Prod.fst ↔ module ≠ "" ∧
    (module = containerType.module ∨ module = dispatchFailureType.module ∨
      module = (TypeName.ofQualifiedName contract).module ∨
      (fragments.size ≠ 1 ∧ module = OwnerKind.fragment.base.module) ∨
      (activities.size ≠ 1 ∧ module = OwnerKind.activity.base.module) ∨
      ∃ entry ∈ fragments.entries ++ activities.entries,
        module = entry.1.module ∨ module = entry.2.module)
  increasing : (m.imports.map Prod.fst).Pairwise (· < ·)
  numbered : ∀ (index : Nat) (entry : String × String), m.imports[index]? = some entry →
    entry.2 = "_m" ++ toString index
  overload_iff : "overload" ∈ m.typingNames ↔ m.HasOverloads
  any_iff : "Any" ∈ m.typingNames ↔ m.HasWildcards
  typingNames_increasing : m.typingNames.Pairwise (· < ·)
  typingNames_subset : m.typingNames ⊆ ["Any", "overload"]
  typingLines_eq_nil_iff : m.typingLines = [] ↔ ¬ m.HasOverloads ∧ ¬ m.HasWildcards

open Classical in
theorem typingNames_eq (m : FactoryModule) : m.typingNames =
    (if m.HasWildcards then ["Any"] else []) ++ (if m.HasOverloads then ["overload"] else []) := by
  have hgeneric : (m.methods.any fun method => method.branches.any fun branch =>
      0 < branch.arity) = true ↔ m.HasWildcards := by
    simp only [List.any_eq_true, decide_eq_true_eq, HasWildcards,
      DispatchMethod.exists_ownerAnnotations_iff]
  have hseveral : m.methods.any DispatchMethod.isOverloaded = true ↔ m.HasOverloads := by
    simp only [List.any_eq_true, HasOverloads, DispatchMethod.overload_mem_overloads_iff]
  simp only [typingNames, hgeneric, hseveral]

theorem typingLines_eq_nil_iff_typingNames (m : FactoryModule) :
    m.typingLines = [] ↔ m.typingNames = [] := by
  rw [typingLines]
  cases m.typingNames <;> simp

theorem closed_ofAssociations (options : FactoryOptions) (version : Option String)
    (fragments activities : Association) :
    (ofAssociations options version fragments activities).Closed options.contract fragments
      activities where
  source_eq := by
    have himports := endsInAlias_ofAssociations options version fragments activities
    rw [source_eq_blocks, importBlock_eq himports, classBlock_eq_blocks, importLines]
  fragment := by
    rw [imports_ofAssociations]
    exact DispatchMethod.closed_ofAssociation
  activity := by
    rw [imports_ofAssociations]
    exact DispatchMethod.closed_ofAssociation
  fragment_denotes := by
    rw [imports_ofAssociations]
    exact DispatchMethod.denotes_ofAssociation (coversMethod _ _ _ .fragment (.inl rfl))
  activity_denotes := by
    rw [imports_ofAssociations]
    exact DispatchMethod.denotes_ofAssociation (coversMethod _ _ _ .activity (.inr rfl))
  mem_imports_iff := by
    intro module
    rw [imports_ofAssociations, ModuleAliases.map_fst_imports, NameSet.mem_toList, aliases,
      ModuleAliases.mem_modules_ofModules, mem_importedModules_iff, and_comm]
  increasing := by
    rw [imports_ofAssociations, ModuleAliases.map_fst_imports]
    exact NameSet.sorted _
  numbered := by
    intro index entry hentry
    rw [imports_ofAssociations] at hentry
    exact ModuleAliases.getElem?_imports hentry
  overload_iff := by
    rw [typingNames_eq]
    split <;> split <;> simp_all
  any_iff := by
    rw [typingNames_eq]
    split <;> split <;> simp_all
  typingNames_increasing := by
    rw [typingNames_eq]
    split <;> split <;> decide
  typingNames_subset := typingNames_subset _
  typingLines_eq_nil_iff := by
    rw [typingLines_eq_nil_iff_typingNames, typingNames_eq]
    split <;> split <;> simp_all

end FactoryModule

namespace Generation

/-- Any two associations are rendered, whatever the names in them and in the options are, and the
module that they are rendered as is closed. -/
theorem render_closed (options : FactoryOptions) (version : Option String)
    (fragments activities : Association) :
    ∃ found, (render options version fragments activities).result = .ok found ∧
      found.Closed options.contract fragments activities :=
  ⟨_, result_render options version fragments activities,
    FactoryModule.closed_ofAssociations options version fragments activities⟩

end Generation

end OwnerBinding
