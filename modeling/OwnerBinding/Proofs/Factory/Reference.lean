import Mathlib.Data.List.Basic
import OwnerBinding.Factory.Source
import OwnerBinding.Proofs.Text.Lines

/-!
# References and what they denote

A factory module imports every module that one of its references goes through, so its plan never
fails. The planned module is written out here as a total function of the associations
(`FactoryModule.ofAssociations`).

Read below the imports, the reference to a type denotes this type again (`denoted?_refer`): aliases
with different numbers are different, and a type of the empty module is the only one whose reference
has no alias.
-/

namespace OwnerBinding

/-- The type that a reference stands for below imports. -/
def Reference.denoted? (imports : List (String × String)) (reference : Reference) :
    Option TypeName :=
  match reference.alias? with
  | none => some { module := "", name := reference.name }
  | some short =>
      (imports.find? (·.2 = short)).map fun entry =>
        { module := entry.1, name := reference.name }

namespace ModuleAliases

theorem aliasAt_injective : Function.Injective aliasAt := by
  intro i j h
  exact Text.toString_injective ((String.append_right_inj "_m").1 h)

theorem toList_aliasAt (index : Nat) :
    (aliasAt index).toList = '_' :: 'm' :: Nat.toDigits 10 index := by
  rw [aliasAt, String.toList_append]
  exact congrArg ('_' :: 'm' :: ·) Nat.toList_repr

theorem isDigit_or_of_mem_aliasAt {index : Nat} {c : Char} (h : c ∈ (aliasAt index).toList) :
    c = '_' ∨ c = 'm' ∨ c.isDigit = true := by
  rw [toList_aliasAt, List.mem_cons, List.mem_cons] at h
  rcases h with rfl | rfl | h
  · exact .inl rfl
  · exact .inr (.inl rfl)
  · exact .inr (.inr (Nat.isDigit_of_mem_toDigits (by decide) (by decide) h))

theorem aliasAt_notMem {names : List String} (h : ∀ name ∈ names, ¬ ['_', 'm'] <+: name.toList)
    (index : Nat) : aliasAt index ∉ names := by
  intro hmem
  refine h _ hmem ?_
  rw [toList_aliasAt]
  exact List.prefix_append ['_', 'm'] _

theorem isBlank_of_mem_aliasAt {index : Nat} {c : Char}
    (h : c ∈ (aliasAt index).toList) : Text.isBlank c = false := by
  rcases isDigit_or_of_mem_aliasAt h with rfl | rfl | hdigit
  · decide
  · decide
  · simp only [Char.isDigit, Bool.and_eq_true, decide_eq_true_eq] at hdigit
    change 48 ≤ c.toNat ∧ c.toNat ≤ 57 at hdigit
    simp only [Text.isBlank, Bool.or_eq_false_iff, Bool.and_eq_false_iff, decide_eq_false_iff_not,
      beq_eq_false_iff_ne]
    omega

/-- Types whose module is imported, or that have none. -/
def Covers (aliases : ModuleAliases) (t : TypeName) : Prop :=
  t.module = "" ∨ t.module ∈ aliases.modules

/-- The reference to a covered type. -/
def refer (aliases : ModuleAliases) (t : TypeName) : Reference where
  alias? := if t.module.isEmpty then none else aliases.alias? t.module
  name := t.name

theorem text_refer (aliases : ModuleAliases) (t : TypeName) :
    (aliases.refer t).text = t.name ∨
      ∃ index, (aliases.refer t).text = aliasAt index ++ "." ++ t.name := by
  rw [refer]
  split
  · exact .inl rfl
  · rw [alias?]
    cases aliases.modules.toList.idxOf? t.module with
    | none => exact .inl rfl
    | some index => exact .inr ⟨index, rfl⟩

theorem covers_ofModules {modules : List String} {t : TypeName} (h : t.module ∈ modules) :
    (ofModules modules).Covers t := by
  by_cases hempty : t.module = ""
  · exact .inl hempty
  · exact .inr ((mem_modules_ofModules modules t.module).2 ⟨h, hempty⟩)

theorem exists_alias?_eq {aliases : ModuleAliases} {module : String}
    (h : module ∈ aliases.modules) :
    ∃ index, aliases.alias? module = some (aliasAt index) ∧
      aliases.modules.toList[index]? = some module := by
  have hsome : (aliases.modules.toList.idxOf? module).isSome := by
    rw [List.isSome_idxOf?]
    exact h
  obtain ⟨index, hindex⟩ := Option.isSome_iff_exists.1 hsome
  refine ⟨index, by rw [alias?, hindex, Option.map_some], ?_⟩
  obtain ⟨hlt, hget, _⟩ := List.idxOf?_eq_some_iff.1 hindex
  rw [List.getElem?_eq_getElem hlt, hget]

theorem find?_zipIdx (names : List String) (start index : Nat) :
    (names.zipIdx start).find? (fun entry => entry.2 = start + index) =
      names[index]?.map fun name => (name, start + index) := by
  induction names generalizing start index with
  | nil => simp
  | cons name rest ih =>
      cases index with
      | zero => simp
      | succ index =>
          have hstart : start + (index + 1) = start + 1 + index := by omega
          rw [List.zipIdx_cons, List.find?_cons_of_neg (by simp)]
          rw [List.getElem?_cons_succ, hstart]
          exact ih (start + 1) index

theorem find?_imports (aliases : ModuleAliases) (index : Nat) :
    aliases.imports.find? (·.2 = aliasAt index) =
      aliases.modules.toList[index]?.map fun module => (module, aliasAt index) := by
  have hzip := find?_zipIdx aliases.modules.toList 0 index
  rw [Nat.zero_add] at hzip
  rw [imports, List.find?_map]
  have hsame : ((fun entry : String × String => decide (entry.2 = aliasAt index)) ∘
      fun entry : String × Nat => (entry.1, aliasAt entry.2)) =
      fun entry => decide (entry.2 = index) := by
    funext entry
    simp [aliasAt_injective.eq_iff]
  rw [hsame, hzip, Option.map_map]
  rfl

theorem exists_of_mem_imports {aliases : ModuleAliases} {entry : String × String}
    (h : entry ∈ aliases.imports) :
    entry.1 ∈ aliases.modules ∧ ∃ index, entry.2 = aliasAt index := by
  obtain ⟨indexed, hindexed, rfl⟩ := List.mem_map.1 h
  obtain ⟨_, hmem⟩ := List.mem_zipIdx' hindexed
  exact ⟨hmem ▸ List.getElem_mem _, indexed.2, rfl⟩

theorem reference_eq_ok {aliases : ModuleAliases} {t : TypeName} (h : aliases.Covers t) :
    aliases.reference t = .ok (aliases.refer t) := by
  rw [reference, refer]
  rcases h with hempty | hmem
  · simp [hempty]
  · obtain ⟨index, halias, _⟩ := exists_alias?_eq hmem
    split
    · rfl
    · rw [halias]

/-- Through the imports, a reference leads back to the type. -/
theorem denoted?_refer {aliases : ModuleAliases} {t : TypeName} (h : aliases.Covers t) :
    (aliases.refer t).denoted? aliases.imports = some t := by
  rcases t with ⟨module, name⟩
  by_cases hempty : module = ""
  · subst hempty
    simp [refer, Reference.denoted?]
  · rcases h with h | hmem
    · exact absurd h hempty
    · obtain ⟨index, halias, hget⟩ := exists_alias?_eq hmem
      simp [refer, Reference.denoted?, hempty, halias, find?_imports, hget]

end ModuleAliases

/-- The branch of an entry. -/
def Branch.ofEntry (aliases : ModuleAliases) (entry : Association.Entry) : Branch where
  owner := aliases.refer entry.1.toTypeName
  arity := entry.1.arity
  binding := aliases.refer entry.2.toTypeName

/-- The dispatch method for an association. -/
def DispatchMethod.ofAssociation (aliases : ModuleAliases) (contract : String) (kind : OwnerKind)
    (association : Association) : DispatchMethod where
  kind := kind
  ownerBase := aliases.refer kind.base
  contract := aliases.refer (TypeName.ofQualifiedName contract)
  container := aliases.refer containerType
  failure := aliases.refer dispatchFailureType
  branches := association.entries.map (Branch.ofEntry aliases)

/-- The aliases of everything that a factory module imports. -/
def FactoryModule.aliases (contract : String) (fragments activities : Association) :
    ModuleAliases :=
  .ofModules (importedModules contract fragments activities)

/-- The factory module for two associations. -/
def FactoryModule.ofAssociations (options : FactoryOptions) (version : Option String)
    (fragments activities : Association) : FactoryModule :=
  let aliases := FactoryModule.aliases options.contract fragments activities
  { options
    version
    imports := aliases.imports
    fragment := .ofAssociation aliases options.contract .fragment fragments
    activity := .ofAssociation aliases options.contract .activity activities }

theorem FactoryModule.imports_ofAssociations (options : FactoryOptions) (version : Option String)
    (fragments activities : Association) :
    (ofAssociations options version fragments activities).imports =
      (aliases options.contract fragments activities).imports := by
  rw [ofAssociations]

/-- The modules of a factory module by what each is imported for. -/
theorem mem_importedModules_iff {contract module : String} {fragments activities : Association} :
    module ∈ importedModules contract fragments activities ↔
      module = containerType.module ∨ module = dispatchFailureType.module ∨
        module = (TypeName.ofQualifiedName contract).module ∨
        (fragments.size ≠ 1 ∧ module = OwnerKind.fragment.base.module) ∨
        (activities.size ≠ 1 ∧ module = OwnerKind.activity.base.module) ∨
        ∃ entry ∈ fragments.entries ++ activities.entries,
          module = entry.1.module ∨ module = entry.2.module := by
  have hassociation : ∀ (kind : OwnerKind) (association : Association),
      module ∈ associationModules kind association ↔
        (association.size ≠ 1 ∧ module = kind.base.module) ∨
          ∃ entry ∈ association.entries, module = entry.1.module ∨ module = entry.2.module := by
    intro kind association
    by_cases hsize : association.size = 1 <;> simp [associationModules, hsize]
  simp only [importedModules, List.mem_append, hassociation, List.mem_cons, List.not_mem_nil,
    or_false, or_and_right, exists_or, or_assoc, or_left_comm]

/-- What holds of the modules of the types in a factory module holds of all that it imports. -/
theorem forall_mem_importedModules {P : String → Prop} {contract : String}
    {fragments activities : Association} (hcontainer : P containerType.module)
    (hfailure : P dispatchFailureType.module) (hcontract : P (TypeName.ofQualifiedName contract).module)
    (hentries : ∀ entry ∈ fragments.entries ++ activities.entries,
      P entry.1.module ∧ P entry.2.module) :
    ∀ module ∈ importedModules contract fragments activities, P module := by
  intro module hmodule
  rcases mem_importedModules_iff.1 hmodule with
    rfl | rfl | rfl | ⟨_, rfl⟩ | ⟨_, rfl⟩ | ⟨entry, hentry, rfl | rfl⟩
  · exact hcontainer
  · exact hfailure
  · exact hcontract
  -- The bases of the owners live in the module of the container.
  · exact hcontainer
  · exact hcontainer
  · exact (hentries entry hentry).1
  · exact (hentries entry hentry).2

theorem mapM_eq_ok {α β ε : Type} {f : α → Except ε β} {g : α → β} {xs : List α}
    (h : ∀ x ∈ xs, f x = .ok (g x)) : xs.mapM f = .ok (xs.map g) := by
  induction xs with
  | nil => rfl
  | cons x rest ih =>
      rw [List.mapM_cons, h x (by simp), ih fun y hy => h y (List.mem_cons_of_mem _ hy)]
      rfl

theorem Branch.plan_eq {aliases : ModuleAliases} {entry : Association.Entry}
    (howner : aliases.Covers entry.1.toTypeName) (hbinding : aliases.Covers entry.2.toTypeName) :
    Branch.plan aliases entry = .ok (Branch.ofEntry aliases entry) := by
  rw [Branch.plan, ModuleAliases.reference_eq_ok howner, ModuleAliases.reference_eq_ok hbinding]
  rfl

/-- All types that the method for an association is written with are covered. -/
structure ModuleAliases.CoversMethod (aliases : ModuleAliases) (contract : String)
    (kind : OwnerKind) (association : Association) : Prop where
  base : aliases.Covers kind.base
  contract : aliases.Covers (TypeName.ofQualifiedName contract)
  container : aliases.Covers containerType
  failure : aliases.Covers dispatchFailureType
  entries : ∀ entry ∈ association.entries,
    aliases.Covers entry.1.toTypeName ∧ aliases.Covers entry.2.toTypeName

namespace FactoryModule

variable (contract : String) (fragments activities : Association)

theorem covers_entry {association : Association}
    (h : association = fragments ∨ association = activities) {entry : Association.Entry}
    (hentry : entry ∈ association.entries) :
    (aliases contract fragments activities).Covers entry.1.toTypeName ∧
      (aliases contract fragments activities).Covers entry.2.toTypeName := by
  have hmem : ∀ module ∈ [entry.1.module, entry.2.module],
      module ∈ importedModules contract fragments activities := by
    intro module hmodule
    have hflat : module ∈ association.entries.flatMap fun e => [e.1.module, e.2.module] :=
      List.mem_flatMap.2 ⟨entry, hentry, hmodule⟩
    rcases h with rfl | rfl <;> simp [importedModules, associationModules, hflat]
  exact ⟨ModuleAliases.covers_ofModules (hmem _ (by simp)),
    ModuleAliases.covers_ofModules (hmem _ (by simp))⟩

/-- The imports of a factory module cover both of its methods. -/
theorem coversMethod (kind : OwnerKind) {association : Association}
    (h : association = fragments ∨ association = activities) :
    (aliases contract fragments activities).CoversMethod contract kind association where
  base := by
    -- The base of the owners lives in the module of the container.
    have hmodule : kind.base.module = containerType.module := by cases kind <;> rfl
    exact ModuleAliases.covers_ofModules (by simp [importedModules, hmodule])
  contract := ModuleAliases.covers_ofModules (by simp [importedModules])
  container := ModuleAliases.covers_ofModules (by simp [importedModules])
  failure := ModuleAliases.covers_ofModules (by simp [importedModules])
  entries _ hentry := covers_entry contract fragments activities h hentry

end FactoryModule

theorem DispatchMethod.plan_eq {aliases : ModuleAliases} {contract : String} {kind : OwnerKind}
    {association : Association} (h : aliases.CoversMethod contract kind association) :
    DispatchMethod.plan aliases contract kind association =
      .ok (DispatchMethod.ofAssociation aliases contract kind association) := by
  have hbranches : association.entries.mapM (Branch.plan aliases) =
      .ok (association.entries.map (Branch.ofEntry aliases)) :=
    mapM_eq_ok fun entry hentry =>
      Branch.plan_eq (h.entries entry hentry).1 (h.entries entry hentry).2
  rw [DispatchMethod.plan, ModuleAliases.referenceQualified,
    ModuleAliases.reference_eq_ok h.base, ModuleAliases.reference_eq_ok h.contract,
    ModuleAliases.reference_eq_ok h.container, ModuleAliases.reference_eq_ok h.failure, hbranches]
  rfl

/-- A factory module is planned for all associations and options. -/
theorem FactoryModule.plan_eq (options : FactoryOptions) (version : Option String)
    (fragments activities : Association) :
    FactoryModule.plan options version fragments activities =
      .ok (FactoryModule.ofAssociations options version fragments activities) := by
  have hfragment := DispatchMethod.plan_eq
    (coversMethod options.contract fragments activities .fragment (.inl rfl))
  have hactivity := DispatchMethod.plan_eq
    (coversMethod options.contract fragments activities .activity (.inr rfl))
  rw [aliases] at hfragment hactivity
  simp only [FactoryModule.plan, hfragment, hactivity]
  rfl

end OwnerBinding
