import OwnerBinding.Proofs.Factory.Closed
import OwnerBinding.Proofs.Factory.Records

/-!
# The contract of a factory module

Owners and bindings are referred to by their modules and their names. The contract is given by a
qualified name, which is cut at its last dot, and for a class in the body of others this is not where
the module ends: the outer classes are taken for a part of the module (`TypeName.flattened`). The
factory module imports what it takes for the module of the contract and refers to the contract below
it. For a class in no other body this is the reference to the class, and for all others it is none.
-/

namespace OwnerBinding

namespace Text

/-- A text that is cut at its last separator again. -/
theorem splitAtLast_append {separator : Char} {behind : List Char} (before : List Char)
    (h : separator ∉ behind) :
    splitAtLast separator (before ++ separator :: behind) = some (before, behind) := by
  induction before with
  | nil => simp [splitAtLast, (splitAtLast_eq_none_iff separator behind).2 h]
  | cons c rest ih => simp [splitAtLast, ih]

/-- A text with a single dot in it ends in no name that has another dot. -/
theorem dot_notMem_of_append_eq {before behind other name : String} (hbefore : '.' ∉ before.toList)
    (hbehind : '.' ∉ behind.toList) (h : before ++ "." ++ behind = other ++ "." ++ name) :
    '.' ∉ name.toList := by
  have hcount := congrArg (fun text => text.toList.count '.') h
  simp only [String.toList_append, List.count_append, List.count_eq_zero_of_not_mem hbefore,
    List.count_eq_zero_of_not_mem hbehind] at hcount
  have hdot : ".".toList.count '.' = 1 := by decide
  rw [← List.count_eq_zero]
  omega

end Text

namespace TypeName

/-- The type with its outer classes as a part of its module. -/
def flattened (t : TypeName) : TypeName :=
  match Text.splitAtLast '.' t.name.toList with
  | some (outer, inner) =>
      { module := t.module ++ "." ++ String.ofList outer, name := String.ofList inner }
  | none => t

variable {t : TypeName}

theorem flattened_of_dot_notMem (h : '.' ∉ t.name.toList) : t.flattened = t := by
  rw [flattened, (Text.splitAtLast_eq_none_iff '.' _).2 h]

theorem module_flattened_ne_empty (h : t.module ≠ "") : t.flattened.module ≠ "" := by
  rw [flattened]
  split <;> simp [h]

/-- A type in the body of another one is taken for a type of another module. -/
theorem module_flattened_ne (h : '.' ∈ t.name.toList) : t.flattened.module ≠ t.module := by
  cases hsplit : Text.splitAtLast '.' t.name.toList with
  | none => exact absurd h ((Text.splitAtLast_eq_none_iff '.' _).1 hsplit)
  | some parts =>
      intro heq
      have hlength := congrArg String.length heq
      simp only [flattened, hsplit, String.length_append] at hlength
      have hdot : ".".length = 1 := rfl
      omega

theorem dot_notMem_name_flattened (t : TypeName) : '.' ∉ t.flattened.name.toList := by
  rw [flattened]
  split
  · next hsplit =>
      rw [String.toList_ofList]
      exact (Text.eq_of_splitAtLast_eq_some hsplit).2
  · next hsplit => exact (Text.splitAtLast_eq_none_iff '.' _).1 hsplit

/-- The qualified name of a type of a module is read as the type without its outer classes. -/
theorem ofQualifiedName_qualifiedName (h : t.module ≠ "") :
    ofQualifiedName t.qualifiedName = t.flattened := by
  have hchars : t.qualifiedName.toList = t.module.toList ++ '.' :: t.name.toList := by
    simp [qualifiedName, h]
  rw [ofQualifiedName, Text.splitLast, hchars, flattened]
  cases hname : Text.splitAtLast '.' t.name.toList with
  | none =>
      rw [Text.splitAtLast_append _ ((Text.splitAtLast_eq_none_iff '.' _).1 hname)]
      simp
  | some parts =>
      obtain ⟨outer, inner⟩ := parts
      obtain ⟨heq, hfree⟩ := Text.eq_of_splitAtLast_eq_some hname
      have hcut : t.module.toList ++ '.' :: t.name.toList =
          (t.module.toList ++ '.' :: outer) ++ '.' :: inner := by
        simp [heq]
      rw [hcut, Text.splitAtLast_append _ hfree]
      simp [← String.toList_inj]

end TypeName

namespace DispatchMethod

theorem result_of_length_ne_one {method : DispatchMethod} (h : method.branches.length ≠ 1) :
    method.values.result = method.contract.text := by
  rcases method with ⟨_, _, _, _, _, _ | ⟨first, _ | ⟨second, rest⟩⟩⟩
  · rfl
  · exact absurd rfl h
  · rfl

theorem result_ofAssociation {aliases : ModuleAliases} {contract : String} {kind : OwnerKind}
    {association : Association} (h : association.size ≠ 1) :
    (ofAssociation aliases contract kind association).values.result =
      (aliases.refer (TypeName.ofQualifiedName contract)).text := by
  refine result_of_length_ne_one ?_
  rwa [ofAssociation, List.length_map]

end DispatchMethod

namespace ModuleAliases

theorem eq_of_imports_eq {aliases others : ModuleAliases} (h : aliases.imports = others.imports) :
    aliases = others := by
  have hmodules := congrArg (List.map Prod.fst) h
  rw [map_fst_imports, map_fst_imports] at hmodules
  rcases aliases with ⟨modules, sorted⟩
  rcases others with ⟨modules', sorted'⟩
  obtain rfl : modules = modules' := hmodules
  rfl

theorem exists_refer_eq {aliases : ModuleAliases} {t : TypeName} (hmodule : t.module ≠ "")
    (h : t.module ∈ aliases.modules) :
    ∃ index, (t.module, aliasAt index) ∈ aliases.imports ∧
      aliases.refer t = { alias? := some (aliasAt index), name := t.name } := by
  obtain ⟨index, halias, hget⟩ := exists_alias?_eq h
  refine ⟨index, ?_, by simp [refer, hmodule, halias]⟩
  refine List.mem_map.2 ⟨(t.module, index), ?_, rfl⟩
  exact List.mem_zipIdx_iff_getElem?.2 hget

end ModuleAliases

namespace FactoryModule

/-- Modules that are imported for other things than the contract. -/
def ImportedAnyway (fragments activities : Association) (module : String) : Prop :=
  module = containerType.module ∨ module = dispatchFailureType.module ∨
    ∃ entry ∈ fragments.entries ++ activities.entries,
      module = entry.1.module ∨ module = entry.2.module

/-- A factory module names a type as the contract, below an alias of its module, and imports what it
names and nothing else. -/
structure NamesContract (m : FactoryModule) (short : String) (t : TypeName)
    (fragments activities : Association) : Prop where
  imported : (t.module, short) ∈ m.imports
  fragment_result : fragments.size ≠ 1 → m.fragment.values.result = short ++ "." ++ t.name
  activity_result : activities.size ≠ 1 → m.activity.values.result = short ++ "." ++ t.name
  /-- Below these imports, the type is referred to in this way as an owner or a binding, too. -/
  reference_eq : ∀ aliases : ModuleAliases, aliases.imports = m.imports →
    aliases.reference t = .ok { alias? := some short, name := t.name }
  imports_subset : ∀ module ∈ m.imports.map Prod.fst,
    module = t.module ∨ ImportedAnyway fragments activities module

theorem namesContract_ofAssociations (options : FactoryOptions) (version : Option String)
    (fragments activities : Association) {t : TypeName} (hmodule : t.module ≠ "")
    (ht : TypeName.ofQualifiedName options.contract = t) :
    ∃ index, (ofAssociations options version fragments activities).NamesContract
      (ModuleAliases.aliasAt index) t fragments activities := by
  have hmem : t.module ∈ (aliases options.contract fragments activities).modules := by
    rw [aliases, ModuleAliases.mem_modules_ofModules, mem_importedModules_iff, ht]
    exact ⟨.inr (.inr (.inl rfl)), hmodule⟩
  obtain ⟨index, himported, hrefer⟩ := ModuleAliases.exists_refer_eq hmodule hmem
  have hresult : ∀ kind association, association.size ≠ 1 →
      (DispatchMethod.ofAssociation (aliases options.contract fragments activities) options.contract
        kind association).values.result = ModuleAliases.aliasAt index ++ "." ++ t.name := by
    intro kind association hsize
    rw [DispatchMethod.result_ofAssociation hsize, ht, hrefer, Reference.text]
  refine ⟨index, ?_, hresult .fragment fragments, hresult .activity activities, ?_, ?_⟩
  · rw [imports_ofAssociations]
    exact himported
  · intro others himports
    rw [imports_ofAssociations] at himports
    obtain rfl := ModuleAliases.eq_of_imports_eq himports
    rw [ModuleAliases.reference_eq_ok (.inr hmem), hrefer]
  · intro module himport
    have hclosed := closed_ofAssociations options version fragments activities
    have hcases := ((hclosed.mem_imports_iff module).1 himport).2
    rw [ht] at hcases
    rcases hcases with hcontainer | hfailure | hcontract | ⟨_, hbase⟩ | ⟨_, hbase⟩ | hentry
    · exact .inr (.inl hcontainer)
    · exact .inr (.inr (.inl hfailure))
    · exact .inl hcontract
    -- The bases of the owners live in the module of the container.
    · exact .inr (.inl hbase)
    · exact .inr (.inl hbase)
    · exact .inr (.inr (.inr hentry))

/-- Where a method returns the contract, only a contract without outer classes is named as it is. -/
theorem NamesContract.dot_notMem {m : FactoryModule} {index : Nat} {other : String} {t : TypeName}
    {fragments activities : Association}
    (h : m.NamesContract (ModuleAliases.aliasAt index) t.flattened fragments activities)
    (hother : m.NamesContract other t fragments activities)
    (hsize : fragments.size ≠ 1 ∨ activities.size ≠ 1) : '.' ∉ t.name.toList := by
  have heq : ModuleAliases.aliasAt index ++ "." ++ t.flattened.name = other ++ "." ++ t.name := by
    rcases hsize with hsize | hsize
    · rw [← h.fragment_result hsize, hother.fragment_result hsize]
    · rw [← h.activity_result hsize, hother.activity_result hsize]
  exact Text.dot_notMem_of_append_eq (ModuleAliases.dot_notMem_aliasAt index)
    t.dot_notMem_name_flattened heq

/-- A contract with outer classes is named as it is only where no method returns it, and where what is
taken for its module is imported for something else. -/
theorem NamesContract.only_unused {m : FactoryModule} {index : Nat} {other : String} {t : TypeName}
    {fragments activities : Association}
    (h : m.NamesContract (ModuleAliases.aliasAt index) t.flattened fragments activities)
    (hdot : '.' ∈ t.name.toList) (hother : m.NamesContract other t fragments activities) :
    fragments.size = 1 ∧ activities.size = 1 ∧
      ImportedAnyway fragments activities t.flattened.module := by
  refine ⟨?_, ?_, ?_⟩
  · by_contra hsize
    exact h.dot_notMem hother (.inl hsize) hdot
  · by_contra hsize
    exact h.dot_notMem hother (.inr hsize) hdot
  · have himported := hother.imports_subset _ (List.mem_map_of_mem h.imported)
    exact himported.resolve_left (TypeName.module_flattened_ne hdot)

end FactoryModule

namespace Generation

/-- Any two associations are rendered with a contract that is given by the qualified name of a
declaration of some module. -/
theorem render_namesContract (options : FactoryOptions) (version : Option String)
    (fragments activities : Association) {contract : Declaration}
    (hmodule : contract.module ≠ "") (hoptions : options.contract = contract.qualifiedName) :
    ∃ found short, (render options version fragments activities).result = .ok found ∧
      found.Closed options.contract fragments activities ∧
      found.NamesContract short contract.toTypeName.flattened fragments activities ∧
      ('.' ∉ contract.name.toList →
        found.NamesContract short contract.toTypeName fragments activities) ∧
      ('.' ∈ contract.name.toList →
        ∀ other, found.NamesContract other contract.toTypeName fragments activities →
          fragments.size = 1 ∧ activities.size = 1 ∧ FactoryModule.ImportedAnyway fragments
            activities contract.toTypeName.flattened.module) := by
  have hread := TypeName.ofQualifiedName_qualifiedName hmodule
  rw [← hoptions] at hread
  obtain ⟨index, hnames⟩ := FactoryModule.namesContract_ofAssociations options version fragments
    activities (TypeName.module_flattened_ne_empty hmodule) hread
  refine ⟨_, _, result_render options version fragments activities,
    FactoryModule.closed_ofAssociations options version fragments activities, hnames, ?_, ?_⟩
  · intro hdot
    rwa [TypeName.flattened_of_dot_notMem hdot] at hnames
  · intro hdot other hother
    exact hnames.only_unused hdot hother

end Generation

/-! ## A contract in the body of a class -/

namespace NestedContract

/-- The class `ScreenBinding` in the body of the class `Contracts`. -/
def screenBinding : Declaration where
  module := "app"
  name := "Contracts.ScreenBinding"
  typeParameters := []
  superclass := none
  interfaces := .empty
  markers := .empty

def options : FactoryOptions :=
  { FactoryOptions.default with contract := screenBinding.qualifiedName }

theorem render_namesContract_screenBinding :
    screenBinding.module ≠ "" ∧ options.contract = screenBinding.qualifiedName ∧
      ∃ found short, (Generation.render options none .empty .empty).result = .ok found ∧
        found.NamesContract short { module := "app.Contracts", name := "ScreenBinding" } .empty
          .empty ∧
        ∀ other, ¬ found.NamesContract other screenBinding.toTypeName .empty .empty := by
  have hmodule : screenBinding.module ≠ "" := by decide
  refine ⟨hmodule, rfl, ?_⟩
  obtain ⟨found, short, hfound, _, hnames, _, hnested⟩ :=
    Generation.render_namesContract options none .empty .empty hmodule rfl
  refine ⟨found, short, hfound, hnames, ?_⟩
  intro other hother
  have hsize : Association.empty.size = 1 := (hnested (by decide) other hother).1
  cases hsize

/-- The class `Contracts` is imported as a module, and its own module is not. -/
theorem imports_screenBinding :
    ∃ found, (Generation.render options none .empty .empty).result = .ok found ∧
      found.imports = [("app.Contracts", "_m0"), ("bindwire.contracts", "_m1"),
        ("bindwire.exceptions", "_m2")] ∧
      found.fragment.values.result = "_m0.ScreenBinding" ∧
      screenBinding.module ∉ found.imports.map Prod.fst ∧
      ∀ entry ∈ found.imports,
        found.fragment.values.result ≠ entry.2 ++ "." ++ screenBinding.name := by
  refine ⟨_, Generation.result_render _ _ _ _, ?_⟩
  decide +kernel

end NestedContract

end OwnerBinding
