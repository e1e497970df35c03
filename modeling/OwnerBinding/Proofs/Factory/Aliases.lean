import OwnerBinding.Proofs.Factory.Contract
import OwnerBinding.Proofs.Text.NameSet

/-!
# References by module

The aliases follow the set of the modules that have a name, so a list of modules counts for what is in
it alone (`ModuleAliases.ofModules_congr`). A number ends before the first dot of a reference, so the
text of a reference is expanded to one type, and no two types of imported modules are referred to by
the same text (`ModuleAliases.text_refer_eq_iff`). What fails is a reference to a type of a module that
has a name and is not in the list.
-/

namespace OwnerBinding

namespace ModuleAliases

variable {aliases : ModuleAliases} {modules others : List String} {t u : TypeName}

theorem ofModules_congr
    (h : ∀ module, module ≠ "" → (module ∈ others ↔ module ∈ modules)) :
    ofModules others = ofModules modules := by
  have hset : NameSet.ofList (others.filter fun m => !m.isEmpty) =
      NameSet.ofList (modules.filter fun m => !m.isEmpty) := by
    rw [NameSet.ofList_eq_iff]
    intro module
    by_cases hempty : module = ""
    · simp [hempty]
    · simp [hempty, h module hempty]
  rw [ofModules, hset, ofModules]

theorem covers_ofModules_iff : (ofModules modules).Covers t ↔ t.module = "" ∨ t.module ∈ modules := by
  rw [Covers, mem_modules_ofModules]
  by_cases hempty : t.module = "" <;> simp [hempty]

theorem text_refer_eq_iff (ht : t.module ≠ "") (hu : u.module ≠ "") (hcovers : aliases.Covers t)
    (hcovers' : aliases.Covers u) : (aliases.refer t).text = (aliases.refer u).text ↔ t = u := by
  constructor
  · intro htext
    have hexpand := expand?_refer ht hcovers
    rw [htext, expand?_refer hu hcovers'] at hexpand
    exact (Option.some.inj hexpand).symm
  · rintro rfl
    rfl

theorem reference_eq_error_iff {failure : Failure} : aliases.reference t = .error failure ↔
    ¬ aliases.Covers t ∧ failure = .moduleNotImported t.module := by
  by_cases hcovers : aliases.Covers t
  · simp [reference_eq_ok hcovers, hcovers]
  · obtain ⟨hempty, hmem⟩ := not_or.1 hcovers
    have halias : aliases.alias? t.module = none := by
      rw [alias?, Option.map_eq_none_iff, List.idxOf?_eq_none_iff]
      exact hmem
    have hisEmpty : t.module.isEmpty = false := by simpa using hempty
    simp [reference, hisEmpty, halias, hcovers, eq_comm]

/-- A module and a name without a dot are found again in the qualified name. -/
theorem referenceQualified_eq {module name : String} (hmodule : module ≠ "")
    (hdot : '.' ∉ name.toList) :
    aliases.referenceQualified (module ++ "." ++ name) = aliases.reference { module, name } := by
  have hread := TypeName.ofQualifiedName_qualifiedName (t := { module, name }) hmodule
  rw [TypeName.flattened_of_dot_notMem hdot, TypeName.qualifiedName,
    if_neg (by simpa using hmodule)] at hread
  rw [referenceQualified, hread]

/-- What references below the aliases of some modules are. -/
structure RefersByModule (modules : List String) : Prop where
  imports_eq : ∀ others : List String,
    (∀ module, module ≠ "" → (module ∈ others ↔ module ∈ modules)) →
      (ofModules others).imports = (ofModules modules).imports
  /-- No two types are referred to alike. -/
  text_eq_iff : ∀ m₁ ∈ modules, m₁ ≠ "" → ∀ m₂ ∈ modules, m₂ ≠ "" → ∀ n₁ n₂ : String,
    ∃ r₁ r₂, (ofModules modules).reference { module := m₁, name := n₁ } = .ok r₁ ∧
      (ofModules modules).reference { module := m₂, name := n₂ } = .ok r₂ ∧
      (r₁.text = r₂.text ↔ m₁ = m₂ ∧ n₁ = n₂)
  error_iff : ∀ (module name : String) (failure : Failure),
    (ofModules modules).reference { module, name } = .error failure ↔
      (module ≠ "" ∧ module ∉ modules) ∧ failure = .moduleNotImported module
  qualified_eq : ∀ module ∈ modules, module ≠ "" → ∀ name : String, '.' ∉ name.toList →
    (ofModules modules).referenceQualified (module ++ "." ++ name) =
      (ofModules modules).reference { module, name }

/-- References below the aliases of any modules tell the types, and depend on the set of the modules
alone. -/
theorem refersByModule (modules : List String) : RefersByModule modules where
  imports_eq others h := by rw [ofModules_congr h]
  text_eq_iff m₁ hmem₁ hne₁ m₂ hmem₂ hne₂ n₁ n₂ := by
    have hcovers₁ : (ofModules modules).Covers { module := m₁, name := n₁ } := covers_ofModules hmem₁
    have hcovers₂ : (ofModules modules).Covers { module := m₂, name := n₂ } := covers_ofModules hmem₂
    refine ⟨_, _, reference_eq_ok hcovers₁, reference_eq_ok hcovers₂, ?_⟩
    rw [text_refer_eq_iff hne₁ hne₂ hcovers₁ hcovers₂, TypeName.mk.injEq]
  error_iff module name failure := by
    rw [reference_eq_error_iff, covers_ofModules_iff, not_or]
  qualified_eq module _ hne name hdot := referenceQualified_eq hne hdot

end ModuleAliases

end OwnerBinding
