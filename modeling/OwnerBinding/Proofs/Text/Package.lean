import OwnerBinding.Text.Identifier

/-!
# Packages and their components

A name is cut at each of its dots and joined by dots again. Both ways lose nothing, as long as no part
has a dot in it, and an identifier has none. So the names of packages are exactly the empty text and
the texts that identifiers make with single dots between them, and there is one way to make each.
-/

namespace OwnerBinding

namespace Text

/-- The dot and the slash, which paths and packages are joined with. -/
def joints : List Nat := [0x2E, 0x2F]

theorem not_inRanges_of_joint : ∀ n ∈ joints,
    inRanges identifierStartRanges n = false ∧ inRanges identifierOnlyContinueRanges n = false := by
  decide +kernel

/-- No identifier has a dot or a slash in it, whether it is reserved or not. -/
theorem notMem_of_joint {chars : List Char} (h : hasIdentifierForm chars = true) {c : Char}
    (hc : c.toNat ∈ joints) : c ∉ chars := by
  obtain ⟨hstart, hcontinue⟩ := not_inRanges_of_joint c.toNat hc
  have hlow : c ≠ '_' := by
    rintro rfl
    revert hc
    decide
  cases chars with
  | nil => exact List.not_mem_nil
  | cons first rest =>
      simp only [hasIdentifierForm, Bool.and_eq_true, List.all_eq_true] at h
      obtain ⟨hfirst, hrest⟩ := h
      rw [List.mem_cons, not_or]
      constructor
      · rintro rfl
        simp [isIdentifierStart, hstart, hlow] at hfirst
      · intro hmem
        have hcontinues := hrest c hmem
        simp [isIdentifierContinue, hstart, hcontinue] at hcontinues

theorem dot_notMem_of_isIdentifier {name : String} (h : isIdentifier name = true) :
    '.' ∉ name.toList :=
  notMem_of_joint (hasIdentifierForm_of_isIdentifier h) (by decide)

theorem slash_notMem_of_isIdentifier {name : String} (h : isIdentifier name = true) :
    '/' ∉ name.toList :=
  notMem_of_joint (hasIdentifierForm_of_isIdentifier h) (by decide)

theorem ne_empty_of_isIdentifier {name : String} (h : isIdentifier name = true) : name ≠ "" := by
  rintro rfl
  cases hasIdentifierForm_of_isIdentifier h

/-! ## Cutting and joining -/

theorem components_ne_nil (name : String) : components name ≠ [] := by
  rw [components, ne_eq, List.map_eq_nil_iff]
  exact List.splitOn_ne_nil '.' _

theorem intercalate_components (name : String) : ".".intercalate (components name) = name := by
  rw [← String.toList_inj, String.toList_intercalate, components, List.map_map]
  simp

theorem components_of_dot_notMem {name : String} (h : '.' ∉ name.toList) :
    components name = [name] := by
  simp [components, List.splitOn_eq_singleton h]

/-- A text that follows a dot adds one component to those before the dot. -/
theorem components_append {name : String} (package : String) (h : '.' ∉ name.toList) :
    components (package ++ "." ++ name) = components package ++ [name] := by
  have hchars : (package ++ "." ++ name).toList = package.toList ++ '.' :: name.toList := by simp
  rw [components, hchars, List.splitOn_append_cons_self, List.map_append,
    List.splitOn_eq_singleton h, components]
  simp

theorem components_intercalate {parts : List String} (hne : parts ≠ [])
    (h : ∀ part ∈ parts, '.' ∉ part.toList) : components (".".intercalate parts) = parts := by
  have hchars : (".".intercalate parts).toList = ['.'].intercalate (parts.map String.toList) := by
    simp
  rw [components, hchars, List.splitOn_intercalate '.' (by simpa using h) (by simpa using hne)]
  simp

/-! ## The names of packages -/

/-- A package is named by nothing, or by identifiers with single dots between them. -/
theorem isPackageName_iff (name : String) : isPackageName name = true ↔
    name = "" ∨ ∃ parts : List String, parts ≠ [] ∧ (∀ part ∈ parts, isIdentifier part = true) ∧
      name = ".".intercalate parts := by
  rw [isPackageName, Bool.or_eq_true, String.isEmpty_iff, List.all_eq_true]
  refine or_congr_right ?_
  constructor
  · intro h
    exact ⟨components name, components_ne_nil name, h, (intercalate_components name).symm⟩
  · rintro ⟨parts, hne, hparts, rfl⟩
    rwa [components_intercalate hne fun part hpart => dot_notMem_of_isIdentifier (hparts part hpart)]

end Text

end OwnerBinding
