import OwnerBinding.Proofs.Text.Lines
import OwnerBinding.Text.Identifier

/-!
# Dotted names as parts of a text

A dotted name is made of identifiers with dots between them. Its characters are name characters
(`NameText`), and none of the characters that the text of a factory module has around names is one:
no line break, no space, no comma and no bracket (`NameText.notMem_of_outside`). So a name stays on
its line and ends where the text around it goes on.
-/

namespace OwnerBinding

namespace Text

/-- One or more identifiers, reserved words among them, joined by dots. -/
def IsDottedName (name : String) : Prop :=
  ∀ part ∈ components name, hasIdentifierForm part.toList = true

instance (name : String) : Decidable (IsDottedName name) :=
  List.decidableBAll (fun part : String => hasIdentifierForm part.toList = true) (components name)

/-- Whether the character can be part of a dotted name. -/
def isNameChar (c : Char) : Bool := c == '.' || isIdentifierStart c || isIdentifierContinue c

/-- Text that is made of name characters. -/
def NameText (text : String) : Prop := ∀ c ∈ text.toList, isNameChar c = true

theorem isNameChar_of_mem_identifier {chars : List Char} (h : hasIdentifierForm chars = true)
    {c : Char} (hc : c ∈ chars) : isNameChar c = true := by
  cases chars with
  | nil => cases hc
  | cons first rest =>
      simp only [hasIdentifierForm, Bool.and_eq_true, List.all_eq_true] at h
      rcases List.mem_cons.1 hc with rfl | hrest
      · simp [isNameChar, h.1]
      · simp [isNameChar, h.2 c hrest]

theorem isIdentifierContinue_of_isDigit {c : Char} (h : c.isDigit = true) :
    isIdentifierContinue c = true := by
  have hdigits : ∀ n ∈ List.range' 48 10, inRanges identifierOnlyContinueRanges n = true := by
    decide +kernel
  have hrange : c.toNat ∈ List.range' 48 10 := by
    simp only [Char.isDigit, Bool.and_eq_true, decide_eq_true_eq] at h
    change 48 ≤ c.toNat ∧ c.toNat ≤ 57 at h
    rw [List.mem_range'_1]
    omega
  simp [isIdentifierContinue, hdigits c.toNat hrange]

theorem nameText_of_isIdentifier {name : String} (h : isIdentifier name = true) : NameText name :=
  fun _ => isNameChar_of_mem_identifier (hasIdentifierForm_of_isIdentifier h)

theorem mem_of_mem_intercalate {separator c : Char} {parts : List (List Char)}
    (h : c ∈ [separator].intercalate parts) : c = separator ∨ ∃ part ∈ parts, c ∈ part := by
  induction parts with
  | nil => cases h
  | cons part rest ih =>
      cases rest with
      | nil => exact .inr ⟨part, by simp, by simpa using h⟩
      | cons other rest =>
          rw [List.intercalate_cons_cons, List.mem_append, List.mem_append] at h
          rcases h with (hpart | hseparator) | hrest
          · exact .inr ⟨part, by simp, hpart⟩
          · exact .inl (List.mem_singleton.1 hseparator)
          · rcases ih hrest with hc | ⟨found, hfound, hc⟩
            · exact .inl hc
            · exact .inr ⟨found, List.mem_cons_of_mem part hfound, hc⟩

theorem IsDottedName.nameText {name : String} (h : IsDottedName name) : NameText name := by
  intro c hc
  have hjoin : ['.'].intercalate (name.toList.splitOn '.') = name.toList :=
    List.intercalate_splitOn '.'
  rw [← hjoin] at hc
  rcases mem_of_mem_intercalate hc with rfl | ⟨part, hpart, hmem⟩
  · rfl
  · have hform := h (String.ofList part) (List.mem_map_of_mem hpart)
    rw [String.toList_ofList] at hform
    exact isNameChar_of_mem_identifier hform hmem

theorem IsDottedName.ne_empty {name : String} (h : IsDottedName name) : name ≠ "" := by
  rintro rfl
  have hform := h "" (by decide)
  cases hform

theorem NameText.splitLast {text : String} (h : NameText text) :
    NameText (splitLast text).1 ∧ NameText (splitLast text).2 :=
  ⟨fun c hc => h c (mem_of_mem_splitLast (.inl hc)),
    fun c hc => h c (mem_of_mem_splitLast (.inr hc))⟩

/-- The line breaks, the space, the comma and the opening bracket. -/
def outsideNames : List Nat :=
  [0x0A, 0x0B, 0x0C, 0x0D, 0x1C, 0x1D, 0x1E, 0x85, 0x2028, 0x2029, 0x20, 0x2C, 0x5B]

theorem not_inRanges_of_outside : ∀ n ∈ outsideNames,
    inRanges identifierStartRanges n = false ∧ inRanges identifierOnlyContinueRanges n = false := by
  decide +kernel

theorem isNameChar_of_outside {c : Char} (h : c.toNat ∈ outsideNames) : isNameChar c = false := by
  obtain ⟨hstart, hcontinue⟩ := not_inRanges_of_outside c.toNat h
  have hdot : c ≠ '.' := by
    rintro rfl
    revert h
    decide
  have hlow : c ≠ '_' := by
    rintro rfl
    revert h
    decide
  simp [isNameChar, isIdentifierStart, isIdentifierContinue, hstart, hcontinue, hdot, hlow]

theorem NameText.notMem_of_outside {text : String} (h : NameText text) {c : Char}
    (hc : c.toNat ∈ outsideNames) : c ∉ text.toList := by
  intro hmem
  have hname := h c hmem
  rw [isNameChar_of_outside hc] at hname
  cases hname

theorem toNat_mem_outsideNames {c : Char} (h : isLineBreak c = true) :
    c.toNat ∈ outsideNames := by
  simp only [isLineBreak, Bool.or_eq_true, Bool.and_eq_true, decide_eq_true_eq, beq_iff_eq] at h
  simp only [outsideNames, List.mem_cons, List.not_mem_nil, or_false]
  omega

theorem NameText.unbroken {text : String} (h : NameText text) : Unbroken text := by
  intro c hc
  rw [Bool.eq_false_iff]
  intro hbreak
  exact h.notMem_of_outside (toNat_mem_outsideNames hbreak) hc

end Text

end OwnerBinding
