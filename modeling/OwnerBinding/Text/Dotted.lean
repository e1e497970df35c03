/-!
# Dotted names

A dotted name is text whose dots separate components. `splitLast` cuts at the last dot, `components`
at every dot. A text without a dot has one component, itself, and nothing before its last dot, so
both are total on all texts.
-/

namespace OwnerBinding

namespace Text

/-- The characters before and behind the last occurrence of `separator`, if there is one. -/
def splitAtLast (separator : Char) : List Char → Option (List Char × List Char)
  | [] => none
  | c :: rest =>
      match splitAtLast separator rest with
      | some (before, behind) => some (c :: before, behind)
      | none => if c = separator then some ([], rest) else none

/-- A text has no last occurrence of a character exactly when the character is not in it. -/
theorem splitAtLast_eq_none_iff (separator : Char) (text : List Char) :
    splitAtLast separator text = none ↔ separator ∉ text := by
  induction text with
  | nil => simp [splitAtLast]
  | cons c rest ih =>
      rw [splitAtLast]
      cases h : splitAtLast separator rest with
      | none =>
          have := ih.1 h
          by_cases hc : c = separator
          · simp [hc]
          · simp [hc, this, Ne.symm hc]
      | some parts =>
          have : separator ∈ rest := by
            by_cases hm : separator ∈ rest
            · exact hm
            · rw [ih.2 hm] at h; cases h
          simp [this]

/-- The split pieces are the text around one separator, and the second holds no other. -/
theorem eq_of_splitAtLast_eq_some {separator : Char} {text before behind : List Char}
    (h : splitAtLast separator text = some (before, behind)) :
    text = before ++ separator :: behind ∧ separator ∉ behind := by
  induction text generalizing before with
  | nil => simp [splitAtLast] at h
  | cons c rest ih =>
      rw [splitAtLast] at h
      cases hr : splitAtLast separator rest with
      | none =>
          rw [hr] at h
          by_cases hc : c = separator
          · simp only [hc, ↓reduceIte, Option.some.injEq, Prod.mk.injEq] at h
            obtain ⟨rfl, rfl⟩ := h
            exact ⟨by simp [hc], (splitAtLast_eq_none_iff _ _).1 hr⟩
          · simp [hc] at h
      | some parts =>
          rw [hr] at h
          simp only [Option.some.injEq, Prod.mk.injEq] at h
          obtain ⟨rfl, rfl⟩ := h
          obtain ⟨hrest, hfree⟩ := ih hr
          exact ⟨by simp [← hrest], hfree⟩

/-- The text before the last dot and the text behind it; without a dot, the empty text and the
whole. -/
def splitLast (name : String) : String × String :=
  match splitAtLast '.' name.toList with
  | some (before, behind) => (String.ofList before, String.ofList behind)
  | none => ("", name)

theorem mem_of_mem_splitLast {name : String} {c : Char}
    (h : c ∈ (splitLast name).1.toList ∨ c ∈ (splitLast name).2.toList) : c ∈ name.toList := by
  unfold splitLast at h
  split at h
  · next before behind hsplit =>
      rw [(eq_of_splitAtLast_eq_some hsplit).1]
      rcases h with h | h <;> simp_all
  · simpa using h

/-- The components between the dots. The empty text has one component, the empty one. -/
def components (name : String) : List String :=
  (name.toList.splitOn '.').map String.ofList

end Text

end OwnerBinding
