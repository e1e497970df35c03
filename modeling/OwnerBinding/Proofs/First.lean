import Mathlib.Data.List.Basic

/-!
# First members of lists

`IsFirst p xs x` says that `x` is the first member of `xs` with the property `p`. The property need
not be decidable, so the searches of the program are compared with it through `isFirst_iff_find?`.
-/

namespace OwnerBinding

/-- The first member with a property. -/
def IsFirst {α : Type} (p : α → Prop) (xs : List α) (x : α) : Prop :=
  ∃ before after, xs = before ++ x :: after ∧ p x ∧ ∀ y ∈ before, ¬ p y

theorem isFirst_iff_find? {α : Type} (p : α → Prop) [DecidablePred p] (xs : List α) (x : α) :
    IsFirst p xs x ↔ xs.find? (fun y => decide (p y)) = some x := by
  rw [List.find?_eq_some_iff_append]
  constructor
  · rintro ⟨before, after, hsplit, hx, hbefore⟩
    exact ⟨by simpa using hx, before, after, hsplit, by simpa using hbefore⟩
  · rintro ⟨hx, before, after, hsplit, hbefore⟩
    exact ⟨before, after, hsplit, by simpa using hx, by simpa using hbefore⟩

namespace IsFirst

variable {α β γ : Type} {p q : α → Prop} {xs : List α} {x y : α}

theorem mem (h : IsFirst p xs x) : x ∈ xs := by
  obtain ⟨before, after, rfl, _⟩ := h
  simp

theorem holds (h : IsFirst p xs x) : p x := by
  obtain ⟨_, _, _, hx, _⟩ := h
  exact hx

theorem unique (h : IsFirst p xs x) (h' : IsFirst p xs y) : x = y := by
  classical
  rw [isFirst_iff_find?] at h h'
  rw [h] at h'
  exact Option.some.inj h'

theorem exists_of_mem (hx : x ∈ xs) (hp : p x) : ∃ y, IsFirst p xs y := by
  classical
  have hsome : (xs.find? fun z => decide (p z)).isSome := by
    rw [List.find?_isSome]
    exact ⟨x, hx, by simpa using hp⟩
  obtain ⟨y, hy⟩ := Option.isSome_iff_exists.1 hsome
  exact ⟨y, (isFirst_iff_find? p xs y).2 hy⟩

/-- Only what the property says of the members matters. -/
theorem congr (h : ∀ y ∈ xs, p y ↔ q y) : IsFirst p xs x ↔ IsFirst q xs x := by
  constructor
  · rintro ⟨before, after, rfl, hx, hbefore⟩
    refine ⟨before, after, rfl, (h x (by simp)).1 hx, ?_⟩
    intro y hy
    rw [← h y (by simp [hy])]
    exact hbefore y hy
  · rintro ⟨before, after, rfl, hx, hbefore⟩
    refine ⟨before, after, rfl, (h x (by simp)).2 hx, ?_⟩
    intro y hy
    rw [h y (by simp [hy])]
    exact hbefore y hy

/-- The first of the images is the image of the first. -/
theorem map_iff {f : β → α} {zs : List β} :
    IsFirst p (zs.map f) x ↔ ∃ z, IsFirst (fun z => p (f z)) zs z ∧ f z = x := by
  constructor
  · rintro ⟨before, after, hsplit, hx, hbefore⟩
    obtain ⟨before', rest, rfl, rfl, hrest⟩ := List.map_eq_append_iff.1 hsplit
    obtain ⟨z, after', rfl, rfl, rfl⟩ := List.map_eq_cons_iff.1 hrest
    refine ⟨z, ⟨before', after', rfl, hx, ?_⟩, rfl⟩
    intro y hy
    exact hbefore (f y) (List.mem_map_of_mem hy)
  · rintro ⟨z, ⟨before, after, rfl, hz, hbefore⟩, rfl⟩
    refine ⟨before.map f, after.map f, by simp, hz, ?_⟩
    intro y hy
    obtain ⟨w, hw, rfl⟩ := List.mem_map.1 hy
    exact hbefore w hw

theorem cons_self (xs : List α) (h : p x) : IsFirst p (x :: xs) x :=
  ⟨[], xs, rfl, h, by simp⟩

theorem cons_iff_of_not (h : ¬ p y) : IsFirst p (y :: xs) x ↔ IsFirst p xs x := by
  classical
  rw [isFirst_iff_find?, isFirst_iff_find?, List.find?_cons_of_neg (by simpa using h)]

/-- A search through one kind of images finds the first of another kind of images, if each member
that counts for one of them counts for the other. -/
theorem find?_filterMap_iff {f : γ → Option β} {g : γ → Option α} {holds : β → Bool}
    {image : α → β} {ys : List γ}
    (himage : ∀ z ∈ ys, ∀ x, g z = some x → p x → f z = some (image x) ∧ holds (image x) = true)
    (horigin : ∀ z ∈ ys, ∀ y, f z = some y → holds y = true →
      ∃ x, g z = some x ∧ p x ∧ y = image x) (y : β) :
    (ys.filterMap f).find? holds = some y ↔ ∃ x, IsFirst p (ys.filterMap g) x ∧ y = image x := by
  induction ys with
  | nil =>
      constructor
      · intro h
        cases h
      · rintro ⟨x, hx, _⟩
        exact absurd hx.mem (by simp)
  | cons z ys ih =>
      have hrest := ih (fun w hw => himage w (List.mem_cons_of_mem z hw))
        fun w hw => horigin w (List.mem_cons_of_mem z hw)
      by_cases hcounts : ∃ x, g z = some x ∧ p x
      · obtain ⟨x, hg, hx⟩ := hcounts
        obtain ⟨hf, hholds⟩ := himage z List.mem_cons_self x hg hx
        have hfirst : IsFirst p ((z :: ys).filterMap g) x := by
          rw [List.filterMap_cons_some hg]
          exact cons_self _ hx
        rw [List.filterMap_cons_some hf, List.find?_cons_of_pos hholds]
        constructor
        · intro h
          exact ⟨x, hfirst, (Option.some.inj h).symm⟩
        · rintro ⟨other, hother, rfl⟩
          rw [hother.unique hfirst]
      · have hfind : ((z :: ys).filterMap f).find? holds = (ys.filterMap f).find? holds := by
          cases hf : f z with
          | none => rw [List.filterMap_cons_none hf]
          | some d =>
              have hnot : ¬ holds d = true := by
                intro hholds
                obtain ⟨x, hg, hx, _⟩ := horigin z List.mem_cons_self d hf hholds
                exact hcounts ⟨x, hg, hx⟩
              rw [List.filterMap_cons_some hf, List.find?_cons_of_neg hnot]
        have hfirst : ∀ x, IsFirst p ((z :: ys).filterMap g) x ↔ IsFirst p (ys.filterMap g) x := by
          intro x
          cases hg : g z with
          | none => rw [List.filterMap_cons_none hg]
          | some w => rw [List.filterMap_cons_some hg, cons_iff_of_not fun hw => hcounts ⟨w, hg, hw⟩]
        simp only [hfind, hfirst, hrest]

end IsFirst

end OwnerBinding
