/-!
# Checks that keep every fault

A check gives a value or the list of all faults that were found. Two checks side by side both run,
and their faults are listed in order; a check that depends on another one runs only if the first
found nothing.
-/

namespace OwnerBinding

/-- A value, or the faults that stand against it. -/
abbrev Checked (ε α : Type) := Except (List ε) α

namespace Checked

variable {ε ε' α β γ : Type}

def fault (error : ε) : Checked ε α := .error [error]

def faults : Checked ε α → List ε
  | .ok _ => []
  | .error errors => errors

def both : Checked ε α → Checked ε β → Checked ε (α × β)
  | .ok a, .ok b => .ok (a, b)
  | .ok _, .error errors => .error errors
  | .error errors, .ok _ => .error errors
  | .error errors, .error more => .error (errors ++ more)

def all : List (Checked ε α) → Checked ε (List α)
  | [] => .ok []
  | check :: rest => (both check (all rest)).map fun values => values.1 :: values.2

/-- The check with its faults told in other words. -/
def mapFaults (f : ε → ε') : Checked ε α → Checked ε' α
  | .ok a => .ok a
  | .error errors => .error (errors.map f)

@[simp] theorem faults_ok (a : α) : faults (.ok a : Checked ε α) = [] := rfl

@[simp] theorem faults_error (errors : List ε) :
    faults (.error errors : Checked ε α) = errors := rfl

@[simp] theorem faults_both (first : Checked ε α) (second : Checked ε β) :
    (both first second).faults = first.faults ++ second.faults := by
  cases first <;> cases second <;> simp [both]

@[simp] theorem faults_map (f : α → β) (check : Checked ε α) :
    faults (check.map f) = check.faults := by
  cases check <;> rfl

@[simp] theorem faults_mapFaults (f : ε → ε') (check : Checked ε α) :
    (check.mapFaults f).faults = check.faults.map f := by
  cases check <;> rfl

/-- The faults of a list of checks are those of its members in order. -/
theorem faults_all (checks : List (Checked ε α)) :
    (all checks).faults = checks.flatMap faults := by
  induction checks with
  | nil => rfl
  | cons check rest ih => simp [all, ih]

theorem both_eq_ok_iff (first : Checked ε α) (second : Checked ε β) (a : α) (b : β) :
    both first second = .ok (a, b) ↔ first = .ok a ∧ second = .ok b := by
  cases first <;> cases second <;> simp [both]

theorem map_eq_ok_iff (f : α → β) (check : Checked ε α) (b : β) :
    check.map f = .ok b ↔ ∃ a, check = .ok a ∧ f a = b := by
  cases check <;> simp [Except.map]

theorem mapFaults_eq_ok_iff (f : ε → ε') (check : Checked ε α) (a : α) :
    check.mapFaults f = .ok a ↔ check = .ok a := by
  cases check <;> simp [mapFaults]

@[simp] theorem all_nil : all ([] : List (Checked ε α)) = .ok [] := rfl

theorem all_cons_eq_ok_iff (check : Checked ε α) (rest : List (Checked ε α)) (a : α)
    (as : List α) : all (check :: rest) = .ok (a :: as) ↔ check = .ok a ∧ all rest = .ok as := by
  rw [all, map_eq_ok_iff]
  constructor
  · rintro ⟨⟨b, bs⟩, hboth, heq⟩
    obtain ⟨rfl, rfl⟩ := List.cons.inj heq
    exact (both_eq_ok_iff _ _ _ _).1 hboth
  · intro h
    exact ⟨(a, as), (both_eq_ok_iff _ _ _ _).2 h, rfl⟩

theorem all_cons_ne_ok_nil (check : Checked ε α) (rest : List (Checked ε α)) :
    all (check :: rest) ≠ .ok [] := by
  rw [all, ne_eq, map_eq_ok_iff]
  rintro ⟨_, _, h⟩
  cases h

end Checked

end OwnerBinding
