/-!
# Results with reports

`Reported ω ε α` is a result, good or bad, together with everything that was reported on the way to
it. Reports are kept in order, and those made before a failure are not lost with it.
-/

namespace OwnerBinding

/-- A result with the reports made before it was there. -/
structure Reported (ω ε α : Type) where
  reports : List ω
  result : Except ε α

namespace Reported

variable {ω ω' ε α β : Type}

def report (item : ω) : Reported ω ε Unit := ⟨[item], .ok ()⟩

/-- Gives up without a report. -/
def fail (error : ε) : Reported ω ε α := ⟨[], .error error⟩

/-- A result that was reached without reports. -/
def ofExcept (result : Except ε α) : Reported ω ε α := ⟨[], result⟩

instance : Monad (Reported ω ε) where
  pure value := ⟨[], .ok value⟩
  bind first next :=
    match first.result with
    | .ok value => ⟨first.reports ++ (next value).reports, (next value).result⟩
    | .error error => ⟨first.reports, .error error⟩

/-- The same result with each report told in other words. -/
def mapReports (f : ω → ω') (run : Reported ω ε α) : Reported ω' ε α :=
  ⟨run.reports.map f, run.result⟩

@[simp] theorem reports_pure (value : α) : (pure value : Reported ω ε α).reports = [] := rfl

@[simp] theorem result_pure (value : α) : (pure value : Reported ω ε α).result = .ok value := rfl

theorem bind_eq_of_ok {first : Reported ω ε α} {value : α} (h : first.result = .ok value)
    (next : α → Reported ω ε β) :
    first >>= next = ⟨first.reports ++ (next value).reports, (next value).result⟩ := by
  simp only [bind, h]

theorem bind_eq_of_error {first : Reported ω ε α} {error : ε} (h : first.result = .error error)
    (next : α → Reported ω ε β) : first >>= next = ⟨first.reports, .error error⟩ := by
  simp only [bind, h]

/-- A sequence succeeds exactly when both parts do. -/
theorem result_bind_eq_ok_iff {first : Reported ω ε α} {next : α → Reported ω ε β} {value : β} :
    (first >>= next).result = .ok value ↔
      ∃ middle, first.result = .ok middle ∧ (next middle).result = .ok value := by
  cases h : first.result with
  | ok middle => simp [bind_eq_of_ok h]
  | error error => simp [bind_eq_of_error h]

theorem result_bind_eq_error_iff {first : Reported ω ε α} {next : α → Reported ω ε β} {error : ε} :
    (first >>= next).result = .error error ↔
      first.result = .error error ∨
        ∃ middle, first.result = .ok middle ∧ (next middle).result = .error error := by
  cases h : first.result with
  | ok middle => simp [bind_eq_of_ok h]
  | error error => simp [bind_eq_of_error h]

end Reported

end OwnerBinding
