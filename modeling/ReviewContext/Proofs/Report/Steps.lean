import ReviewContext.Report.Failure

/-!
# Steps that may fail

Work in steps has a result if every step has one, and it fails where the first of its steps fails.
-/

namespace ReviewContext

section Steps

variable {ε α β : Type} {first : Except ε α} {next : α → Except ε β} {failure : ε}

theorem bind_eq_error :
    (first >>= next) = .error failure ↔
      first = .error failure ∨ ∃ value, first = .ok value ∧ next value = .error failure := by
  cases first <;> simp [bind, Except.bind]

theorem bind_eq_ok {result : β} :
    (first >>= next) = .ok result ↔ ∃ value, first = .ok value ∧ next value = .ok result := by
  cases first <;> simp [bind, Except.bind]

theorem pure_eq_ok {value result : α} :
    (pure value : Except ε α) = .ok result ↔ value = result := by
  simp [pure, Except.pure]

theorem pure_ne_error {value : α} : (pure value : Except ε α) ≠ .error failure := by
  simp [pure, Except.pure]

theorem map_eq_ok {change : α → β} {result : β} :
    first.map change = .ok result ↔ ∃ value, first = .ok value ∧ change value = result := by
  cases first <;> simp [Except.map]

theorem map_eq_error {change : α → β} :
    first.map change = .error failure ↔ first = .error failure := by
  cases first <;> simp [Except.map]

theorem exists_map_eq_ok {change : α → β} :
    (∃ result, first.map change = .ok result) ↔ ∃ value, first = .ok value := by
  cases first <;> simp [Except.map]

end Steps

end ReviewContext
