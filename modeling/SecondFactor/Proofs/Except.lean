/-!
Results of checks that stop at the first failure, read back from a success or a failure.
-/

namespace SecondFactor

variable {ε ε' α β : Type}

theorem bind_eq_ok_iff {result : Except ε α} {next : α → Except ε β} {value : β} :
    (result >>= next) = .ok value ↔ ∃ first, result = .ok first ∧ next first = .ok value := by
  cases result with
  | error failure =>
      constructor
      · intro hbind
        cases hbind
      · rintro ⟨first, hfirst, _⟩
        cases hfirst
  | ok first =>
      constructor
      · intro hbind
        exact ⟨first, rfl, hbind⟩
      · rintro ⟨given, hgiven, hnext⟩
        cases hgiven
        exact hnext

theorem mapError_eq_ok_iff {result : Except ε α} {change : ε → ε'} {value : α} :
    result.mapError change = .ok value ↔ result = .ok value := by
  cases result with
  | error failure =>
      constructor
      · intro hmapped
        cases hmapped
      · intro hresult
        cases hresult
  | ok given =>
      constructor
      · intro hmapped
        cases hmapped
        rfl
      · intro hresult
        cases hresult
        rfl

theorem eq_ok_of_toOption_eq_some {result : Except ε α} {value : α}
    (hresult : result.toOption = some value) : result = .ok value := by
  cases result with
  | error failure => cases hresult
  | ok given =>
      cases hresult
      rfl

/-- A check that is passed, before another one. -/
theorem guard_eq_ok_iff {failed : Prop} [Decidable failed] {failure : ε}
    {next : α → Except ε β} {rest : Except ε β} {value : β} :
    (if failed then throw failure >>= next else rest) = .ok value ↔
      ¬ failed ∧ rest = .ok value := by
  by_cases hfailed : failed
  · rw [if_pos hfailed]
    constructor
    · intro hthrow
      cases hthrow
    · exact fun hpassed => absurd hfailed hpassed.1
  · rw [if_neg hfailed]
    exact ⟨fun hrest => ⟨hfailed, hrest⟩, fun hpassed => hpassed.2⟩

/-- A check that is passed, with nothing after it. -/
theorem lastGuard_eq_ok_iff {failed : Prop} [Decidable failed] {failure : ε}
    {rest : Except ε α} {value : α} :
    (if failed then throw failure else rest) = .ok value ↔ ¬ failed ∧ rest = .ok value :=
  @guard_eq_ok_iff ε α α failed _ failure .ok rest value

/-! Failures. -/

theorem bind_eq_error_iff {result : Except ε α} {next : α → Except ε β} {failure : ε} :
    (result >>= next) = .error failure ↔
      result = .error failure ∨ ∃ first, result = .ok first ∧ next first = .error failure := by
  cases result with
  | error given =>
      constructor
      · intro hbind
        cases hbind
        exact .inl rfl
      · rintro (hgiven | ⟨first, hfirst, _⟩)
        · cases hgiven
          rfl
        · cases hfirst
  | ok first =>
      constructor
      · intro hbind
        exact .inr ⟨first, rfl, hbind⟩
      · rintro (hgiven | ⟨given, hgiven, hnext⟩)
        · cases hgiven
        · cases hgiven
          exact hnext

theorem mapError_eq_error_iff {result : Except ε α} {change : ε → ε'} {failure : ε'} :
    result.mapError change = .error failure ↔
      ∃ given, result = .error given ∧ change given = failure := by
  cases result with
  | error given =>
      constructor
      · intro hmapped
        cases hmapped
        exact ⟨given, rfl, rfl⟩
      · rintro ⟨other, hother, rfl⟩
        cases hother
        rfl
  | ok value =>
      constructor
      · intro hmapped
        cases hmapped
      · rintro ⟨given, hgiven, _⟩
        cases hgiven

/-- A check that fails, before another one. -/
theorem guard_eq_error_iff {failed : Prop} [Decidable failed] {failure given : ε}
    {next : α → Except ε β} {rest : Except ε β} :
    (if failed then throw failure >>= next else rest) = .error given ↔
      failed ∧ failure = given ∨ ¬ failed ∧ rest = .error given := by
  by_cases hfailed : failed
  · rw [if_pos hfailed]
    constructor
    · intro hthrow
      cases hthrow
      exact .inl ⟨hfailed, rfl⟩
    · rintro (⟨_, rfl⟩ | ⟨hpassed, _⟩)
      · rfl
      · exact absurd hfailed hpassed
  · rw [if_neg hfailed]
    simp [hfailed]

/-- A check that fails, with nothing after it. -/
theorem lastGuard_eq_error_iff {failed : Prop} [Decidable failed] {failure given : ε}
    {rest : Except ε α} :
    (if failed then throw failure else rest) = .error given ↔
      failed ∧ failure = given ∨ ¬ failed ∧ rest = .error given :=
  @guard_eq_error_iff ε α α failed _ failure given .ok rest

end SecondFactor
