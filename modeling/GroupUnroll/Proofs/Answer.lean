import GroupUnroll.Refusal

/-! # Answers and refusals

A computation that may be refused answers what its last step answers, and is refused by the first step that
is.
-/

namespace GroupUnroll

variable {α β : Type} {result : Except Refusal α} {next : α → Except Refusal β} {value : β}
  {refusal : Refusal}

theorem exists_eq_ok (answered : result.isOk = true) :
    ∃ value, result = .ok value := by
  cases result with
  | error refusal => exact absurd answered (by simp [Except.isOk, Except.toBool])
  | ok value => exact ⟨value, rfl⟩

/-- What becomes of an answer does not matter where there is none. -/
theorem eq_error_of_map {change : α → β} (refused : result.map change = .error refusal) :
    result = .error refusal := by
  cases result with
  | error other => exact congrArg Except.error (Except.error.inj refused)
  | ok value => cases refused

theorem map_eq_ok {change : α → β} :
    result.map change = .ok value ↔ ∃ first, result = .ok first ∧ change first = value := by
  cases result with
  | error refusal => simp [Except.map]
  | ok first => simp [Except.map]

theorem bind_eq_ok :
    result >>= next = .ok value ↔ ∃ first, result = .ok first ∧ next first = .ok value := by
  cases result with
  | error refusal =>
    refine ⟨fun same => ?_, ?_⟩
    · cases same
    · rintro ⟨first, same, -⟩
      cases same
  | ok first =>
    refine ⟨fun same => ⟨first, rfl, same⟩, ?_⟩
    rintro ⟨other, same, answer⟩
    obtain rfl := Except.ok.inj same
    exact answer

theorem bind_eq_error : result >>= next = .error refusal ↔
      result = .error refusal ∨ ∃ first, result = .ok first ∧ next first = .error refusal := by
  cases result with
  | error other =>
    constructor
    · intro same
      obtain rfl : other = refusal := Except.error.inj same
      exact .inl rfl
    · rintro (same | ⟨first, same, -⟩)
      · obtain rfl := Except.error.inj same
        rfl
      · cases same
  | ok first =>
    refine ⟨fun same => .inr ⟨first, rfl, same⟩, ?_⟩
    rintro (same | ⟨other, same, answer⟩)
    · cases same
    · obtain rfl := Except.ok.inj same
      exact answer

end GroupUnroll
