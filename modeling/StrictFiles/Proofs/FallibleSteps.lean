/-!
Steps that may fail, one after another: all of them succeed when the last one does.
-/

namespace StrictFiles

variable {ε ε' α β : Type}

theorem bind_eq_ok {first : Except ε α} {next : α → Except ε β} {result : β} :
    (first >>= next) = .ok result ↔ ∃ value, first = .ok value ∧ next value = .ok result := by
  cases first <;> simp [bind, Except.bind]

theorem bind_eq_error {first : Except ε α} {next : α → Except ε β} {fault : ε} :
    (first >>= next) = .error fault ↔
      first = .error fault ∨ ∃ value, first = .ok value ∧ next value = .error fault := by
  cases first <;> simp [bind, Except.bind]

theorem mapError_eq_ok {step : Except ε α} {rename : ε → ε'} {result : α} :
    step.mapError rename = .ok result ↔ step = .ok result := by
  cases step with
  | error fault => exact ⟨nofun, nofun⟩
  | ok value =>
    constructor <;>
    · intro same
      cases same
      rfl

theorem mapError_eq_error {step : Except ε α} {rename : ε → ε'} {fault : ε'} :
    step.mapError rename = .error fault ↔ ∃ cause, step = .error cause ∧ rename cause = fault := by
  cases step with
  | error cause =>
    constructor
    · intro same
      cases same
      exact ⟨cause, rfl, rfl⟩
    · rintro ⟨_, same, rfl⟩
      cases same
      rfl
  | ok value =>
    constructor
    · exact nofun
    · rintro ⟨_, same, _⟩
      cases same

/-- A guard is passed when its fault is absent. -/
theorem guard_eq_ok {fault : Prop} [Decidable fault] {error : ε} {next : Unit → Except ε β}
    {result : β} :
    (if fault then throw error >>= next else next ()) = .ok result ↔
      ¬ fault ∧ next () = .ok result := by
  split
  · rename_i fails
    constructor
    · intro passed
      cases passed
    · exact fun passed => (passed.1 fails).elim
  · rename_i holds
    exact (and_iff_right holds).symm

end StrictFiles
