/-! Results of computations that may fail. A computation in two steps succeeds exactly when the
first does and the second does with what the first gave, and fails as the first of them that does. -/
namespace LoRaNetwork

variable {ε α β : Type}

theorem map_eq_ok_iff {result : Except ε α} {f : α → β} {b : β} :
    result.map f = .ok b ↔ ∃ a, result = .ok a ∧ f a = b := by
  cases result <;> simp [Except.map]

/-- Naming a failure differently does not make it a success. -/
theorem mapError_eq_ok_iff {ε' : Type} {result : Except ε α} {f : ε → ε'} {a : α} :
    result.mapError f = .ok a ↔ result = .ok a := by
  cases result with
  | error cause => exact ⟨nofun, nofun⟩
  | ok b =>
    constructor
    · rintro ⟨⟩
      rfl
    · rintro ⟨⟩
      rfl

theorem toOption_eq_some_iff {result : Except ε α} {a : α} :
    result.toOption = some a ↔ result = .ok a := by
  cases result <;> simp [Except.toOption]

/-- A computation goes on with what its first step gave. -/
theorem ok_bind {a : α} {next : α → Except ε β} : (Except.ok a >>= next) = next a := rfl

theorem bind_eq_ok_iff {result : Except ε α} {next : α → Except ε β} {b : β} :
    (result >>= next) = .ok b ↔ ∃ a, result = .ok a ∧ next a = .ok b := by
  cases result <;> simp [bind, Except.bind]

/-- Why a computation failed, if it did. -/
def failure? : Except ε α → Option ε
  | .error cause => some cause
  | .ok _ => none

@[simp]
theorem failure?_error {cause : ε} : failure? (.error cause : Except ε α) = some cause := rfl

@[simp]
theorem failure?_ok {a : α} : failure? (.ok a : Except ε α) = none := rfl

theorem failure?_ite {p : Prop} [Decidable p] {a b : Except ε α} :
    failure? (if p then a else b) = if p then failure? a else failure? b := by
  split <;> rfl

theorem failure?_dite {p : Prop} [Decidable p] {a : p → Except ε α} {b : ¬p → Except ε α} :
    failure? (if h : p then a h else b h) = if h : p then failure? (a h) else failure? (b h) := by
  split <;> rfl

theorem failure?_eq_some_iff {result : Except ε α} {cause : ε} :
    failure? result = some cause ↔ result = .error cause := by
  cases result <;> simp [failure?]

theorem failure?_eq_none_iff {result : Except ε α} :
    failure? result = none ↔ ∃ a, result = .ok a := by
  cases result <;> simp [failure?]

@[simp]
theorem failure?_map {result : Except ε α} {f : α → β} :
    failure? (result.map f) = failure? result := by
  cases result <;> rfl

@[simp]
theorem failure?_mapError {ε' : Type} {result : Except ε α} {f : ε → ε'} :
    failure? (result.mapError f) = (failure? result).map f := by
  cases result <;> rfl

/-- The first step's failure comes before the second's. -/
theorem failure?_bind {result : Except ε α} {next : α → Except ε β} {fault? : Option ε}
    (second : ∀ a, result = .ok a → failure? (next a) = fault?) :
    failure? (result >>= next) = (failure? result).or fault? := by
  cases result with
  | error cause => rfl
  | ok a => exact second a rfl

/-- A second step that always succeeds does not add a failure. -/
theorem failure?_bind_total {result : Except ε α} {next : α → Except ε β}
    (total : ∀ a, failure? (next a) = none) : failure? (result >>= next) = failure? result := by
  rw [failure?_bind fun a _ => total a, Option.or_none]

theorem bind_ne_error {result : Except ε α} {next : α → Except ε β} {cause : ε}
    (first : result ≠ .error cause) (second : ∀ a, next a ≠ .error cause) :
    (result >>= next) ≠ .error cause := by
  cases result with
  | error other =>
    intro failed
    cases failed
    exact first rfl
  | ok a => exact second a

end LoRaNetwork
