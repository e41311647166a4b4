/-! # Computations that may fail

What becomes of a computation step by step: a step that fails ends it with its fault, and
a step that succeeds hands its value on.  With `bind_eq_ok_iff` and `bind_eq_error_iff`
the steps of a run that succeeded or failed are taken apart one at a time.
-/

namespace EntityHeaders.Fallible

variable {ε δ α β : Type}

/-! ## One step -/

@[simp]
theorem ok_bind (a : α) (next : α → Except ε β) : (Except.ok a >>= next) = next a :=
  rfl

@[simp]
theorem error_bind (fault : ε) (next : α → Except ε β) :
    (Except.error fault >>= next) = .error fault :=
  rfl

@[simp]
theorem pure_eq_ok (a : α) : (pure a : Except ε α) = .ok a :=
  rfl

@[simp]
theorem map_ok (f : α → β) (a : α) : (f <$> Except.ok a : Except ε β) = .ok (f a) :=
  rfl

@[simp]
theorem map_error (f : α → β) (fault : ε) : (f <$> Except.error fault) = .error fault :=
  rfl

@[simp]
theorem mapError_ok (f : ε → δ) (a : α) : (Except.ok a : Except ε α).mapError f = .ok a :=
  rfl

@[simp]
theorem mapError_error (f : ε → δ) (fault : ε) :
    (Except.error fault : Except ε α).mapError f = .error (f fault) :=
  rfl

/-! ## Taking runs apart -/

theorem bind_eq_ok_iff {first : Except ε α} {next : α → Except ε β} {b : β} :
    (first >>= next) = .ok b ↔ ∃ a, first = .ok a ∧ next a = .ok b := by
  cases first <;> simp

theorem bind_eq_error_iff {first : Except ε α} {next : α → Except ε β} {fault : ε} :
    (first >>= next) = .error fault ↔
      first = .error fault ∨ ∃ a, first = .ok a ∧ next a = .error fault := by
  cases first <;> simp

theorem map_eq_ok_iff {first : Except ε α} {f : α → β} {b : β} :
    f <$> first = .ok b ↔ ∃ a, first = .ok a ∧ f a = b := by
  cases first <;> simp

theorem map_eq_error_iff {first : Except ε α} {f : α → β} {fault : ε} :
    f <$> first = .error fault ↔ first = .error fault := by
  cases first <;> simp

theorem mapError_eq_ok_iff {first : Except ε α} {f : ε → δ} {a : α} :
    first.mapError f = .ok a ↔ first = .ok a := by
  cases first <;> simp

/-- A step for a value that may be absent is left out without it. -/
theorem mapM_eq_ok_iff {step : α → Except ε β} {value : Option α} {result : Option β} :
    value.mapM step = .ok result ↔
      value = none ∧ result = none ∨ ∃ a b, value = some a ∧ step a = .ok b ∧ result = some b := by
  cases value with
  | none => simp [eq_comm]
  | some a =>
    rw [Option.mapM_some, map_eq_ok_iff]
    simp [eq_comm]

end EntityHeaders.Fallible
