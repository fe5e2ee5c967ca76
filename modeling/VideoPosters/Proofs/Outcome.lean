/-!
# Outcomes of computations that may fail

What a computation in several steps comes to, if it succeeds, is what its steps come to.

## Main results

* `exists_of_bind_eq_ok`, `exists_of_map_eq_ok` — what the steps came to.
* `eq_error_of_map_eq_error` — changing an outcome leaves the error.
* `exists_ok_of_ne_error` — what does not fail succeeds.
* `except_map_map`, `except_mapError_map` — changing an outcome twice.
-/

namespace VideoPosters

variable {ε ε' α β γ : Type}

/-- A computation in two steps succeeds if both do. -/
theorem exists_of_bind_eq_ok {x : Except ε α} {f : α → Except ε β} {b : β}
    (h : (x >>= f) = .ok b) : ∃ a, x = .ok a ∧ f a = .ok b := by
  cases x with
  | error e => cases h
  | ok a => exact ⟨a, rfl, h⟩

theorem exists_of_map_eq_ok {x : Except ε α} {f : α → β} {b : β} (h : x.map f = .ok b) :
    ∃ a, x = .ok a ∧ f a = b := by
  cases x with
  | error e => cases h
  | ok a => exact ⟨a, rfl, Except.ok.inj h⟩

theorem eq_error_of_map_eq_error {x : Except ε α} {f : α → β} {e : ε}
    (h : x.map f = .error e) : x = .error e := by
  cases x with
  | error e' => exact congrArg Except.error (Except.error.inj h)
  | ok a => cases h

theorem exists_ok_of_ne_error {x : Except ε α} (h : ∀ e, x ≠ .error e) : ∃ a, x = .ok a := by
  cases x with
  | error e => exact absurd rfl (h e)
  | ok a => exact ⟨a, rfl⟩

/-- What is done to the error does not depend on what is done to the outcome. -/
theorem except_mapError_map (x : Except ε α) (f : α → β) (g : ε → ε') :
    (x.map f).mapError g = (x.mapError g).map f := by
  cases x <;> rfl

/-- Mapping an outcome twice is mapping it once. -/
theorem except_map_map (x : Except ε α) (f : α → β) (g : β → γ) :
    (x.map f).map g = x.map fun a => g (f a) := by
  cases x <;> rfl

end VideoPosters
