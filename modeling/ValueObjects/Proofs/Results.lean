/-!
# Results

How a computation that may be refused gets through: every part of it does.
-/

namespace ValueObjects

variable {ε α β : Type}

theorem bind_eq_ok {x : Except ε α} {f : α → Except ε β} {b : β} :
    (x >>= f) = .ok b ↔ ∃ a, x = .ok a ∧ f a = .ok b := by
  cases x <;> simp [bind, Except.bind]

/-- A computation is refused by the first of its parts that is. -/
theorem bind_eq_error {x : Except ε α} {f : α → Except ε β} {e : ε} :
    (x >>= f) = .error e ↔ x = .error e ∨ ∃ a, x = .ok a ∧ f a = .error e := by
  cases x <;> simp [bind, Except.bind]

/-- A part without a result of its own only has to get through. -/
theorem exists_done {p : Unit → Prop} : (∃ u, p u) ↔ p () :=
  ⟨fun ⟨_, h⟩ => h, fun h => ⟨_, h⟩⟩

theorem pure_eq_ok {a b : α} : (pure a : Except ε α) = .ok b ↔ a = b := by
  simp [pure, Except.pure]

/-- What is left of a computation that got through is its result. -/
theorem eq_ok_of_toOption {x : Except ε α} {a : α} (h : x.toOption = some a) : x = .ok a := by
  cases x with
  | error _ => cases h
  | ok _ => simpa [Except.toOption] using h

/-- Why a computation was refused, if it was. -/
def refusal? : Except ε α → Option ε
  | .error e => some e
  | .ok _ => none

theorem eq_error_of_refusal? {x : Except ε α} {e : ε} (h : refusal? x = some e) : x = .error e := by
  cases x with
  | error _ => exact congrArg Except.error (Option.some.inj h)
  | ok _ => cases h

/-- A computation with a state that got through has a result and a state. -/
theorem exists_eq_ok_of_isOk {σ : Type} {run : Except ε α × σ} (h : run.1.isOk) : ∃ a s, run = (.ok a, s) := by
  obtain ⟨x, s⟩ := run
  cases x with
  | error _ => cases h
  | ok a => exact ⟨a, s, rfl⟩

/-- A computation with a state that was refused has a state all the same. -/
theorem exists_eq_error_of_refusal? {σ : Type} {run : Except ε α × σ} {e : ε} (h : refusal? run.1 = some e) :
    ∃ s, run = (.error e, s) := by
  obtain ⟨x, s⟩ := run
  cases x with
  | error _ => exact ⟨s, congrArg (fun e => (Except.error e, s)) (Option.some.inj h)⟩
  | ok _ => cases h

end ValueObjects
