/-!
# Steps that may fail

When a program of steps that may fail succeeds, and when it fails, by its steps.
-/

namespace MapQuery

variable {ε ε' α β : Type}

theorem bind_eq_ok {x : Except ε α} {f : α → Except ε β} {b : β} :
    (x >>= f) = .ok b ↔ ∃ a, x = .ok a ∧ f a = .ok b := by
  cases x <;> simp [bind, Except.bind]

theorem bind_eq_error {x : Except ε α} {f : α → Except ε β} {e : ε} :
    (x >>= f) = .error e ↔ x = .error e ∨ ∃ a, x = .ok a ∧ f a = .error e := by
  cases x <;> simp [bind, Except.bind]

/-- A step that needs another one first. -/
theorem bind_bind_eq_ok {γ : Type} {x : Except ε α} {f : α → Except ε β} {g : β → Except ε γ}
    {c : γ} : (x >>= fun a => f a >>= g) = .ok c ↔ ∃ b, (x >>= f) = .ok b ∧ g b = .ok c := by
  rw [← bind_assoc, bind_eq_ok]

theorem bind_bind_eq_error {γ : Type} {x : Except ε α} {f : α → Except ε β} {g : β → Except ε γ}
    {e : ε} : (x >>= fun a => f a >>= g) = .error e ↔
      (x >>= f) = .error e ∨ ∃ b, (x >>= f) = .ok b ∧ g b = .error e := by
  rw [← bind_assoc, bind_eq_error]

theorem map_eq_ok {x : Except ε α} {f : α → β} {b : β} :
    x.map f = .ok b ↔ ∃ a, x = .ok a ∧ f a = b := by
  cases x <;> simp [Except.map]

theorem map_eq_error {x : Except ε α} {f : α → β} {e : ε} :
    x.map f = .error e ↔ x = .error e := by
  cases x <;> simp [Except.map]

theorem mapError_eq_ok {x : Except ε α} {f : ε → ε'} {a : α} :
    x.mapError f = .ok a ↔ x = .ok a := by
  cases x with
  | ok b =>
    show (Except.ok b : Except ε' α) = .ok a ↔ _
    simp
  | error e =>
    show Except.error (f e) = Except.ok a ↔ _
    simp

theorem mapError_eq_error {x : Except ε α} {f : ε → ε'} {e : ε'} :
    x.mapError f = .error e ↔ ∃ e', x = .error e' ∧ f e' = e := by
  cases x with
  | ok a =>
    show (Except.ok a : Except ε' α) = .error e ↔ _
    simp
  | error e' =>
    show (Except.error (f e') : Except ε' α) = .error e ↔ _
    simp

end MapQuery
