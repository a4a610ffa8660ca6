/-
  SealedDrop.Proofs.Result
  ────────────────────────
  **HOW A COMPUTATION THAT CAN FAIL ENDS.**

  Most functions of the service are chains of steps that can fail.  These laws
  take a chain that succeeded apart, step by step, or find the step at which
  one failed, without looking into the steps themselves.
-/

namespace SealedDrop.Result

variable {ε ε' α β : Type}

@[simp] theorem mapError_eq_ok_iff {x : Except ε α} {f : ε → ε'} {a : α} :
    x.mapError f = .ok a ↔ x = .ok a := by
  cases x with
  | error e =>
    show (Except.error (f e) : Except ε' α) = .ok a ↔ _
    simp
  | ok b =>
    show (Except.ok b : Except ε' α) = .ok a ↔ _
    simp

@[simp] theorem map_eq_ok_iff {x : Except ε α} {f : α → β} {b : β} :
    x.map f = .ok b ↔ ∃ a, x = .ok a ∧ f a = b := by
  cases x with
  | error e => simp [Except.map]
  | ok a => simp [Except.map]

@[simp] theorem bind_eq_ok_iff {x : Except ε α} {f : α → Except ε β} {b : β} :
    x >>= f = .ok b ↔ ∃ a, x = .ok a ∧ f a = .ok b := by
  cases x with
  | error e => simp [bind, Except.bind]
  | ok a => simp [bind, Except.bind]

theorem mapError_eq_error_iff {x : Except ε α} {f : ε → ε'} {e' : ε'} :
    x.mapError f = .error e' ↔ ∃ e, x = .error e ∧ f e = e' := by
  cases x with
  | error e =>
    show (Except.error (f e) : Except ε' α) = .error e' ↔ _
    simp
  | ok a =>
    show (Except.ok a : Except ε' α) = .error e' ↔ _
    simp

theorem bind_eq_error_iff {x : Except ε α} {f : α → Except ε β} {e : ε} :
    x >>= f = .error e ↔ x = .error e ∨ ∃ a, x = .ok a ∧ f a = .error e := by
  cases x with
  | error e' => simp [bind, Except.bind]
  | ok a => simp [bind, Except.bind]

theorem of_all_toOption {x : Except ε α} {p : α → Bool} (h : x.toOption.all p = true) {a : α}
    (ha : x = .ok a) : p a = true := by
  rw [ha] at h
  exact h

/-- Two computations end alike: with the same error, or with values that are alike. -/
inductive Like (P : α → β → Prop) : Except ε α → Except ε β → Prop where
  | error (e : ε) : Like P (.error e) (.error e)
  | ok {a : α} {b : β} (h : P a b) : Like P (.ok a) (.ok b)

theorem Like.refl {P : α → α → Prop} (hP : ∀ a, P a a) (x : Except ε α) : Like P x x := by
  cases x with
  | error e => exact .error e
  | ok a => exact .ok (hP a)

theorem Like.map {α' β' : Type} {P : α → β → Prop} {Q : α' → β' → Prop} {f : α → α'} {g : β → β'}
    {x : Except ε α} {y : Except ε β} (h : Like P x y) (hfg : ∀ a b, P a b → Q (f a) (g b)) :
    Like Q (x.map f) (y.map g) := by
  cases h with
  | error e => exact .error e
  | ok hab => exact .ok (hfg _ _ hab)

/-- What is alike after one step is alike after the next, if that step treats like alike. -/
theorem Like.bind {α' β' : Type} {P : α → β → Prop} {Q : α' → β' → Prop} {f : α → Except ε α'}
    {g : β → Except ε β'} {x : Except ε α} {y : Except ε β} (h : Like P x y)
    (hfg : ∀ a b, P a b → Like Q (f a) (g b)) : Like Q (x.bind f) (y.bind g) := by
  cases h with
  | error e => exact .error e
  | ok hab => exact hfg _ _ hab

theorem Like.mapError {P : α → β → Prop} {x : Except ε α} {y : Except ε β} (h : Like P x y)
    (f : ε → ε') : Like P (x.mapError f) (y.mapError f) := by
  cases h with
  | error e => exact .error (f e)
  | ok hab => exact .ok hab

end SealedDrop.Result
