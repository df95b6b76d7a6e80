/-!
# Chains of steps that may fail

What a chain of `Except` steps says about its steps: it succeeds when all of them do, and it fails
with the error of the first that does.  Elaboration and compilation are taken apart with these
lemmas, so that no proof unfolds the monad.
-/

namespace Except

variable {α β ε ε' : Type}

/-- `pure` is a success. -/
@[simp] theorem pure_eq_ok (a : α) : (pure a : Except ε α) = .ok a := rfl

/-- `bind` of a success is the next step. -/
@[simp] theorem ok_bind (a : α) (f : α → Except ε β) : (Except.ok a >>= f) = f a := rfl

/-- `mapError` leaves a success as it is. -/
@[simp] theorem mapError_ok (a : α) (f : ε → ε') : (Except.ok a).mapError f = .ok a := rfl

/-- `mapError` changes the error of a failure. -/
@[simp] theorem mapError_error (e : ε) (f : ε → ε') :
    (Except.error e : Except ε α).mapError f = .error (f e) := rfl

/-- `bind` succeeds when the first step does and the second does on its result. -/
theorem bind_eq_ok_iff {x : Except ε α} {f : α → Except ε β} {b : β} :
    (x >>= f) = .ok b ↔ ∃ a, x = .ok a ∧ f a = .ok b := by
  cases x with
  | error e => exact ⟨fun h => (nomatch h), fun ⟨_, h, _⟩ => (nomatch h)⟩
  | ok a => exact ⟨fun h => ⟨a, rfl, h⟩, fun ⟨_, h, hf⟩ => by cases h; exact hf⟩

/-- `bind` fails when the first step does, or when the second does on its result. -/
theorem bind_eq_error_iff {x : Except ε α} {f : α → Except ε β} {e : ε} :
    (x >>= f) = .error e ↔ x = .error e ∨ ∃ a, x = .ok a ∧ f a = .error e := by
  cases x with
  | error e' =>
    show Except.error e' = .error e ↔ _
    simp
  | ok a =>
    rw [ok_bind]
    simp

/-- `map` succeeds with what the function gives for a success. -/
theorem map_eq_ok_iff {x : Except ε α} {f : α → β} {b : β} :
    x.map f = .ok b ↔ ∃ a, x = .ok a ∧ f a = b := by
  cases x <;> simp [Except.map]

/-- `map` keeps errors. -/
theorem map_eq_error_iff {x : Except ε α} {f : α → β} {e : ε} :
    x.map f = .error e ↔ x = .error e := by
  cases x <;> simp [Except.map]

/-- `mapError` keeps successes. -/
theorem mapError_eq_ok_iff {x : Except ε α} {f : ε → ε'} {a : α} :
    x.mapError f = .ok a ↔ x = .ok a := by
  cases x <;> simp

/-- `mapError` fails with what the function gives for an error. -/
theorem mapError_eq_error_iff {x : Except ε α} {f : ε → ε'} {e : ε'} :
    x.mapError f = .error e ↔ ∃ e', x = .error e' ∧ f e' = e := by
  cases x <;> simp

/-- `toOption` has the result of a success and nothing of a failure. -/
theorem toOption_eq_some_iff {x : Except ε α} {a : α} : x.toOption = some a ↔ x = .ok a := by
  cases x <;> simp [Except.toOption]

/-! ### Related outcomes -/

/-- Both succeed with related results, or both fail with related errors. -/
inductive Rel {α' : Type} (E : ε → ε' → Prop) (A : α → α' → Prop) :
    Except ε α → Except ε' α' → Prop where
  | ok {a : α} {a' : α'} (h : A a a') : Rel E A (.ok a) (.ok a')
  | error {e : ε} {e' : ε'} (h : E e e') : Rel E A (.error e) (.error e')

namespace Rel

/-- `Rel` holds of an outcome and itself if it holds of its results and of its errors. -/
theorem of_eq {E : ε → ε → Prop} {x y : Except ε α} (hE : ∀ e, E e e) (h : x = y) :
    Rel E Eq x y := by
  subst h
  cases x with
  | ok a => exact .ok rfl
  | error e => exact .error (hE e)

/-- `Rel` of equal results holds of outcomes that succeed together. -/
theorem eq_ok_iff {E : ε → ε' → Prop} {x : Except ε α} {y : Except ε' α} {a : α} (h : Rel E Eq x y) :
    x = .ok a ↔ y = .ok a := by
  cases h with
  | ok h => rw [h]; simp
  | error _ => simp

variable {α' β' ε₂ ε₂' : Type} {E : ε → ε' → Prop} {E₂ : ε₂ → ε₂' → Prop} {A : α → α' → Prop}
  {B : β → β' → Prop} {x : Except ε α} {x' : Except ε' α'}

/-- `Rel` of two chains, from `Rel` of their first steps and of the steps after related results. -/
theorem bind {f : α → Except ε β} {f' : α' → Except ε' β'} (h : Rel E A x x')
    (hf : ∀ a a', A a a' → Rel E B (f a) (f' a')) : Rel E B (x >>= f) (x' >>= f') := by
  -- a failed first step ends both chains
  cases h with
  | ok h => exact hf _ _ h
  | error h => exact .error h

/-- `Rel` of mapped results, where the functions keep results related. -/
theorem map {f : α → β} {f' : α' → β'} (h : Rel E A x x') (hf : ∀ a a', A a a' → B (f a) (f' a')) :
    Rel E B (x.map f) (x'.map f') := by
  cases h with
  | ok h => exact .ok (hf _ _ h)
  | error h => exact .error h

/-- `Rel` of mapped errors, where the functions keep errors related. -/
theorem mapError {f : ε → ε₂} {f' : ε' → ε₂'} (h : Rel E A x x')
    (hf : ∀ e e', E e e' → E₂ (f e) (f' e')) : Rel E₂ A (x.mapError f) (x'.mapError f') := by
  cases h with
  | ok h => exact .ok h
  | error h => exact .error (hf _ _ h)

/-- `Rel` holds of a success and other successes only. -/
theorem exists_ok {a : α} (h : Rel E A (.ok a) x') : ∃ a', x' = .ok a' ∧ A a a' := by
  cases h with
  | ok h => exact ⟨_, rfl, h⟩

end Rel

end Except
