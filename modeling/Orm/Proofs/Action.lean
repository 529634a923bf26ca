import Mathlib.Order.Defs.Unbundled

/-!
# Actions on a state

What an action on a state does at one state, and what a mapped outcome says of the outcome. With
these equations a proof follows an action call by call. What holds of each call holds of the whole
if it is a preorder on states (`Along.bind`).
-/

namespace Orm.Action

variable {σ ε α β : Type}

/-- Of two actions the second one goes on where the first one ended. -/
@[simp]
theorem bind_apply (action : StateM σ α) (next : α → StateM σ β) (state : σ) :
    (action >>= next) state = next (action state).1 (action state).2 := rfl

/-- An answer leaves the state as it is. -/
@[simp]
theorem pure_apply (answer : α) (state : σ) : (pure answer : StateM σ α) state = (answer, state) :=
  rfl

/-- To look at the state gives it and leaves it as it is. -/
theorem get_apply (state : σ) : (get : StateM σ σ) state = (state, state) := rfl

/-- An outcome is good after a map if and only if it was good before. -/
theorem map_eq_ok_iff {outcome : Except ε α} {image : α → β} {result : β} :
    outcome.map image = .ok result ↔ ∃ value, outcome = .ok value ∧ image value = result := by
  cases outcome <;> simp [Except.map]

/-- An outcome is good if and only if it is good with another error in place of its own. -/
theorem map_error_eq_ok_iff {δ : Type} {outcome : Except ε α} {image : ε → δ} {result : α} :
    outcome.mapError image = .ok result ↔ outcome = .ok result := by
  cases outcome with
  | error error => exact iff_of_false nofun nofun
  | ok value =>
      constructor
      · rintro ⟨⟩
        rfl
      · rintro ⟨⟩
        rfl

/-- Two outcomes in sequence are good if and only if both are. -/
theorem bind_eq_ok_iff {outcome : Except ε α} {next : α → Except ε β} {result : β} :
    (outcome >>= next) = .ok result ↔ ∃ value, outcome = .ok value ∧ next value = .ok result := by
  cases outcome <;> simp [bind, Except.bind]

/-- A relation holds between the state before an action and the one after it. -/
def Along (R : σ → σ → Prop) (action : StateM σ α) : Prop :=
  ∀ state, R state (action state).2

namespace Along

variable {R : σ → σ → Prop} [IsPreorder σ R]

/-- An answer changes nothing. -/
theorem pure (answer : α) : Along R (Pure.pure answer : StateM σ α) :=
  fun state => Std.Refl.refl state

/-- To look at the state changes nothing. -/
theorem get : Along R (MonadState.get : StateM σ σ) :=
  fun state => Std.Refl.refl state

/-- What holds along each of two actions holds along both. -/
theorem bind {action : StateM σ α} {next : α → StateM σ β} (hfirst : Along R action)
    (hnext : ∀ answer, Along R (next answer)) : Along R (action >>= next) :=
  fun state => IsTrans.trans _ _ _ (hfirst state) (hnext (action state).1 (action state).2)

end Along

end Orm.Action
