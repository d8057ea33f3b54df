import Mathlib.Init

/-! # Computations that keep their state when they fail

How a computation ends: with what it returns or throws, and in which state.
-/
namespace GreenBubbles.Library.Outcomes

variable {ε σ α β : Type}

def outcome (program : EStateM ε σ α) (state : σ) : Except ε α × σ :=
  match program state with
  | .ok value after => (.ok value, after)
  | .error error after => (.error error, after)

/-- A computation whose failure is not looked at. -/
def ignore (program : EStateM ε σ Unit) : EStateM ε σ Unit := fun state =>
  match program state with
  | .ok _ after => .ok () after
  | .error _ after => .ok () after

@[simp] theorem outcome_pure (value : α) (state : σ) :
    outcome (pure value : EStateM ε σ α) state = (.ok value, state) := rfl

@[simp] theorem outcome_throw (error : ε) (state : σ) :
    outcome (throw error : EStateM ε σ α) state = (.error error, state) := rfl

@[simp] theorem outcome_ofExcept (result : Except ε α) (state : σ) :
    outcome (ofExcept result : EStateM ε σ α) state = (result, state) := by
  cases result <;> rfl

theorem outcome_bind (program : EStateM ε σ α) (rest : α → EStateM ε σ β) (state : σ) :
    outcome (program >>= rest) state =
      match outcome program state with
      | (.ok value, after) => outcome (rest value) after
      | (.error error, after) => (.error error, after) := by
  simp only [outcome, bind, EStateM.bind]
  cases program state <;> rfl

theorem outcome_bind_ok {program : EStateM ε σ α} {state after : σ} {value : α}
    (h : outcome program state = (.ok value, after)) (rest : α → EStateM ε σ β) :
    outcome (program >>= rest) state = outcome (rest value) after := by
  rw [outcome_bind, h]

theorem outcome_bind_error {program : EStateM ε σ α} {state after : σ} {error : ε}
    (h : outcome program state = (.error error, after)) (rest : α → EStateM ε σ β) :
    outcome (program >>= rest) state = (.error error, after) := by
  rw [outcome_bind, h]

theorem outcome_bind_ofExcept (result : Except ε α) (rest : α → EStateM ε σ β) (state : σ) :
    outcome (ofExcept result >>= rest) state =
      match result with
      | .ok value => outcome (rest value) state
      | .error error => (.error error, state) := by
  rw [outcome_bind, outcome_ofExcept]
  cases result <;> rfl

theorem outcome_map (f : α → β) (program : EStateM ε σ α) (state : σ) :
    outcome (f <$> program) state =
      ((outcome program state).1.map f, (outcome program state).2) := by
  simp only [outcome, Functor.map, EStateM.map]
  cases program state <;> rfl

theorem outcome_adaptExcept {ε' : Type} (f : ε → ε') (program : EStateM ε σ α) (state : σ) :
    outcome (EStateM.adaptExcept f program) state =
      ((outcome program state).1.mapError f, (outcome program state).2) := by
  simp only [outcome, EStateM.adaptExcept]
  cases program state <;> rfl

theorem outcome_ignore (program : EStateM ε σ Unit) (state : σ) :
    outcome (ignore program) state = (.ok (), (outcome program state).2) := by
  simp only [outcome, ignore]
  cases program state <;> rfl

end GreenBubbles.Library.Outcomes
