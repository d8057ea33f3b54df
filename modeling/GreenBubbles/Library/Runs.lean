import Mathlib.Data.List.Basic

/-! # Runs of a deterministic step function

A run is the left fold of a step over a list of events. Invariants are proved
for one step and lifted here, either unconditionally or along runs whose every
step satisfies a side condition on the state it starts from.
-/
namespace GreenBubbles.Library.Runs

variable {σ ε : Type*} (step : σ → ε → σ)

def execute (s : σ) (events : List ε) : σ := events.foldl step s

@[simp] theorem execute_nil (s : σ) : execute step s [] = s := rfl

@[simp] theorem execute_cons (s : σ) (e : ε) (events : List ε) :
    execute step s (e :: events) = execute step (step s e) events := rfl

theorem execute_append (s : σ) (before after : List ε) :
    execute step s (before ++ after) = execute step (execute step s before) after := by
  simp [execute, List.foldl_append]

/-- What one step preserves, every run preserves. -/
theorem execute_invariant {I : σ → Prop} (hstep : ∀ s e, I s → I (step s e))
    (s : σ) (events : List ε) (h : I s) : I (execute step s events) := by
  induction events generalizing s with
  | nil => exact h
  | cons e events ih => exact ih (step s e) (hstep s e h)

/-- Every step of the run starts in a state that satisfies the guard of its event. -/
def Meets (guard : σ → ε → Prop) : σ → List ε → Prop
  | _, [] => True
  | s, e :: events => guard s e ∧ Meets guard (step s e) events

instance Meets.decidable {guard : σ → ε → Prop} [∀ s e, Decidable (guard s e)] :
    ∀ (s : σ) (events : List ε), Decidable (Meets step guard s events)
  | _, [] => .isTrue trivial
  | s, e :: events => @instDecidableAnd _ _ inferInstance (Meets.decidable (step s e) events)

theorem Meets.append {guard : σ → ε → Prop} {s : σ} {before after : List ε} :
    Meets step guard s (before ++ after) ↔
      Meets step guard s before ∧ Meets step guard (execute step s before) after := by
  induction before generalizing s with
  | nil => simp [Meets]
  | cons e events ih => simp [Meets, ih, and_assoc]

theorem Meets.invariant {guard : σ → ε → Prop} {I : σ → Prop}
    (hstep : ∀ s e, I s → guard s e → I (step s e)) {s : σ} {events : List ε}
    (hguard : Meets step guard s events) (h : I s) : I (execute step s events) := by
  induction events generalizing s with
  | nil => exact h
  | cons e events ih => exact ih hguard.2 (hstep s e h hguard.1)

end GreenBubbles.Library.Runs
