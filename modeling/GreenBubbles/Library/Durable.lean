import Mathlib.Data.List.Basic

/-! # Computations that may be interrupted

A computation reads a durable state, replaces it any number of times and may fail. An
interruption leaves one of the states it has passed through. What is true of all of
these is proved together with what is true at the end.
-/
namespace GreenBubbles.Library

/-- The states written, in their order, and the outcome. -/
def Durable (σ ε α : Type) : Type := σ → List σ × Except ε α

namespace Durable

variable {σ ε α β : Type}

/-- The state a computation ends in. -/
def final (m : Durable σ ε α) (s : σ) : σ := (m s).1.getLastD s

protected def pure (a : α) : Durable σ ε α := fun _ => ([], .ok a)

protected def bind (m : Durable σ ε α) (f : α → Durable σ ε β) : Durable σ ε β := fun s =>
  match (m s).2 with
  | .ok a => ((m s).1 ++ (f a (m.final s)).1, (f a (m.final s)).2)
  | .error e => ((m s).1, .error e)

instance : Monad (Durable σ ε) where
  pure := Durable.pure
  bind := Durable.bind

def read : Durable σ ε σ := fun s => ([], .ok s)

def modify (f : σ → σ) : Durable σ ε Unit := fun s => ([f s], .ok ())

def check (x : Except ε α) : Durable σ ε α := fun _ => ([], x)

def fail (e : ε) : Durable σ ε α := check (.error e)

/-- What an interruption after some of the writes leaves. -/
def stopped (m : Durable σ ε α) (writes : ℕ) (s : σ) : σ := ((m s).1.take writes).getLastD s

theorem getLastD_mem {s : σ} {states : List σ} :
    states.getLastD s = s ∨ states.getLastD s ∈ states := by
  rw [List.getLastD_eq_getLast?]
  cases hlast : states.getLast? with
  | none => exact .inl rfl
  | some last => exact .inr (List.mem_of_getLast? hlast)

/-- The postcondition of an outcome. -/
def Ends (Q : α → σ → Prop) (E : ε → σ → Prop) : Except ε α → σ → Prop
  | .ok a, s => Q a s
  | .error e, s => E e s

/-- From a state with the precondition, all states passed through satisfy the invariant, and
the outcome its postcondition. -/
def Triple (P : σ → Prop) (m : Durable σ ε α) (I : σ → Prop) (Q : α → σ → Prop)
    (E : ε → σ → Prop) : Prop :=
  ∀ s, P s → (∀ s' ∈ (m s).1, I s') ∧ Ends Q E (m s).2 (m.final s)

variable {P P' I I' : σ → Prop} {Q Q' : α → σ → Prop} {R : β → σ → Prop} {E E' : ε → σ → Prop}
  {m : Durable σ ε α} {f : α → Durable σ ε β}

theorem Triple.consequence (h : Triple P' m I' Q' E') (hP : ∀ s, P s → P' s) (hI : ∀ s, I' s → I s)
    (hQ : ∀ a s, Q' a s → Q a s) (hE : ∀ e s, E' e s → E e s) : Triple P m I Q E := by
  intro s hs
  obtain ⟨hpassed, hresult⟩ := h s (hP s hs)
  refine ⟨fun s' hs' => hI s' (hpassed s' hs'), ?_⟩
  cases hm : (m s).2 with
  | ok a =>
    rw [hm] at hresult
    exact hQ a _ hresult
  | error e =>
    rw [hm] at hresult
    exact hE e _ hresult

theorem Triple.pure {a : α} (h : ∀ s, P s → Q a s) : Triple P (pure a : Durable σ ε α) I Q E :=
  fun s hs => ⟨fun _ hs' => (by cases hs'), h s hs⟩

theorem Triple.bind (hm : Triple P m I Q E) (hf : ∀ a, Triple (Q a) (f a) I R E) :
    Triple P (m >>= f) I R E := by
  intro s hs
  obtain ⟨hpassed, hresult⟩ := hm s hs
  change (∀ s' ∈ (Durable.bind m f s).1, I s') ∧
    Ends R E (Durable.bind m f s).2 ((Durable.bind m f s).1.getLastD s)
  cases hma : (m s).2 with
  | error e =>
    rw [hma] at hresult
    simp only [Durable.bind, hma]
    exact ⟨hpassed, hresult⟩
  | ok a =>
    rw [hma] at hresult
    obtain ⟨hlater, hlast⟩ := hf a (m.final s) hresult
    have hfinal : ((m s).1 ++ (f a (m.final s)).1).getLastD s = (f a).final (m.final s) := by
      simp only [final, List.getLastD_eq_getLast?, List.getLast?_append]
      cases (f a (((m s).1.getLast?).getD s)).1.getLast? <;> simp
    simp only [Durable.bind, hma, hfinal]
    refine ⟨?_, hlast⟩
    intro s' hs'
    rcases List.mem_append.mp hs' with hfirst | hsecond
    · exact hpassed s' hfirst
    · exact hlater s' hsecond

theorem Triple.read : Triple P (read : Durable σ ε σ) I (fun a s => P s ∧ a = s) E :=
  fun s hs => ⟨fun _ hs' => (by cases hs'), hs, rfl⟩

theorem Triple.check {x : Except ε α} (herror : ∀ e s, P s → x = .error e → E e s) :
    Triple P (Durable.check x : Durable σ ε α) I (fun a s => P s ∧ x = .ok a) E := by
  intro s hs
  refine ⟨fun _ hs' => (by cases hs'), ?_⟩
  cases x with
  | ok a => exact ⟨hs, rfl⟩
  | error e => exact herror e s hs rfl

theorem Triple.fail {e : ε} (herror : ∀ s, P s → E e s) :
    Triple P (Durable.fail e : Durable σ ε α) I Q E :=
  fun s hs => ⟨fun _ hs' => (by cases hs'), herror s hs⟩

theorem Triple.modify {g : σ → σ} {Q : Unit → σ → Prop} (hI : ∀ s, P s → I (g s))
    (hQ : ∀ s, P s → Q () (g s)) : Triple P (modify g : Durable σ ε Unit) I Q E :=
  fun s hs => ⟨fun _ ht => List.mem_singleton.mp ht ▸ hI s hs, hQ s hs⟩

/-- What every round keeps, a loop keeps. -/
theorem Triple.foldlM {κ : Type} {step : β → κ → Durable σ ε β} {L : β → σ → Prop} (rounds : List κ)
    (hstep : ∀ b, ∀ k ∈ rounds, Triple (L b) (step b k) I L E) (b : β) :
    Triple (L b) (rounds.foldlM step b) I L E := by
  induction rounds generalizing b with
  | nil => exact Triple.pure fun s hs => hs
  | cons k rounds ih =>
    rw [List.foldlM_cons]
    apply Triple.bind (hstep b k List.mem_cons_self)
    intro b'
    exact ih (fun c k' hk' => hstep c k' (List.mem_cons_of_mem k hk')) b'

/-- What holds before an interruption and is kept by every write holds after it. -/
theorem Triple.stopped (h : Triple P m I Q E) {s : σ} (hP : P s) (hI : I s) (writes : ℕ) :
    I (m.stopped writes s) := by
  have hcases : m.stopped writes s = s ∨ m.stopped writes s ∈ (m s).1.take writes := getLastD_mem
  rcases hcases with hnone | hpassed
  · rw [hnone]
    exact hI
  · exact (h s hP).1 _ (List.mem_of_mem_take hpassed)

theorem Triple.final (h : Triple P m I Q E) {s : σ} (hP : P s) (hI : I s) : I (m.final s) := by
  have hcases : m.final s = s ∨ m.final s ∈ (m s).1 := getLastD_mem
  rcases hcases with hnone | hpassed
  · rw [hnone]
    exact hI
  · exact (h s hP).1 _ hpassed

/-! Single runs -/

theorem read_bind (f : σ → Durable σ ε β) (s : σ) : (Durable.read >>= f) s = f s s := by
  change Durable.bind Durable.read f s = _
  simp [Durable.bind, Durable.read, Durable.final]

theorem check_bind (a : α) (f : α → Durable σ ε β) (s : σ) :
    (Durable.check (.ok a) >>= f) s = f a s := by
  change Durable.bind (Durable.check (.ok a)) f s = _
  simp [Durable.bind, Durable.check, Durable.final]

theorem modify_bind (g : σ → σ) (f : Unit → Durable σ ε β) (s : σ) :
    (Durable.modify g >>= f) s = (g s :: (f () (g s)).1, (f () (g s)).2) := by
  change Durable.bind (Durable.modify g) f s = _
  simp [Durable.bind, Durable.modify, Durable.final]

theorem check_bind_ok {x : Except ε α} {f : α → Durable σ ε β} {s : σ} {b : β} :
    ((Durable.check x >>= f) s).2 = .ok b ↔ ∃ a, x = .ok a ∧ (f a s).2 = .ok b := by
  cases x with
  | error e =>
    change (Durable.bind (Durable.check (.error e)) f s).2 = _ ↔ _
    simp [Durable.bind, Durable.check]
  | ok a =>
    rw [check_bind]
    simp

/-- Nothing is written and the outcome is an error. -/
def Fails (m : Durable σ ε α) (s : σ) : Prop := ∃ e, m s = ([], .error e)

theorem Fails.bind {s : σ} (h : m.Fails s) : (m >>= f).Fails s := by
  obtain ⟨e, he⟩ := h
  refine ⟨e, ?_⟩
  change Durable.bind m f s = _
  simp only [Durable.bind, he]

theorem Fails.check_bind {x : Except ε α} {s : σ} (h : ∀ a, x = .ok a → (f a).Fails s) :
    (Durable.check x >>= f).Fails s := by
  cases x with
  | error e => exact Fails.bind ⟨e, rfl⟩
  | ok a =>
    obtain ⟨e, he⟩ := h a rfl
    refine ⟨e, ?_⟩
    change Durable.bind (Durable.check (.ok a)) f s = _
    simp [Durable.bind, Durable.check, Durable.final, he]

theorem Fails.read_bind {f : σ → Durable σ ε β} {s : σ} (h : (f s).Fails s) :
    (Durable.read >>= f).Fails s := by
  obtain ⟨e, he⟩ := h
  refine ⟨e, ?_⟩
  change Durable.bind Durable.read f s = _
  simp [Durable.bind, Durable.read, Durable.final, he]

theorem Fails.final_eq {s : σ} (h : m.Fails s) : m.final s = s := by
  obtain ⟨e, he⟩ := h
  simp [Durable.final, he]

theorem Fails.stopped_eq {s : σ} (h : m.Fails s) (writes : ℕ) : m.stopped writes s = s := by
  obtain ⟨e, he⟩ := h
  simp [Durable.stopped, he]

end Durable

end GreenBubbles.Library
