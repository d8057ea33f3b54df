import Mathlib.Data.List.Count
import Mathlib.Data.List.Pairwise
import Mathlib.Order.Lattice
import Mathlib.Order.Monotone.Defs

/-! # Counting in windows

Windows `[s, ends s)` of one clock that never overlap. Whatever is counted per
window is then counted in every interval of the length of a window.
-/
namespace GreenBubbles.Library.Windows

variable {α β : Type*} [LinearOrder α] (ends : α → α)

/-- One window, or two of which the earlier has ended where the later starts. -/
def Apart (first second : α) : Prop :=
  first = second ∨ ends first ≤ second ∨ ends second ≤ first

variable {ends}

theorem Apart.refl (s : α) : Apart ends s s := .inl rfl

theorem Apart.symm {first second : α} (h : Apart ends first second) : Apart ends second first := by
  rcases h with h | h | h
  · exact .inl h.symm
  · exact .inr (.inr h)
  · exact .inr (.inl h)

instance Apart.instSymm (start : β → α) :
    Std.Symm fun newer older => Apart ends (start newer) (start older) :=
  ⟨fun _ _ h => h.symm⟩

/-- Two windows that start within one interval of their length are the same. -/
theorem Apart.eq_of_within (hends : Monotone ends) {a first second : α}
    (h : Apart ends first second) (hfirst : a ≤ first) (hfirst' : first < ends a)
    (hsecond : a ≤ second) (hsecond' : second < ends a) : first = second := by
  rcases h with h | h | h
  · exact h
  · exact absurd ((hends hfirst).trans h) (not_le.mpr hsecond')
  · exact absurd ((hends hsecond).trans h) (not_le.mpr hfirst')

variable (start : β → α)

theorem apart_of_mem {log : List β}
    (h : log.Pairwise fun newer older => Apart ends (start newer) (start older))
    {first second : β} (hfirst : first ∈ log) (hsecond : second ∈ log) :
    Apart ends (start first) (start second) := by
  by_cases hsame : first = second
  · exact hsame ▸ .refl _
  · exact h.forall hfirst hsecond hsame

/-- What no single window exceeds, no interval of the length of a window exceeds. -/
theorem countP_within_le (hends : Monotone ends) {log : List β}
    (h : log.Pairwise fun newer older => Apart ends (start newer) (start older))
    (counted : β → Bool) {limit : ℕ}
    (hlimit : ∀ s, log.countP (fun item => decide (start item = s) && counted item) ≤ limit)
    (a : α) :
    log.countP (fun item => decide (a ≤ start item ∧ start item < ends a) && counted item) ≤
      limit := by
  by_cases hnone : ∃ item ∈ log, a ≤ start item ∧ start item < ends a
  · obtain ⟨item, hitem, hlow, hhigh⟩ := hnone
    refine Nat.le_trans (List.countP_mono_left ?_) (hlimit (start item))
    intro other hother hwithin
    simp only [Bool.and_eq_true, decide_eq_true_eq] at hwithin ⊢
    have hapart := apart_of_mem start h hother hitem
    exact ⟨hapart.eq_of_within hends hwithin.1.1 hwithin.1.2 hlow hhigh, hwithin.2⟩
  · have hzero : log.countP (fun item =>
        decide (a ≤ start item ∧ start item < ends a) && counted item) = 0 := by
      rw [List.countP_eq_zero]
      intro item hitem hwithin
      simp only [Bool.and_eq_true, decide_eq_true_eq] at hwithin
      exact hnone ⟨item, hitem, hwithin.1⟩
    omega

end GreenBubbles.Library.Windows
