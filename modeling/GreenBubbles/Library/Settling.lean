import Mathlib.Algebra.Order.Ring.Nat
import Mathlib.Order.Monotone.Basic
import Mathlib.Tactic.Linarith

/-! # Numbers that count their own digits

A text that names its own length has a length that depends on the digits of the
number it names. Writing it again and again settles: the numbers get so close
that they have at most two lengths, and a monotone step does not go back and
forth between two values.
-/
namespace GreenBubbles.Library.Settling

section Monotone

variable {α : Type*} [LinearOrder α] {f : α → α} {low high a : α}

/-- A monotone step does not come back to where it left. -/
theorem eq_of_return (hmono : Monotone f) (h : f (f a) = a) : f a = a := by
  cases le_total a (f a) with
  | inl hle =>
    have hback : f a ≤ f (f a) := hmono hle
    rw [h] at hback
    exact le_antisymm hback hle
  | inr hle =>
    have hback : f (f a) ≤ f a := hmono hle
    rw [h] at hback
    exact le_antisymm hle hback

/-- Between two values a monotone step settles. -/
theorem settles (hmono : Monotone f) (ha : a = low ∨ a = high) (hf : f a = low ∨ f a = high)
    (hff : f (f a) = low ∨ f (f a) = high) : f (f (f a)) = f (f a) := by
  by_cases hfixed : f a = a
  · simp only [hfixed]
  by_cases hnext : f (f a) = f a
  · simp only [hnext]
  have hreturn : f (f a) = a := by
    cases ha <;> cases hf <;> cases hff <;> simp_all
  exact absurd (eq_of_return hmono hreturn) hfixed

end Monotone

/-! Digits -/

section Digits

variable {base width limit rest n m k : ℕ}

def digitCount (base n : ℕ) : ℕ := (Nat.toDigits base n).length

theorem digitCount_le_iff (hbase : 1 < base) (hk : 0 < k) : digitCount base n ≤ k ↔ n < base ^ k :=
  Nat.length_toDigits_le_iff hbase hk

theorem digitCount_pos : 0 < digitCount base n := by
  unfold digitCount
  exact List.length_pos_iff.mpr Nat.toDigits_ne_nil

theorem digitCount_mono (hbase : 1 < base) : Monotone (digitCount base) := by
  intro n m hle
  have hm : m < base ^ digitCount base m := (digitCount_le_iff hbase digitCount_pos).mp le_rfl
  exact (digitCount_le_iff hbase digitCount_pos).mpr (by omega)

/-- A short way up costs at most one digit. -/
theorem digitCount_near (hbase : 1 < base) (hm : m + base ≤ n + base * base) :
    digitCount base m ≤ digitCount base n + 1 := by
  have hn : n < base ^ digitCount base n := (digitCount_le_iff hbase digitCount_pos).mp le_rfl
  have hpow : base ≤ base ^ digitCount base n := Nat.le_self_pow digitCount_pos.ne' base
  refine (digitCount_le_iff hbase (Nat.succ_pos _)).mpr ?_
  obtain ⟨more, rfl⟩ := Nat.exists_eq_add_of_lt hbase
  rw [Nat.succ_eq_add_one, pow_succ]
  generalize (1 + more + 1) ^ digitCount (1 + more + 1) n = bound at hn hpow
  have hmore : (1 + more + 1) * (more + 1) ≤ bound * (more + 1) := Nat.mul_le_mul_right _ hpow
  linarith

/-- The number a text names that has a rest and the digits of another number. -/
def sized (base limit rest n : ℕ) : ℕ := min (rest + digitCount base n) limit

theorem sized_mono (hbase : 1 < base) : Monotone (sized base limit rest) := by
  intro n m hle
  have hdigits := digitCount_mono hbase hle
  unfold sized
  omega

theorem digitCount_sized (hbase : 1 < base) (hpos : 0 < width) (hlimit : limit < base ^ width) :
    digitCount base (sized base limit rest n) ≤ width :=
  (digitCount_le_iff hbase hpos).mpr (lt_of_le_of_lt (min_le_right _ _) hlimit)

/-- Where the digits are few, the numbers named are close to the least one. -/
theorem sized_digits (hbase : 1 < base) (hwidth : width + base ≤ base * base)
    (hn : digitCount base n ≤ width) :
    digitCount base (sized base limit rest n) = digitCount base (sized base limit rest 0) ∨
      digitCount base (sized base limit rest n) =
        digitCount base (sized base limit rest 0) + 1 := by
  have hleast : digitCount base (sized base limit rest 0) ≤ digitCount base (sized base limit rest n) :=
    digitCount_mono hbase (sized_mono hbase (Nat.zero_le n))
  have hnear : sized base limit rest n + base ≤ sized base limit rest 0 + base * base := by
    unfold sized
    omega
  have hmost := digitCount_near hbase hnear
  omega

/-- After five steps from any number the number named is the length of the text. -/
theorem sized_settles (hbase : 1 < base) (hpos : 0 < width) (hlimit : limit < base ^ width)
    (hwidth : width + base ≤ base * base) (rest n : ℕ) :
    (sized base limit rest)^[6] n = (sized base limit rest)^[5] n := by
  have hdigits : ∀ m, digitCount base (sized base limit rest m) ≤ width :=
    fun m => digitCount_sized hbase hpos hlimit
  have htwo : ∀ m, sized base limit rest (sized base limit rest (sized base limit rest m)) =
      min (rest + digitCount base (sized base limit rest 0)) limit ∨
      sized base limit rest (sized base limit rest (sized base limit rest m)) =
        min (rest + (digitCount base (sized base limit rest 0) + 1)) limit := by
    intro m
    have hcount := @sized_digits _ _ limit rest _ hbase hwidth (hdigits m)
    rw [sized]
    cases hcount with
    | inl hcount => exact .inl (by rw [hcount])
    | inr hcount => exact .inr (by rw [hcount])
  exact settles (sized_mono hbase) (htwo n) (htwo _) (htwo _)

end Digits

end GreenBubbles.Library.Settling
