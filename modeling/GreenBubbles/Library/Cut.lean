import Mathlib.Data.List.Pairwise
import Mathlib.Data.Nat.Find

/-! # Cutting ranges out of a list

Ordered ranges are cut out of a list one after the other. What stays is what
stands at the indices none of them covers.
-/
namespace GreenBubbles.Library.Cut

variable {α : Type*} {xs ys text : List α} {ranges : List (ℕ × ℕ)} {cursor n : ℕ}

/-- What stands outside the ranges, from the cursor on. -/
def cut (text : List α) : ℕ → List (ℕ × ℕ) → List α
  | cursor, [] => text.drop cursor
  | cursor, range :: ranges =>
    (text.drop cursor).take (range.1 - cursor) ++ cut text range.2 ranges

def Covered (ranges : List (ℕ × ℕ)) (n : ℕ) : Prop := ∃ range ∈ ranges, range.1 ≤ n ∧ n < range.2

instance : DecidablePred (Covered ranges) := fun n =>
  inferInstanceAs (Decidable (∃ range ∈ ranges, range.1 ≤ n ∧ n < range.2))

/-- The ranges lie one behind the other between the cursor and the end of the text. -/
structure Ordered (text : List α) (cursor : ℕ) (ranges : List (ℕ × ℕ)) : Prop where
  fits : cursor ≤ text.length
  bounds : ∀ range ∈ ranges, cursor ≤ range.1 ∧ range.1 < range.2 ∧ range.2 ≤ text.length
  apart : ranges.Pairwise fun range later => range.2 ≤ later.1

theorem drop_split {stop : ℕ} (hle : cursor ≤ stop) :
    text.drop cursor = (text.drop cursor).take (stop - cursor) ++ text.drop stop := by
  have hstop : text.drop stop = (text.drop cursor).drop (stop - cursor) := by
    rw [List.drop_drop, Nat.add_sub_cancel' hle]
  rw [hstop, List.take_append_drop]

/-- The elements at the indices without the property, the first at the index given. -/
def keepFrom (p : ℕ → Prop) [DecidablePred p] : ℕ → List α → List α
  | _, [] => []
  | n, x :: xs => if p n then keepFrom p (n + 1) xs else x :: keepFrom p (n + 1) xs

section keepFrom
variable {p q : ℕ → Prop} [DecidablePred p] [DecidablePred q]

theorem keepFrom_append :
    keepFrom p n (xs ++ ys) = keepFrom p n xs ++ keepFrom p (n + xs.length) ys := by
  induction xs generalizing n with
  | nil => rfl
  | cons x xs ih =>
    have hlength : n + 1 + xs.length = n + (x :: xs).length := by
      rw [List.length_cons]
      omega
    rw [List.cons_append, keepFrom, keepFrom, ih, hlength]
    split_ifs <;> rfl

theorem keepFrom_eq_self (h : ∀ k, n ≤ k → k < n + xs.length → ¬ p k) : keepFrom p n xs = xs := by
  induction xs generalizing n with
  | nil => rfl
  | cons x xs ih =>
    rw [List.length_cons] at h
    rw [keepFrom, if_neg (h n (le_refl n) (by omega)),
      ih fun k hle hlt => h k (by omega) (by omega)]

theorem keepFrom_eq_nil (h : ∀ k, n ≤ k → k < n + xs.length → p k) : keepFrom p n xs = [] := by
  induction xs generalizing n with
  | nil => rfl
  | cons x xs ih =>
    rw [List.length_cons] at h
    rw [keepFrom, if_pos (h n (le_refl n) (by omega)),
      ih fun k hle hlt => h k (by omega) (by omega)]

/-- What is kept up to an index, and what is kept behind it. -/
theorem keepFrom_split {stop : ℕ} (hle : n ≤ stop) (hstop : stop ≤ text.length) :
    keepFrom p n (text.drop n) =
      keepFrom p n ((text.drop n).take (stop - n)) ++ keepFrom p stop (text.drop stop) := by
  have htake : ((text.drop n).take (stop - n)).length = stop - n := by
    rw [List.length_take, List.length_drop]
    omega
  rw [drop_split hle, keepFrom_append, ← drop_split hle, htake, Nat.add_sub_cancel' hle]

theorem keepFrom_congr (h : ∀ k, n ≤ k → (p k ↔ q k)) : keepFrom p n xs = keepFrom q n xs := by
  induction xs generalizing n with
  | nil => rfl
  | cons x xs ih =>
    rw [keepFrom, keepFrom, ih fun k hle => h k (by omega)]
    exact if_congr (h n (le_refl n)) rfl rfl

end keepFrom

theorem Ordered.tail {range : ℕ × ℕ} (h : Ordered text cursor (range :: ranges)) :
    Ordered text range.2 ranges := by
  obtain ⟨happart, hrest⟩ := List.pairwise_cons.mp h.apart
  refine ⟨(h.bounds range List.mem_cons_self).2.2, fun later hlater => ?_, hrest⟩
  have hbounds := h.bounds later (List.mem_cons_of_mem range hlater)
  exact ⟨happart later hlater, hbounds.2⟩

theorem cut_sublist (h : Ordered text cursor ranges) :
    (cut text cursor ranges).Sublist (text.drop cursor) := by
  induction ranges generalizing cursor with
  | nil => exact List.Sublist.refl _
  | cons range ranges ih =>
    have hbounds := h.bounds range List.mem_cons_self
    have hsplit : text.drop cursor = (text.drop cursor).take (range.1 - cursor) ++
        text.drop range.1 := drop_split hbounds.1
    have hlater : (text.drop range.2).Sublist (text.drop range.1) := by
      rw [drop_split (Nat.le_of_lt hbounds.2.1)]
      exact List.sublist_append_right _ _
    have happend : (cut text cursor (range :: ranges)).Sublist
        ((text.drop cursor).take (range.1 - cursor) ++ text.drop range.1) :=
      List.Sublist.append (List.Sublist.refl _) ((ih h.tail).trans hlater)
    rwa [← hsplit] at happend

/-- Only an empty list of ranges leaves a list as it is. -/
theorem cut_length_lt (h : Ordered text cursor ranges) (hranges : ranges ≠ []) :
    (cut text cursor ranges).length < text.length - cursor := by
  cases ranges with
  | nil => exact absurd rfl hranges
  | cons range ranges =>
    have hbounds := h.bounds range List.mem_cons_self
    have hrest := (cut_sublist h.tail).length_le
    rw [List.length_drop] at hrest
    rw [cut, List.length_append, List.length_take, List.length_drop]
    omega

theorem cut_eq_keepFrom (h : Ordered text cursor ranges) :
    cut text cursor ranges = keepFrom (Covered ranges) cursor (text.drop cursor) := by
  induction ranges generalizing cursor with
  | nil =>
    rw [cut, keepFrom_eq_self]
    rintro k - - ⟨range, hrange, -⟩
    cases hrange
  | cons range ranges ih =>
    have hbounds := h.bounds range List.mem_cons_self
    have hlater : ∀ other ∈ ranges, range.2 ≤ other.1 := (List.pairwise_cons.mp h.apart).1
    have hrest : keepFrom (Covered (range :: ranges)) range.2 (text.drop range.2) =
        keepFrom (Covered ranges) range.2 (text.drop range.2) := by
      apply keepFrom_congr
      intro k hk
      constructor
      · rintro ⟨other, hother, hle, hlt⟩
        rcases List.mem_cons.mp hother with rfl | hmem
        · omega
        · exact ⟨other, hmem, hle, hlt⟩
      · rintro ⟨other, hother, hin⟩
        exact ⟨other, List.mem_cons_of_mem range hother, hin⟩
    have hbefore : keepFrom (Covered (range :: ranges)) cursor
        ((text.drop cursor).take (range.1 - cursor)) =
          (text.drop cursor).take (range.1 - cursor) := by
      apply keepFrom_eq_self
      rintro k - hk ⟨other, hother, hle, -⟩
      rw [List.length_take] at hk
      rcases List.mem_cons.mp hother with rfl | hmem
      · omega
      · have := hlater other hmem
        omega
    have hinside : keepFrom (Covered (range :: ranges)) range.1
        ((text.drop range.1).take (range.2 - range.1)) = [] := by
      apply keepFrom_eq_nil
      intro k hle hlt
      rw [List.length_take] at hlt
      exact ⟨range, List.mem_cons_self, hle, by omega⟩
    rw [cut, ih h.tail, keepFrom_split hbounds.1 (by omega),
      keepFrom_split (Nat.le_of_lt hbounds.2.1) hbounds.2.2, hrest, hbefore, hinside, List.nil_append]

end GreenBubbles.Library.Cut
