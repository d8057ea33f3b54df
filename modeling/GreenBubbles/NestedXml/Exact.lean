import Mathlib.Data.List.Pairwise
import GreenBubbles.NestedXml.Scanner

/-! # When the repair is exact

The repair tests for sections by the last openers and closers before a position.
It removes what the reading of XML calls a misplaced declaration just where this
test agrees with the reading, and is stable just if it opens nothing new.
-/
namespace GreenBubbles.NestedXml

open Library.Search Library.Utf8

variable {text : List Char} {ranges : List (ℕ × ℕ)} {n m : ℕ}

/-- The test for sections agrees with the reading wherever a declaration could begin. -/
def Agrees (text : List Char) : Prop :=
  ∀ n m, Behind text n → OccursAt declarationStart (toAsciiLowercase text) n → Closes text n m →
    (∀ n' m', Declaration text n' m' → ¬ (n' < n ∧ n < m')) →
      (¬ Guarded (toAsciiLowercase text) n ↔ Begins text n ∧ EndsTarget (text.drop (n + 5)))

theorem Declaration.free (h : Declaration text n m) :
    ∀ n' m', Declaration text n' m' → ¬ (n' < n ∧ n < m') := by
  rintro n' m' h' ⟨hlt, hinside⟩
  have hle := h'.apart h hlt
  omega

namespace Sweeps

theorem bounds (h : Sweeps text ranges) {range : ℕ × ℕ} (hrange : range ∈ ranges) :
    range.1 < range.2 ∧ range.2 ≤ text.length := by
  have hcloses := (h.removable range hrange).2.closes.bounds
  rw [length_toAsciiLowercase] at hcloses
  omega

/-- Ranges do not overlap, in whichever order they are taken. -/
theorem disjoint (h : Sweeps text ranges) {range range' : ℕ × ℕ} (hrange : range ∈ ranges)
    (hrange' : range' ∈ ranges) (hlt : range.1 < range'.1) : range.2 ≤ range'.1 := by
  have hall : ∀ range ∈ ranges, ∀ range' ∈ ranges,
      (range.1 < range'.1 → range.2 ≤ range'.1) ∧ (range'.1 < range.1 → range'.2 ≤ range.1) := by
    have : Std.Symm fun range range' : ℕ × ℕ =>
        (range.1 < range'.1 → range.2 ≤ range'.1) ∧ (range'.1 < range.1 → range'.2 ≤ range.1) :=
      ⟨fun _ _ hboth => ⟨hboth.2, hboth.1⟩⟩
    apply List.Pairwise.forall_of_forall
    · intro range _
      exact ⟨fun hself => absurd hself (lt_irrefl _), fun hself => absurd hself (lt_irrefl _)⟩
    · refine h.apart.imp_of_mem ?_
      intro range range' hrange _ hle
      have hbounds := h.bounds hrange
      exact ⟨fun _ => hle, fun hback => by omega⟩
  exact (hall range hrange range' hrange').1 hlt

/-- The repair removes exactly the misplaced declarations just where the test agrees. -/
theorem exact_iff (h : Sweeps text ranges) :
    (∀ n m, (n, m) ∈ ranges ↔ Declaration text n m) ↔ Agrees text := by
  constructor
  · intro hset n m hbehind hoccurs hcloses hfree
    constructor
    · intro hunguarded
      rcases h.complete n m hbehind ⟨hoccurs, hunguarded, closes_lower.mpr hcloses⟩ with
        hmem | ⟨range, hrange, hinside⟩
      · have hdeclaration := (hset n m).mp hmem
        exact ⟨hdeclaration.begins, hdeclaration.target⟩
      · exact absurd hinside (hfree _ _ ((hset _ _).mp hrange))
    · rintro ⟨hbegins, htarget⟩
      have hdeclaration : Declaration text n m := ⟨hbehind, hbegins, hoccurs, htarget, hcloses⟩
      exact (h.removable _ ((hset n m).mpr hdeclaration)).2.unguarded
  · intro hagrees
    have hremovable : ∀ {n m}, Declaration text n m → Removable (toAsciiLowercase text) n m := by
      intro n m hdeclaration
      exact ⟨hdeclaration.occurs, (hagrees n m hdeclaration.behind hdeclaration.occurs
        hdeclaration.closes hdeclaration.free).mpr ⟨hdeclaration.begins, hdeclaration.target⟩,
        closes_lower.mpr hdeclaration.closes⟩
    have hremoved : ∀ n m, (n, m) ∈ ranges → Declaration text n m := by
      intro n
      induction n using Nat.strong_induction_on with
      | _ n ih =>
        intro m hmem
        obtain ⟨hbehind, hmatch⟩ := h.removable _ hmem
        have hcloses := closes_lower.mp hmatch.closes
        have hfree : ∀ n' m', Declaration text n' m' → ¬ (n' < n ∧ n < m') := by
          rintro n' m' hother ⟨hlt, hinside⟩
          rcases h.complete n' m' hother.behind (hremovable hother) with
            hmem' | ⟨range, hrange, hearlier, hlater⟩
          · have hle := h.disjoint hmem' hmem hlt
            omega
          · have hle := (ih range.1 (by omega) range.2 hrange).apart hother hearlier
            omega
        obtain ⟨hbegins, htarget⟩ :=
          (hagrees n m hbehind hmatch.occurs hcloses hfree).mp hmatch.unguarded
        exact ⟨hbehind, hbegins, hmatch.occurs, htarget, hcloses⟩
    intro n m
    refine ⟨hremoved n m, fun hdeclaration => ?_⟩
    rcases h.complete n m hdeclaration.behind (hremovable hdeclaration) with
      hmem | ⟨range, hrange, hinside⟩
    · exact hmem
    · exact absurd hinside (hdeclaration.free _ _ (hremoved _ _ hrange))

end Sweeps

end GreenBubbles.NestedXml
