import Mathlib.Data.List.Infix
import Mathlib.Data.Nat.Find

/-! # Searching a list for a pattern

Where a pattern occurs in a list, its first and its last occurrence, and
openers that no later closer follows.
-/
namespace GreenBubbles.Library.Search

variable {α : Type*} [DecidableEq α] {pattern opener closer text : List α} {n m : ℕ}

/-- The pattern starts at an index of the text. -/
def OccursAt (pattern text : List α) (n : ℕ) : Prop := pattern <+: text.drop n

instance : Decidable (OccursAt pattern text n) := inferInstanceAs (Decidable (_ <+: _))

def indexOf (pattern text : List α) : Option ℕ :=
  (List.range (text.length + 1)).find? fun n => decide (OccursAt pattern text n)

def lastIndexOf (pattern text : List α) : Option ℕ :=
  let n := Nat.findGreatest (OccursAt pattern text) text.length
  if OccursAt pattern text n then some n else none

omit [DecidableEq α] in
theorem OccursAt.le_length (hpattern : pattern ≠ []) (h : OccursAt pattern text n) :
    n + pattern.length ≤ text.length := by
  have hlength := h.length_le
  have hpositive := List.length_pos_iff.mpr hpattern
  rw [List.length_drop] at hlength
  omega

omit [DecidableEq α] in
theorem occursAt_drop : OccursAt pattern (text.drop n) m ↔ OccursAt pattern text (n + m) := by
  rw [OccursAt, OccursAt, List.drop_drop]

theorem indexOf_eq_some (hpattern : pattern ≠ []) :
    indexOf pattern text = some n ↔
      OccursAt pattern text n ∧ ∀ m < n, ¬ OccursAt pattern text m := by
  rw [indexOf, List.find?_range_eq_some]
  simp only [decide_eq_true_eq, List.mem_range, Bool.not_eq_true', decide_eq_false_iff_not]
  constructor
  · rintro ⟨h, -, hfirst⟩
    exact ⟨h, hfirst⟩
  · rintro ⟨h, hfirst⟩
    have hlength := h.le_length hpattern
    exact ⟨h, by omega, hfirst⟩

theorem indexOf_eq_none (hpattern : pattern ≠ []) :
    indexOf pattern text = none ↔ ∀ n, ¬ OccursAt pattern text n := by
  rw [indexOf, List.find?_eq_none]
  simp only [List.mem_range, decide_eq_true_eq]
  constructor
  · intro h n hn
    have hlength := hn.le_length hpattern
    exact h n (by omega) hn
  · intro h n _
    exact h n

theorem lastIndexOf_eq_some (hpattern : pattern ≠ []) :
    lastIndexOf pattern text = some n ↔
      OccursAt pattern text n ∧ ∀ m, OccursAt pattern text m → m ≤ n := by
  have hgreatest : ∀ m, OccursAt pattern text m →
      OccursAt pattern text (Nat.findGreatest (OccursAt pattern text) text.length) ∧
        m ≤ Nat.findGreatest (OccursAt pattern text) text.length := by
    intro m hm
    have hlength := hm.le_length hpattern
    exact ⟨Nat.findGreatest_spec (by omega) hm, Nat.le_findGreatest (by omega) hm⟩
  simp only [lastIndexOf]
  constructor
  · intro h
    split_ifs at h with hoccurs
    obtain rfl := Option.some.inj h
    exact ⟨hoccurs, fun m hm => (hgreatest m hm).2⟩
  · rintro ⟨h, hlast⟩
    have hn := hgreatest n h
    rw [if_pos hn.1, le_antisymm hn.2 (hlast _ hn.1)]

theorem lastIndexOf_eq_none (hpattern : pattern ≠ []) :
    lastIndexOf pattern text = none ↔ ∀ n, ¬ OccursAt pattern text n := by
  simp only [lastIndexOf]
  constructor
  · intro h n hn
    have hlength := hn.le_length hpattern
    rw [if_pos (Nat.findGreatest_spec (by omega) hn)] at h
    cases h
  · intro h
    rw [if_neg (h _)]

/-- The last opener stands after every closer. -/
def Unclosed (opener closer text : List α) : Prop :=
  ∃ n, OccursAt opener text n ∧ ∀ m, OccursAt closer text m → m < n

theorem unclosed_iff (hopener : opener ≠ []) (hcloser : closer ≠ []) :
    Unclosed opener closer text ↔ ∃ n ∈ lastIndexOf opener text,
      ∀ m ∈ lastIndexOf closer text, m < n := by
  constructor
  · rintro ⟨n, hn, hafter⟩
    cases hlast : lastIndexOf opener text with
    | none => exact absurd hn ((lastIndexOf_eq_none hopener).mp hlast n)
    | some last =>
      obtain ⟨-, hgreatest⟩ := (lastIndexOf_eq_some hopener).mp hlast
      refine ⟨last, rfl, fun m hm => ?_⟩
      have hbefore := hafter m ((lastIndexOf_eq_some hcloser).mp hm).1
      have hle := hgreatest n hn
      omega
  · rintro ⟨n, hn, hafter⟩
    refine ⟨n, ((lastIndexOf_eq_some hopener).mp hn).1, fun m hm => ?_⟩
    cases hlast : lastIndexOf closer text with
    | none => exact absurd hm ((lastIndexOf_eq_none hcloser).mp hlast m)
    | some last =>
      have hle := ((lastIndexOf_eq_some hcloser).mp hlast).2 m hm
      have hlt := hafter last hlast
      omega

end GreenBubbles.Library.Search
