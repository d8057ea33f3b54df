import GreenBubbles.Library.Search

/-! # Probes in sealed texts

A text is sealed where a last mark stands behind every first mark. A pattern
that starts with a first mark and has a last mark at its end at most does not
reach over the end of a sealed text, so it can be searched part by part.
-/
namespace GreenBubbles.Library.Probing

open Search

variable {α : Type*} {first last : α} {pattern text rest body : List α}
  {n m : ℕ}

def Sealed (first last : α) (text : List α) : Prop :=
  ∀ n, text[n]? = some first → last ∈ text.drop n

structure Probe (first last : α) (pattern : List α) : Prop where
  head : pattern.head? = some first
  inner : last ∉ pattern.dropLast

def Free (pattern text : List α) : Prop := ∀ n, ¬ OccursAt pattern text n

section Sealed

theorem sealed_of_not_mem (h : first ∉ text) : Sealed first last text :=
  fun _ hn => absurd (List.mem_of_getElem? hn) h

theorem sealed_concat (text : List α) : Sealed first last (text ++ [last]) := by
  intro n hn
  have hlength := (List.getElem?_eq_some_iff.mp hn).1
  rw [List.length_append, List.length_singleton] at hlength
  rw [List.drop_append_of_le_length (by omega)]
  exact List.mem_append_right _ List.mem_cons_self

theorem Sealed.append (htext : Sealed first last text) (hrest : Sealed first last rest) :
    Sealed first last (text ++ rest) := by
  intro n hn
  by_cases hlt : n < text.length
  · rw [List.getElem?_append_left hlt] at hn
    rw [List.drop_append_of_le_length (by omega)]
    exact List.mem_append_left _ (htext n hn)
  · rw [List.getElem?_append_right (by omega)] at hn
    rw [List.drop_append, List.drop_of_length_le (by omega)]
    exact hrest _ hn

end Sealed

/-! Occurrences -/

theorem Probe.ne_nil (h : Probe first last pattern) : pattern ≠ [] := by
  intro hempty
  have hhead := h.head
  simp [hempty] at hhead

theorem Probe.getElem (h : Probe first last pattern) (hoccurs : OccursAt pattern text n) :
    text[n]? = some first := by
  obtain ⟨tail, htail⟩ := hoccurs
  have hdrop : (text.drop n).head? = some first := by
    rw [← htail, List.head?_append, h.head]
    rfl
  rw [List.head?_drop] at hdrop
  exact hdrop

/-- A probe that starts in a sealed text ends in it. -/
theorem Probe.fits (h : Probe first last pattern) (hsealed : Sealed first last text)
    (hn : n < text.length) (hoccurs : OccursAt pattern (text ++ rest) n) :
    OccursAt pattern text n := by
  have hfirst := h.getElem hoccurs
  rw [List.getElem?_append_left hn] at hfirst
  have hlast := hsealed n hfirst
  rw [OccursAt, List.drop_append_of_le_length (by omega)] at hoccurs
  cases List.prefix_or_prefix_of_prefix hoccurs (List.prefix_append _ _) with
  | inl hbegin => exact hbegin
  | inr hbegin =>
    obtain ⟨tail, htail⟩ := hbegin
    by_cases htail' : tail = []
    · rw [OccursAt, ← htail, htail', List.append_nil]
    · have hinner := h.inner
      rw [← htail, List.dropLast_append_of_ne_nil htail'] at hinner
      exact absurd (List.mem_append_left _ hlast) hinner

theorem Probe.occursAt_append (h : Probe first last pattern) (hsealed : Sealed first last text) :
    OccursAt pattern (text ++ rest) n ↔
      OccursAt pattern text n ∨ ∃ m, n = text.length + m ∧ OccursAt pattern rest m := by
  have hbehind : ∀ m, OccursAt pattern (text ++ rest) (text.length + m) ↔
      OccursAt pattern rest m := by
    intro m
    rw [OccursAt, OccursAt, List.drop_append, List.drop_of_length_le (by omega),
      List.nil_append, Nat.add_sub_cancel_left]
  constructor
  · intro hoccurs
    by_cases hn : n < text.length
    · exact .inl (h.fits hsealed hn hoccurs)
    · obtain ⟨m, rfl⟩ := Nat.exists_eq_add_of_le (Nat.not_lt.mp hn)
      exact .inr ⟨m, rfl, (hbehind m).mp hoccurs⟩
  · intro hoccurs
    cases hoccurs with
    | inl hoccurs =>
      have hlength := hoccurs.le_length h.ne_nil
      rw [OccursAt, List.drop_append_of_le_length (by omega)]
      exact hoccurs.trans (List.prefix_append _ _)
    | inr hoccurs =>
      obtain ⟨m, rfl, hoccurs⟩ := hoccurs
      exact (hbehind m).mpr hoccurs

/-- Where a probe starts before the end of a mark behind a sealed text. -/
theorem Probe.occursAt_cases (h : Probe first last pattern) (hsealed : Sealed first last text)
    (hbody : first ∉ body) (hoccurs : OccursAt pattern (text ++ (first :: body ++ rest)) n) :
    OccursAt pattern text n ∨ n = text.length ∨ text.length + (body.length + 1) ≤ n := by
  cases (h.occursAt_append hsealed).mp hoccurs with
  | inl hinside => exact .inl hinside
  | inr hbehind =>
    obtain ⟨m, rfl, hm⟩ := hbehind
    have hfirst := h.getElem hm
    cases m with
    | zero => exact .inr (.inl rfl)
    | succ m =>
      by_cases hlt : m < body.length
      · rw [List.cons_append, List.getElem?_cons_succ, List.getElem?_append_left hlt] at hfirst
        exact absurd (List.mem_of_getElem? hfirst) hbody
      · exact .inr (.inr (by omega))

theorem occursAt_singleton {a : α} : OccursAt [a] text n ↔ text[n]? = some a := by
  rw [OccursAt, ← List.head?_drop]
  cases text.drop n with
  | nil => simp
  | cons b tail => simp [eq_comm]

/-! Searches -/

section Searches

variable [DecidableEq α]

/-- A probe is found behind a sealed text it is not in. -/
theorem Probe.indexOf_behind (h : Probe first last pattern) (hsealed : Sealed first last text) :
    indexOf pattern (text ++ rest) = some text.length ↔ Free pattern text ∧ pattern <+: rest := by
  rw [indexOf_eq_some h.ne_nil]
  have hstart : OccursAt pattern (text ++ rest) text.length ↔ pattern <+: rest := by
    rw [OccursAt, List.drop_left]
  rw [hstart]
  constructor
  · rintro ⟨hbegin, hfirst⟩
    refine ⟨fun n hn => ?_, hbegin⟩
    have hlength := hn.le_length h.ne_nil
    have hpositive := List.length_pos_iff.mpr h.ne_nil
    exact hfirst n (by omega) ((h.occursAt_append hsealed).mpr (.inl hn))
  · rintro ⟨hfree, hbegin⟩
    exact ⟨hbegin, fun n hn hoccurs => hfree n (h.fits hsealed hn hoccurs)⟩

/-- The next last mark is found in a text that has one. -/
theorem indexOf_last_inside (h : last ∈ text) :
    ∃ n < text.length, indexOf [last] (text ++ rest) = some n := by
  obtain ⟨m, hm, hget⟩ := List.getElem_of_mem h
  have hoccurs : OccursAt [last] (text ++ rest) m := by
    rw [occursAt_singleton, List.getElem?_append_left hm, List.getElem?_eq_getElem hm, hget]
  cases hfound : indexOf [last] (text ++ rest) with
  | none => exact absurd hoccurs ((indexOf_eq_none (List.cons_ne_nil _ _)).mp hfound m)
  | some n =>
    obtain ⟨-, hfirst⟩ := (indexOf_eq_some (List.cons_ne_nil _ _)).mp hfound
    have hle : n ≤ m := Nat.not_lt.mp fun hlt => hfirst m hlt hoccurs
    exact ⟨n, by omega, rfl⟩

/-- The last mark that ends a text is the next one where the text holds no other. -/
theorem indexOf_last_end :
    indexOf [last] (text ++ last :: rest) = some text.length ↔ last ∉ text := by
  rw [indexOf_eq_some (List.cons_ne_nil _ _)]
  simp only [occursAt_singleton]
  have hend : (text ++ last :: rest)[text.length]? = some last := by
    rw [List.getElem?_append_right le_rfl, Nat.sub_self, List.getElem?_cons_zero]
  constructor
  · rintro ⟨-, hfirst⟩ hmem
    obtain ⟨m, hm, hget⟩ := List.getElem_of_mem hmem
    refine hfirst m hm ?_
    rw [List.getElem?_append_left hm, List.getElem?_eq_getElem hm, hget]
  · intro hfree
    refine ⟨hend, fun m hm hoccurs => ?_⟩
    rw [List.getElem?_append_left hm] at hoccurs
    exact hfree (List.mem_of_getElem? hoccurs)

end Searches

end GreenBubbles.Library.Probing
