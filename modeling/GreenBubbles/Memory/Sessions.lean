import GreenBubbles.Library.Cut
import GreenBubbles.Library.Grouping
import GreenBubbles.Memory.Policy
import Mathlib.Data.List.SplitBy

/-! # Sessions and context windows

The messages of a month are cut into sessions where the pause is too long, and
a session is cut down to the surroundings of the account holder's messages.
-/
namespace GreenBubbles.Memory

open Library.Cut Library.Grouping
open LiveQuery (CorpusMessageMetadata)

/-- Timestamps subtract within 64 bits. -/
def saturatingSub (left right : ℤ) : ℤ := max (-2 ^ 63) (min (2 ^ 63 - 1) (left - right))

section Splitting

variable (messages : List CorpusMessageMetadata)

/-- A session goes on while the pause to the message before it is within the gap. -/
def continues (maximumGapSeconds : ℤ) (previous index : Fin messages.length) : Bool :=
  !decide (maximumGapSeconds <
    saturatingSub (messages.get index).location.createTime (messages.get previous).location.createTime)

def splitSessions (indices : List (Fin messages.length)) (maximumGapSeconds : ℤ) :
    List (List (Fin messages.length)) :=
  indices.splitBy (continues messages maximumGapSeconds)

variable {messages}

theorem splitSessions_flatten (indices : List (Fin messages.length)) (maximumGapSeconds : ℤ) :
    (splitSessions messages indices maximumGapSeconds).flatten = indices :=
  List.flatten_splitBy _ _

theorem session_sublist {indices session : List (Fin messages.length)} {maximumGapSeconds : ℤ}
    (h : session ∈ splitSessions messages indices maximumGapSeconds) : session.Sublist indices := by
  rw [← splitSessions_flatten indices maximumGapSeconds]
  exact List.sublist_flatten_of_mem h

end Splitting

/-- Windows around the anchors, merged where they touch. -/
def mergedContextWindows (anchors : List ℕ) (messageCount before after : ℕ) : List (ℕ × ℕ) :=
  if messageCount = 0 then []
  else mergeSpans (anchors.map fun anchor =>
    (anchor - before, min (anchor + after) (messageCount - 1)))

/-- A position is near enough to an anchor. -/
def Near (anchors : List ℕ) (before after position : ℕ) : Prop :=
  ∃ anchor ∈ anchors, anchor ≤ position + before ∧ position ≤ anchor + after

instance {anchors : List ℕ} {before after position : ℕ} :
    Decidable (Near anchors before after position) :=
  inferInstanceAs (Decidable (∃ anchor ∈ anchors, _ ∧ _))

variable {anchors : List ℕ} {messageCount before after : ℕ}

theorem mergedContextWindows_bounds (hanchors : ∀ anchor ∈ anchors, anchor < messageCount) :
    (∀ window ∈ mergedContextWindows anchors messageCount before after,
      window.1 ≤ window.2 ∧ window.2 < messageCount) ∧
    (mergedContextWindows anchors messageCount before after).Pairwise
      (fun earlier later => earlier.2 < later.1) ∧
    ∀ position < messageCount,
      (Within (mergedContextWindows anchors messageCount before after) position ↔
        Near anchors before after position) := by
  by_cases hcount : messageCount = 0
  · simp [mergedContextWindows, hcount]
  · rw [mergedContextWindows, if_neg hcount]
    have hproper : ∀ span ∈ anchors.map fun anchor =>
        (anchor - before, min (anchor + after) (messageCount - 1)), span.1 ≤ span.2 := by
      intro span hspan
      obtain ⟨anchor, hanchor, rfl⟩ := List.mem_map.mp hspan
      have hlt := hanchors anchor hanchor
      dsimp only
      omega
    obtain ⟨hmerged, hapart, hwithin⟩ := mergeSpans_spec hproper
    refine ⟨fun window hwindow => ⟨hmerged window hwindow, ?_⟩, hapart, fun position hposition => ?_⟩
    · -- the end of a merged window is a position of one of the windows
      obtain ⟨span, hspan, -, hle⟩ :=
        (hwithin window.2).mp ⟨window, hwindow, hmerged window hwindow, le_refl _⟩
      obtain ⟨anchor, -, rfl⟩ := List.mem_map.mp hspan
      dsimp only at hle
      omega
    · rw [hwithin, Within, Near]
      constructor
      · rintro ⟨span, hspan, hle, hle'⟩
        obtain ⟨anchor, hanchor, rfl⟩ := List.mem_map.mp hspan
        exact ⟨anchor, hanchor, by omega, by omega⟩
      · rintro ⟨anchor, hanchor, hle, hle'⟩
        exact ⟨_, List.mem_map_of_mem hanchor, by dsimp only; omega, by dsimp only; omega⟩

section Parts

variable {α : Type*}

/-- The part of a session from the first to the last position of a window. -/
def part (session : List α) (window : ℕ × ℕ) : List α :=
  (session.drop window.1).take (window.2 + 1 - window.1)

/-- The parts are what stands in the windows. -/
theorem parts_flatten {session : List α} {windows : List (ℕ × ℕ)} {cursor : ℕ}
    {p : ℕ → Prop} [DecidablePred p] (hcursor : cursor ≤ session.length)
    (hbounds : ∀ window ∈ windows, cursor ≤ window.1 ∧ window.1 ≤ window.2 ∧
      window.2 < session.length)
    (hapart : windows.Pairwise fun earlier later => earlier.2 < later.1)
    (hp : ∀ n, cursor ≤ n → n < session.length → (p n ↔ ¬ Within windows n)) :
    (windows.map (part session)).flatten = keepFrom p cursor (session.drop cursor) := by
  induction windows generalizing cursor with
  | nil =>
    rw [keepFrom_eq_nil]
    · rfl
    · intro k hle hlt
      rw [List.length_drop] at hlt
      rw [hp k hle (by omega)]
      rintro ⟨window, hwindow, -⟩
      cases hwindow
  | cons window windows ih =>
    obtain ⟨hstart, hproper, hend⟩ := hbounds window List.mem_cons_self
    obtain ⟨hlater, hapart⟩ := List.pairwise_cons.mp hapart
    have hrest := @ih (window.2 + 1) (by omega)
      (fun other hother => ⟨hlater other hother,
        (hbounds other (List.mem_cons_of_mem window hother)).2⟩) hapart (by
        intro n hle hlt
        rw [hp n (by omega) hlt]
        simp only [Within, List.exists_mem_cons_iff]
        constructor
        · intro hnone hsome
          exact hnone (.inr hsome)
        · rintro hnone (hinside | hsome)
          · omega
          · exact hnone hsome)
    have hbefore : keepFrom p cursor ((session.drop cursor).take (window.1 - cursor)) = [] := by
      apply keepFrom_eq_nil
      intro k hle hlt
      rw [List.length_take] at hlt
      rw [hp k hle (by omega)]
      rintro ⟨other, hother, hle', -⟩
      rcases List.mem_cons.mp hother with rfl | hmem
      · omega
      · have hbehind := hlater other hmem
        omega
    have hinside : keepFrom p window.1 ((session.drop window.1).take (window.2 + 1 - window.1)) =
        (session.drop window.1).take (window.2 + 1 - window.1) := by
      apply keepFrom_eq_self
      intro k hle hlt
      rw [List.length_take, List.length_drop] at hlt
      rw [hp k (by omega) (by omega), not_not]
      exact ⟨window, List.mem_cons_self, hle, by omega⟩
    rw [List.map_cons, List.flatten_cons, hrest, keepFrom_split hstart (by omega), hbefore,
      List.nil_append, keepFrom_split (show window.1 ≤ window.2 + 1 by omega) (by omega), hinside]
    rfl

theorem keepFrom_zipIdx {session : List α} {p : ℕ → Prop} [DecidablePred p] {n : ℕ} :
    ((session.zipIdx n).filter fun entry => ¬ p entry.2).map Prod.fst = keepFrom p n session := by
  induction session generalizing n with
  | nil => rfl
  | cons a session ih =>
    rw [List.zipIdx_cons, keepFrom, ← ih]
    by_cases hn : p n
    · rw [if_pos hn, List.filter_cons_of_neg (by simpa using hn)]
    · rw [if_neg hn, List.filter_cons_of_pos (by simpa using hn), List.map_cons]

end Parts

end GreenBubbles.Memory
