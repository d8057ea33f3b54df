import Mathlib.Data.List.Nodup
import Mathlib.Logic.Function.Basic

/-! # Replaying differences

A difference sets the value under one key or takes it away. Where no key has two
differences, their order does not matter.
-/
namespace GreenBubbles.Library.Replay

variable {ε κ α : Type*} [DecidableEq κ] (key : ε → κ) (effect : ε → Option α)

def replay (events : List ε) (map : κ → Option α) : κ → Option α :=
  events.foldl (fun map event => Function.update map (key event) (effect event)) map

variable {key effect} {events : List ε} {map : κ → Option α}

theorem replay_of_absent {k : κ} (h : ∀ event ∈ events, key event ≠ k) :
    replay key effect events map k = map k := by
  induction events generalizing map with
  | nil => rfl
  | cons event events ih =>
    rw [replay, List.foldl_cons, ← replay, ih fun other hother => h other (.tail _ hother)]
    exact Function.update_of_ne (h event List.mem_cons_self).symm _ _

theorem replay_of_mem (hnodup : (events.map key).Nodup) {event : ε} (h : event ∈ events) :
    replay key effect events map (key event) = effect event := by
  induction events generalizing map with
  | nil => cases h
  | cons first events ih =>
    rw [List.map_cons, List.nodup_cons] at hnodup
    rw [replay, List.foldl_cons, ← replay]
    by_cases hlater : event ∈ events
    · exact ih hnodup.2 hlater
    · have hfirst : event = first := (List.mem_cons.mp h).resolve_right hlater
      subst hfirst
      rw [replay_of_absent, Function.update_self]
      intro other hother hsame
      exact hnodup.1 (hsame ▸ List.mem_map_of_mem hother)

/-- The differences lead from one map to the other exactly where each says what the
other holds and the rest is unchanged. -/
theorem replay_eq_iff (hnodup : (events.map key).Nodup) {map' : κ → Option α} :
    replay key effect events map = map' ↔ (∀ event ∈ events, map' (key event) = effect event) ∧
      ∀ k, (∀ event ∈ events, key event ≠ k) → map' k = map k := by
  constructor
  · rintro rfl
    exact ⟨fun event hevent => replay_of_mem hnodup hevent, fun k hk => replay_of_absent hk⟩
  · rintro ⟨heffect, hrest⟩
    funext k
    by_cases hk : ∃ event ∈ events, key event = k
    · obtain ⟨event, hevent, rfl⟩ := hk
      rw [replay_of_mem hnodup hevent, heffect event hevent]
    · have habsent : ∀ event ∈ events, key event ≠ k := fun event hevent hsame =>
        hk ⟨event, hevent, hsame⟩
      rw [replay_of_absent habsent, hrest k habsent]

end GreenBubbles.Library.Replay
