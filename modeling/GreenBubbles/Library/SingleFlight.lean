import Mathlib.Data.List.Basic
import Mathlib.Data.Set.Insert
import Mathlib.Logic.Relation

/-! # Single-flight dispatch

An abstract dispatcher admits attempts one at a time. An attempt carries a key
and an approval, occupies the only slot until it is closed, and is offered to
the dispatcher at most once.
-/
namespace GreenBubbles.Library.SingleFlight

variable {κ α : Type*}

/-- How far the attempt in the slot has come. -/
inductive Phase where
  /-- Admitted; a start may still offer it. -/
  | waiting
  /-- Admitted for a rehearsal, which is offered at once and never started. -/
  | rehearsing
  | started
  | parked
  deriving DecidableEq

/-- `admitted` is newest first; `burnt` holds every key that was started or parked. -/
structure Ledger (κ α : Type*) where
  admitted : List (κ × α)
  slot : Option (κ × Phase)
  offered : List κ
  burnt : Set κ
  closed : ℕ

namespace Ledger

def keys (ledger : Ledger κ α) : List κ := ledger.admitted.map Prod.fst

def approvals (ledger : Ledger κ α) : List α := ledger.admitted.map Prod.snd

def empty : Ledger κ α := ⟨[], none, [], ∅, 0⟩

end Ledger

/-- Admission and start say whether the caller learnt that it may dispatch. -/
inductive Step : Ledger κ α → Ledger κ α → Prop
  | enter {ledger : Ledger κ α} {k : κ} {a : α} {phase : Phase} {offers : List κ}
      (idle : ledger.slot = none) (freshKey : k ∉ ledger.keys)
      (freshApproval : a ∉ ledger.approvals) (unparked : phase ≠ .parked)
      (told : offers = [] ∨ (offers = [k] ∧ phase = .rehearsing)) :
      Step ledger { ledger with
        admitted := (k, a) :: ledger.admitted
        slot := some (k, phase)
        offered := offers ++ ledger.offered }
  | start {ledger : Ledger κ α} {k : κ} {offers : List κ}
      (held : ledger.slot = some (k, .waiting)) (told : offers = [] ∨ offers = [k]) :
      Step ledger { ledger with
        slot := some (k, .started)
        offered := offers ++ ledger.offered
        burnt := insert k ledger.burnt }
  | park {ledger : Ledger κ α} {k : κ} {phase : Phase} (held : ledger.slot = some (k, phase)) :
      Step ledger { ledger with slot := some (k, .parked), burnt := insert k ledger.burnt }
  | close {ledger : Ledger κ α} {k : κ} {phase : Phase}
      (held : ledger.slot = some (k, phase)) :
      Step ledger { ledger with slot := none, closed := ledger.closed + 1 }

abbrev Steps : Ledger κ α → Ledger κ α → Prop := Relation.ReflTransGen Step

structure WellFormed (ledger : Ledger κ α) : Prop where
  keys : ledger.keys.Nodup
  approvals : ledger.approvals.Nodup
  offered : ledger.offered.Nodup
  offeredKeys : ledger.offered ⊆ ledger.keys
  burntKeys : ∀ k ∈ ledger.burnt, k ∈ ledger.keys
  slotKey : ∀ k phase, ledger.slot = some (k, phase) → k ∈ ledger.keys
  waiting : ∀ k, ledger.slot = some (k, .waiting) → k ∉ ledger.offered ∧ k ∉ ledger.burnt
  rehearsing : ∀ k, ledger.slot = some (k, .rehearsing) → k ∉ ledger.burnt
  parked : ∀ k, ledger.slot = some (k, .parked) → k ∈ ledger.burnt
  total : ledger.admitted.length = ledger.closed + ledger.slot.toList.length

theorem WellFormed.empty : WellFormed (Ledger.empty : Ledger κ α) := by
  constructor <;> simp [Ledger.empty, Ledger.keys, Ledger.approvals]

theorem WellFormed.enter {ledger : Ledger κ α} {k : κ} {a : α} {phase : Phase} {offers : List κ}
    (h : WellFormed ledger) (idle : ledger.slot = none) (freshKey : k ∉ ledger.keys)
    (freshApproval : a ∉ ledger.approvals) (unparked : phase ≠ .parked)
    (told : offers = [] ∨ (offers = [k] ∧ phase = .rehearsing)) :
    WellFormed { ledger with
      admitted := (k, a) :: ledger.admitted
      slot := some (k, phase)
      offered := offers ++ ledger.offered } := by
  have hoffered : k ∉ ledger.offered := fun hk => freshKey (h.offeredKeys hk)
  have hburnt : k ∉ ledger.burnt := fun hk => freshKey (h.burntKeys k hk)
  have htotal := h.total
  simp only [idle, Option.toList_none, List.length_nil] at htotal
  refine ⟨?_, ?_, ?_, ?_, ?_, ?_, ?_, ?_, ?_, ?_⟩
  · exact List.nodup_cons.mpr ⟨freshKey, h.keys⟩
  · exact List.nodup_cons.mpr ⟨freshApproval, h.approvals⟩
  · obtain rfl | ⟨rfl, -⟩ := told
    · exact h.offered
    · exact List.nodup_cons.mpr ⟨hoffered, h.offered⟩
  · have htail : ledger.offered ⊆ k :: ledger.keys :=
      fun _ hx => List.mem_cons_of_mem _ (h.offeredKeys hx)
    obtain rfl | ⟨rfl, -⟩ := told
    · exact htail
    · exact List.cons_subset.mpr ⟨List.mem_cons_self, htail⟩
  · exact fun k' hk' => List.mem_cons_of_mem _ (h.burntKeys k' hk')
  · rintro k' phase' hslot
    obtain ⟨rfl, -⟩ : k = k' ∧ phase = phase' := by simpa using hslot
    exact List.mem_cons_self
  · rintro k' hslot
    obtain ⟨rfl, rfl⟩ : k = k' ∧ phase = .waiting := by simpa using hslot
    obtain rfl | ⟨-, hphase⟩ := told
    · exact ⟨hoffered, hburnt⟩
    · cases hphase
  · rintro k' hslot
    obtain ⟨rfl, -⟩ : k = k' ∧ phase = .rehearsing := by simpa using hslot
    exact hburnt
  · rintro k' hslot
    obtain ⟨-, rfl⟩ : k = k' ∧ phase = .parked := by simpa using hslot
    exact absurd rfl unparked
  · simp only [List.length_cons, Option.toList_some, List.length_nil]
    omega

theorem WellFormed.start {ledger : Ledger κ α} {k : κ} {offers : List κ}
    (h : WellFormed ledger) (held : ledger.slot = some (k, .waiting))
    (told : offers = [] ∨ offers = [k]) :
    WellFormed { ledger with
      slot := some (k, .started)
      offered := offers ++ ledger.offered
      burnt := insert k ledger.burnt } := by
  have hkey := h.slotKey k .waiting held
  have hwaiting := h.waiting k held
  have htotal := h.total
  refine ⟨h.keys, h.approvals, ?_, ?_, ?_, ?_, ?_, ?_, ?_, ?_⟩
  · obtain rfl | rfl := told
    · exact h.offered
    · exact List.nodup_cons.mpr ⟨hwaiting.1, h.offered⟩
  · obtain rfl | rfl := told
    · exact h.offeredKeys
    · exact List.cons_subset.mpr ⟨hkey, h.offeredKeys⟩
  · exact Set.forall_mem_insert.mpr ⟨hkey, h.burntKeys⟩
  · rintro k' phase' hslot
    obtain ⟨rfl, -⟩ : k = k' ∧ Phase.started = phase' := by simpa using hslot
    exact hkey
  · simp
  · simp
  · simp
  · simpa [held] using htotal

theorem WellFormed.park {ledger : Ledger κ α} {k : κ} {phase : Phase}
    (h : WellFormed ledger) (held : ledger.slot = some (k, phase)) :
    WellFormed { ledger with slot := some (k, .parked), burnt := insert k ledger.burnt } := by
  have hkey := h.slotKey k phase held
  have htotal := h.total
  refine ⟨h.keys, h.approvals, h.offered, h.offeredKeys, ?_, ?_, ?_, ?_, ?_, ?_⟩
  · exact Set.forall_mem_insert.mpr ⟨hkey, h.burntKeys⟩
  · rintro k' phase' hslot
    obtain ⟨rfl, -⟩ : k = k' ∧ Phase.parked = phase' := by simpa using hslot
    exact hkey
  · simp
  · simp
  · rintro k' hslot
    obtain rfl : k = k' := by simpa using hslot
    exact Set.mem_insert k ledger.burnt
  · simpa [held] using htotal

theorem WellFormed.close {ledger : Ledger κ α} {k : κ} {phase : Phase}
    (h : WellFormed ledger) (held : ledger.slot = some (k, phase)) :
    WellFormed { ledger with slot := none, closed := ledger.closed + 1 } := by
  have htotal := h.total
  refine ⟨h.keys, h.approvals, h.offered, h.offeredKeys, h.burntKeys, ?_, ?_, ?_, ?_, ?_⟩
  · simp
  · simp
  · simp
  · simp
  · simpa [held] using htotal

theorem Step.wellFormed {before after : Ledger κ α} (hstep : Step before after)
    (h : WellFormed before) : WellFormed after := by
  cases hstep with
  | enter idle freshKey freshApproval unparked told =>
    exact h.enter idle freshKey freshApproval unparked told
  | start held told => exact h.start held told
  | park held => exact h.park held
  | close held => exact h.close held

/-- What a step adds to the offers names no burnt key. -/
def OffersOnlyLive (before after : Ledger κ α) : Prop :=
  before.burnt ⊆ after.burnt ∧
    ∃ added, after.offered = added ++ before.offered ∧ ∀ k ∈ before.burnt, k ∉ added

theorem OffersOnlyLive.refl (ledger : Ledger κ α) : OffersOnlyLive ledger ledger :=
  ⟨subset_rfl, [], rfl, by simp⟩

theorem OffersOnlyLive.trans {first second third : Ledger κ α}
    (h₁ : OffersOnlyLive first second) (h₂ : OffersOnlyLive second third) :
    OffersOnlyLive first third := by
  obtain ⟨hburnt₁, added₁, hoffered₁, hlive₁⟩ := h₁
  obtain ⟨hburnt₂, added₂, hoffered₂, hlive₂⟩ := h₂
  refine ⟨fun _ hk => hburnt₂ (hburnt₁ hk), added₂ ++ added₁, ?_, ?_⟩
  · rw [hoffered₂, hoffered₁, List.append_assoc]
  · intro k hk
    simpa using ⟨hlive₂ k (hburnt₁ hk), hlive₁ k hk⟩

theorem Step.offersOnlyLive {before after : Ledger κ α} (hstep : Step before after)
    (h : WellFormed before) : OffersOnlyLive before after := by
  cases hstep with
  | @enter k a phase offers idle freshKey freshApproval unparked told =>
    refine ⟨subset_rfl, offers, rfl, ?_⟩
    obtain rfl | ⟨rfl, -⟩ := told
    · simp
    · rintro k' hburnt hk'
      obtain rfl : k' = k := by simpa using hk'
      exact freshKey (h.burntKeys k' hburnt)
  | @start k offers held told =>
    refine ⟨Set.subset_insert k before.burnt, offers, rfl, ?_⟩
    obtain rfl | rfl := told
    · simp
    · rintro k' hburnt hk'
      obtain rfl : k' = k := by simpa using hk'
      exact (h.waiting k' held).2 hburnt
  | park held => exact ⟨Set.subset_insert _ _, [], rfl, by simp⟩
  | close held => exact ⟨subset_rfl, [], rfl, by simp⟩

theorem Steps.wellFormed {before after : Ledger κ α} (hsteps : Steps before after)
    (h : WellFormed before) : WellFormed after := by
  induction hsteps with
  | refl => exact h
  | tail _ hstep ih => exact hstep.wellFormed ih

theorem Steps.offersOnlyLive {before after : Ledger κ α} (hsteps : Steps before after)
    (h : WellFormed before) : OffersOnlyLive before after := by
  induction hsteps with
  | refl => exact .refl before
  | tail hbegin hstep ih => exact ih.trans (hstep.offersOnlyLive (Steps.wellFormed hbegin h))

end GreenBubbles.Library.SingleFlight
