import GreenBubbles.Library.SingleFlight
import GreenBubbles.Outbox.Store

/-! # The outbox document as a single-flight ledger

The history of a run is what its transactions persisted and granted. Document
and history together abstract to a single-flight ledger, and every transition
of the document is a step of that ledger.
-/
namespace GreenBubbles.Outbox

open Library.SingleFlight

/-- History of a run: admitted entries (newest first), keys whose dispatch was
granted to a caller, and keys ever persisted as attempted or parked. -/
structure History where
  accepted : List OutboxEntry
  offered : List String
  burnt : List String

def spentKeys (state : SendOutboxState) : List String :=
  (state.unresolved.filter (·.state ≠ .reserved)).map (·.idempotencyKey)

def History.observe (history : History) (before after : SendOutboxState)
    (offers : List String) : History where
  accepted :=
    (if before.inFlight.isNone then after.inFlight.toList else []) ++ history.accepted
  offered := offers ++ history.offered
  burnt := spentKeys after ++ history.burnt

/-- The keys a caller may dispatch once its request is granted: a dry run right
after its reservation, anything else after its attempt is marked. -/
def Request.offers : Request → List String
  | .reserve entry _ _ => if entry.permitSend then [] else [entry.idempotencyKey]
  | .markAttempted key => [key]
  | _ => []

def phase (entry : OutboxEntry) : Phase :=
  match entry.state with
  | .reserved => if entry.permitSend then .waiting else .rehearsing
  | .attempted => .started
  | .awaitingReconciliation => .parked

def ledger (state : SendOutboxState) (history : History) : Ledger String String where
  admitted := history.accepted.map (fun entry => (entry.idempotencyKey, entry.approvalId))
  slot := state.unresolved.head?.map (fun entry => (entry.idempotencyKey, phase entry))
  offered := history.offered
  burnt := {key | key ∈ history.burnt}
  closed := state.completedAttemptTotal

/-- The document's collections and counters are those of the history. -/
structure Represents (state : SendOutboxState) (history : History) : Prop where
  keys : state.reservedIdempotencyKeys = (history.accepted.map (·.idempotencyKey)).toFinset
  consumed : state.consumedApprovalIds =
    ((history.accepted.drop state.inFlight.toList.length).map (·.approvalId)).toFinset
  newest : ∀ entry, state.inFlight = some entry →
    ∃ first rest, history.accepted = first :: rest ∧
      first.idempotencyKey = entry.idempotencyKey ∧ first.approvalId = entry.approvalId
  reserved : state.reservedAttemptTotal = history.accepted.length
  single : state.unresolved.length ≤ 1
  bounded : history.accepted.length ≤ maximumReservedIdempotencyKeys
  settled : ∀ entry ∈ state.pendingReconciliation, entry.state = .awaitingReconciliation
  burnt : spentKeys state ⊆ history.burnt

@[simp] theorem ledger_keys (state : SendOutboxState) (history : History) :
    (ledger state history).keys = history.accepted.map (·.idempotencyKey) := by
  simp [ledger, Ledger.keys, Function.comp_def]

@[simp] theorem ledger_approvals (state : SendOutboxState) (history : History) :
    (ledger state history).approvals = history.accepted.map (·.approvalId) := by
  simp [ledger, Ledger.approvals, Function.comp_def]

theorem slot_inFlight {state : SendOutboxState} (history : History) {entry : OutboxEntry}
    (h : state.inFlight = some entry) :
    (ledger state history).slot = some (entry.idempotencyKey, phase entry) := by
  simp [ledger, SendOutboxState.unresolved, h]

theorem slot_pending {state : SendOutboxState} (history : History) {entry : OutboxEntry}
    (hidle : state.inFlight = none) (h : state.pendingReconciliation = [entry]) :
    (ledger state history).slot = some (entry.idempotencyKey, phase entry) := by
  simp [ledger, SendOutboxState.unresolved, hidle, h]

theorem slot_idle {state : SendOutboxState} (history : History)
    (hidle : state.inFlight = none) (h : state.pendingReconciliation = []) : (ledger state history).slot = none := by
  simp [ledger, SendOutboxState.unresolved, hidle, h]

theorem spentKeys_idle {state : SendOutboxState} (hidle : state.inFlight = none)
    (h : state.pendingReconciliation = []) : spentKeys state = [] := by
  simp [spentKeys, SendOutboxState.unresolved, hidle, h]

/-- The counters of a represented document are far from saturation. -/
theorem Represents.completed_lt {state : SendOutboxState} {history : History}
    (h : Represents state history) (hwf : WellFormed (ledger state history)) :
    state.completedAttemptTotal + 1 < 2 ^ 64 := by
  have htotal := hwf.total
  have hbounded := h.bounded
  simp only [ledger, List.length_map, maximumReservedIdempotencyKeys] at htotal hbounded
  omega

theorem Represents.reserve {before after : SendOutboxState} {history : History}
    {entry : OutboxEntry} {offers : List String} (h : Represents before history)
    (hwf : WellFormed (ledger before history)) (hreserve : before.Reserves entry after)
    (hoffers : offers = [] ∨ (offers = [entry.idempotencyKey] ∧ entry.permitSend = false)) :
    Represents after (history.observe before after offers) ∧
      Step (ledger before history) (ledger after (history.observe before after offers)) := by
  have haccepted : (history.observe before after offers).accepted =
      { entry with state := .reserved } :: history.accepted := by
    simp [History.observe, hreserve.idle, hreserve.inFlight]
  have hspent : spentKeys after = [] := by
    simp [spentKeys, SendOutboxState.unresolved, hreserve.inFlight, hreserve.pending]
  have hcard : before.reservedIdempotencyKeys.card = history.accepted.length := by
    have hnodup := hwf.keys
    rw [ledger_keys] at hnodup
    rw [h.keys, List.toFinset_card_of_nodup hnodup, List.length_map]
  have hroom := hreserve.room
  rw [hcard] at hroom
  refine ⟨?_, ?_⟩
  · refine ⟨?_, ?_, ?_, ?_, ?_, ?_, ?_, ?_⟩
    · rw [haccepted, hreserve.keys, h.keys]
      simp
    · rw [haccepted, hreserve.approvals, h.consumed, hreserve.inFlight, hreserve.idle]
      simp
    · intro current hcurrent
      rw [hreserve.inFlight] at hcurrent
      obtain rfl := Option.some.inj hcurrent
      exact ⟨_, _, haccepted, rfl, rfl⟩
    · rw [haccepted, hreserve.reserved, h.reserved, List.length_cons]
      simp only [maximumReservedIdempotencyKeys] at hroom
      exact saturatingAdd_of_lt (by omega)
    · simp [SendOutboxState.unresolved, hreserve.inFlight, hreserve.pending]
    · rw [haccepted, List.length_cons]
      exact hroom
    · simp [hreserve.pending]
    · rw [hspent]
      exact List.nil_subset _
  · have hslot := slot_idle history hreserve.idle hreserve.settled
    have hfresh : entry.idempotencyKey ∉ (ledger before history).keys := by
      rw [ledger_keys]
      simpa [h.keys] using hreserve.fresh
    have hunused : entry.approvalId ∉ (ledger before history).approvals := by
      rw [ledger_approvals]
      simpa [h.consumed, hreserve.idle] using hreserve.unused
    have hafter : ledger after (history.observe before after offers) =
        { ledger before history with
          admitted := (entry.idempotencyKey, entry.approvalId) :: (ledger before history).admitted
          slot := some (entry.idempotencyKey, phase { entry with state := .reserved })
          offered := offers ++ (ledger before history).offered } := by
      rw [ledger, haccepted, Ledger.mk.injEq]
      refine ⟨rfl, ?_, rfl, ?_, hreserve.completed⟩
      · simp [SendOutboxState.unresolved, hreserve.inFlight]
      · simp [History.observe, hspent, ledger]
    rw [hafter]
    refine .enter hslot hfresh hunused ?_ ?_
    · cases entry.permitSend <;> simp [phase]
    · obtain rfl | ⟨rfl, hpermit⟩ := hoffers
      · exact .inl rfl
      · exact .inr ⟨rfl, by simp [phase, hpermit]⟩

/-- An entry in flight is the only unresolved one. -/
theorem Represents.pending_eq_nil {state : SendOutboxState} {history : History}
    {entry : OutboxEntry} (h : Represents state history) (hflight : state.inFlight = some entry) :
    state.pendingReconciliation = [] := by
  have hsingle := h.single
  simp only [SendOutboxState.unresolved, hflight, Option.toList_some, List.length_append,
    List.length_cons, List.length_nil] at hsingle
  exact List.eq_nil_of_length_eq_zero (by omega)

theorem observe_accepted {before : SendOutboxState} {entry : OutboxEntry}
    (after : SendOutboxState) (history : History) (offers : List String)
    (hflight : before.inFlight = some entry) :
    (history.observe before after offers).accepted = history.accepted := by
  simp [History.observe, hflight]

theorem Represents.markAttempted {before after : SendOutboxState} {history : History}
    {entry : OutboxEntry} {offers : List String} {now : ℕ} (h : Represents before history)
    (hflight : before.inFlight = some entry) (hpermit : entry.permitSend = true)
    (hstate : entry.state = .reserved)
    (hafter : after = { before with
      inFlight := some { entry with
        state := .attempted, attemptedAtUnixNanoseconds := some now }
      updatedAtUnixNanoseconds := now })
    (hoffers : offers = [] ∨ offers = [entry.idempotencyKey]) :
    Represents after (history.observe before after offers) ∧
      Step (ledger before history) (ledger after (history.observe before after offers)) := by
  have haccepted := observe_accepted after history offers hflight
  have hpending := h.pending_eq_nil hflight
  have hinFlight : after.inFlight = some { entry with
      state := .attempted, attemptedAtUnixNanoseconds := some now } := by rw [hafter]
  have hafterPending : after.pendingReconciliation = [] := by rw [hafter]; exact hpending
  have hspent : spentKeys after = [entry.idempotencyKey] := by
    simp [spentKeys, SendOutboxState.unresolved, hinFlight, hafterPending]
  have hconsumed := h.consumed
  rw [hflight] at hconsumed
  refine ⟨?_, ?_⟩
  · refine ⟨?_, ?_, ?_, ?_, ?_, ?_, ?_, ?_⟩
    · rw [haccepted, hafter]
      exact h.keys
    · rw [haccepted, hinFlight, hafter]
      exact hconsumed
    · intro current hcurrent
      rw [hinFlight] at hcurrent
      obtain rfl := Option.some.inj hcurrent
      rw [haccepted]
      exact h.newest entry hflight
    · rw [haccepted, hafter]
      exact h.reserved
    · simp [SendOutboxState.unresolved, hinFlight, hafterPending]
    · rw [haccepted]
      exact h.bounded
    · simp [hafterPending]
    · exact List.subset_append_left _ _
  · have hslot : (ledger before history).slot = some (entry.idempotencyKey, .waiting) := by
      rw [slot_inFlight history hflight]
      simp [phase, hstate, hpermit]
    have hledger : ledger after (history.observe before after offers) =
        { ledger before history with
          slot := some (entry.idempotencyKey, .started)
          offered := offers ++ (ledger before history).offered
          burnt := insert entry.idempotencyKey (ledger before history).burnt } := by
      rw [ledger, haccepted, Ledger.mk.injEq]
      refine ⟨rfl, ?_, rfl, ?_, ?_⟩
      · simp [SendOutboxState.unresolved, hinFlight, phase]
      · ext key
        simp [History.observe, hspent, ledger]
      · rw [hafter]
        rfl
    rw [hledger]
    exact .start hslot hoffers

theorem Represents.settle {before after : SendOutboxState} {history : History}
    {entry : OutboxEntry} (h : Represents before history)
    (hwf : WellFormed (ledger before history)) (hsettle : before.Settles entry after) :
    Represents after (history.observe before after []) ∧
      Step (ledger before history) (ledger after (history.observe before after [])) := by
  have hflight := hsettle.inFlight
  have haccepted := observe_accepted after history [] hflight
  have hpending := h.pending_eq_nil hflight
  have hconsumed : after.consumedApprovalIds =
      (((history.observe before after []).accepted.drop
        after.inFlight.toList.length).map (·.approvalId)).toFinset := by
    obtain ⟨first, rest, hfirst, -, happroval⟩ := h.newest entry hflight
    rw [haccepted, hsettle.approvals, h.consumed, hsettle.idle, hflight, hfirst]
    simp [happroval]
  have hslot := slot_inFlight history hflight
  have hidle := hsettle.idle
  have hkeys : after.reservedIdempotencyKeys =
      ((history.observe before after []).accepted.map (·.idempotencyKey)).toFinset := by
    rw [haccepted, hsettle.same.keys, h.keys]
  have htotal : after.reservedAttemptTotal = (history.observe before after []).accepted.length := by
    rw [haccepted, hsettle.same.reserved, h.reserved]
  have hbounded := h.bounded
  obtain ⟨hparked, hcompleted⟩ | ⟨hclosed, hcompleted⟩ := hsettle.placed
  · rw [hpending, List.nil_append] at hparked
    have hspent : spentKeys after = [entry.idempotencyKey] := by
      simp [spentKeys, SendOutboxState.unresolved, hidle, hparked]
    refine ⟨⟨hkeys, hconsumed, ?_, htotal, ?_, ?_, ?_, ?_⟩, ?_⟩
    · simp [hidle]
    · simp [SendOutboxState.unresolved, hidle, hparked]
    · rw [haccepted]
      exact hbounded
    · simp [hparked]
    · exact List.subset_append_left _ _
    · have hledger : ledger after (history.observe before after []) =
          { ledger before history with
            slot := some (entry.idempotencyKey, .parked)
            burnt := insert entry.idempotencyKey (ledger before history).burnt } := by
        rw [ledger, haccepted, Ledger.mk.injEq]
        refine ⟨rfl, ?_, rfl, ?_, hcompleted⟩
        · simp [SendOutboxState.unresolved, hidle, hparked, phase]
        · ext key
          simp [History.observe, hspent, ledger]
      rw [hledger]
      exact .park hslot
  · rw [hpending] at hclosed
    have hspent := spentKeys_idle hidle hclosed
    refine ⟨⟨hkeys, hconsumed, ?_, htotal, ?_, ?_, ?_, ?_⟩, ?_⟩
    · simp [hidle]
    · simp [SendOutboxState.unresolved, hidle, hclosed]
    · rw [haccepted]
      exact hbounded
    · simp [hclosed]
    · exact List.subset_append_left _ _
    · have hledger : ledger after (history.observe before after []) =
          { ledger before history with
            slot := none
            closed := (ledger before history).closed + 1 } := by
        rw [ledger, haccepted, Ledger.mk.injEq]
        refine ⟨rfl, ?_, rfl, ?_, ?_⟩
        · simp [SendOutboxState.unresolved, hidle, hclosed]
        · simp [History.observe, hspent, ledger]
        · rw [hcompleted]
          exact saturatingAdd_of_lt (h.completed_lt hwf)
      rw [hledger]
      exact .close hslot

theorem Represents.resolve {before after : SendOutboxState} {history : History}
    {entry : OutboxEntry} (h : Represents before history)
    (hwf : WellFormed (ledger before history)) (hresolve : before.Resolves entry after) :
    Represents after (history.observe before after []) ∧
      Step (ledger before history) (ledger after (history.observe before after [])) := by
  have hsingle := h.single
  have hremoved := hresolve.removed
  simp only [SendOutboxState.unresolved, List.length_append] at hsingle
  have hflight : before.inFlight = none := by
    cases hentry : before.inFlight with
    | none => rfl
    | some current =>
      simp only [hentry, Option.toList_some, List.length_cons, List.length_nil] at hsingle
      omega
  have hpending : before.pendingReconciliation = [entry] := by
    obtain ⟨other, hother⟩ := List.length_eq_one_iff.mp
      (show before.pendingReconciliation.length = 1 by omega)
    have hmem := hresolve.parked
    rw [hother, List.mem_singleton] at hmem
    rw [hother, hmem]
  have hidle : after.inFlight = none := hresolve.inFlight.trans hflight
  have hclosed : after.pendingReconciliation = [] := by
    rw [hpending, List.length_singleton] at hremoved
    exact List.eq_nil_of_length_eq_zero (by omega)
  have haccepted : (history.observe before after []).accepted = history.accepted := by
    simp [History.observe, hidle]
  have hspent := spentKeys_idle hidle hclosed
  refine ⟨⟨?_, ?_, ?_, ?_, ?_, ?_, ?_, ?_⟩, ?_⟩
  · rw [haccepted, hresolve.same.keys, h.keys]
  · rw [haccepted, hresolve.approvals, h.consumed, hidle, hflight]
  · simp [hidle]
  · rw [haccepted, hresolve.same.reserved, h.reserved]
  · simp [SendOutboxState.unresolved, hidle, hclosed]
  · rw [haccepted]
    exact h.bounded
  · simp [hclosed]
  · exact List.subset_append_left _ _
  · have hledger : ledger after (history.observe before after []) =
        { ledger before history with
          slot := none
          closed := (ledger before history).closed + 1 } := by
      rw [ledger, haccepted, Ledger.mk.injEq]
      refine ⟨rfl, ?_, rfl, ?_, ?_⟩
      · simp [SendOutboxState.unresolved, hidle, hclosed]
      · simp [History.observe, hspent, ledger]
      · rw [hresolve.completed]
        exact saturatingAdd_of_lt (h.completed_lt hwf)
    rw [hledger]
    exact .close (slot_pending history hflight hpending)

theorem Represents.unchanged {state : SendOutboxState} {history : History}
    (h : Represents state history) :
    Represents state (history.observe state state []) ∧
      ledger state (history.observe state state []) = ledger state history := by
  have haccepted : (history.observe state state []).accepted = history.accepted := by
    cases hflight : state.inFlight <;> simp [History.observe, hflight]
  refine ⟨⟨?_, ?_, ?_, ?_, h.single, ?_, h.settled, List.subset_append_left _ _⟩, ?_⟩
  · rw [haccepted, h.keys]
  · rw [haccepted, h.consumed]
  · rw [haccepted]
    exact h.newest
  · rw [haccepted, h.reserved]
  · rw [haccepted]
    exact h.bounded
  · rw [ledger, haccepted, ledger, Ledger.mk.injEq]
    refine ⟨rfl, rfl, rfl, ?_, rfl⟩
    ext key
    simp only [History.observe, List.mem_append, Set.mem_ofPred_eq, or_iff_right_iff_imp]
    exact fun hkey => h.burnt hkey

end GreenBubbles.Outbox
