import GreenBubbles.Outbox.State

/-! # Outbox transitions

The mutations of the outbox document. A transition takes the document by
mutable reference, so it returns its result next to the document it leaves
behind, also when it refuses.
-/
namespace GreenBubbles.Outbox

/-- Builds a terminal record from a reservation and what was observed. -/
def completion (entry : OutboxEntry) (kind : SendCompletionKind) (record : SendCompletionRecord)
    (now : ℕ) : OutboxCompletion where
  actionId := entry.actionId
  draftId := entry.draftId
  approvalId := entry.approvalId
  idempotencyKey := entry.idempotencyKey
  conversationId := entry.conversationId
  bodySha256 := entry.bodySha256
  normalizedBodySha256 := entry.normalizedBodySha256
  capability := entry.capability
  attachmentSha256 := entry.attachmentSha256
  displayFileName := entry.displayFileName
  bytesPreservedInTransit := entry.bytesPreservedInTransit
  rolloutStage := entry.rolloutStage
  attempted := record.attempted
  visualConfirmation := record.visualConfirmation
  completion := kind
  failure := record.failure
  reconciledByReplica := record.reconciledByReplica
  completedAtUnixNanoseconds := now

structure SendOutboxRecovery where
  recoveredReservation : Bool
  recoveredAttempt : Bool
  idempotencyKey : Option String
  pendingReconciliationCount : ℕ
  deriving DecidableEq

namespace SendOutboxState

/-- Refuses while anything is in flight, unresolved, or behind an open breaker. -/
def admissionFailure (state : SendOutboxState) (now : ℕ) : Option SendFailureCode :=
  if state.inFlight.isSome then some .outboxBusy
  else if !state.pendingReconciliation.isEmpty then some .reconciliationPending
  else if state.circuitBreaker.isOpen now then some .circuitOpen
  else none

def reserve (state : SendOutboxState) (entry : OutboxEntry)
    (now windowNanoseconds maximumAttempts : ℕ) : Except SendFailureCode Unit × SendOutboxState :=
  match state.admissionFailure now with
  | some failure => (.error failure, state)
  | none =>
    if !entry.structurallyValid ∨ entry.accountId ≠ state.accountId then
      (.error .configurationInvalid, state)
    else if entry.idempotencyKey ∈ state.reservedIdempotencyKeys then
      (.error .idempotencyConflict, state)
    else if entry.approvalId ∈ state.consumedApprovalIds then
      (.error .approvalInvalid, state)
    else if maximumReservedIdempotencyKeys ≤ state.reservedIdempotencyKeys.card then
      (.error .configurationInvalid, state)
    else
      let window := state.rateWindow.rolled now windowNanoseconds maximumAttempts
      if window.maximumAttempts = 0 ∨ window.maximumAttempts ≤ window.reservedAttempts then
        (.error .rateLimited, state)
      else
        (.ok (), { state with
          rateWindow :=
            { window with reservedAttempts := saturatingAdd 64 window.reservedAttempts 1 }
          reservedIdempotencyKeys := insert entry.idempotencyKey state.reservedIdempotencyKeys
          reservedAttemptTotal := saturatingAdd 64 state.reservedAttemptTotal 1
          inFlight := some { entry with state := .reserved }
          updatedAtUnixNanoseconds := now })

/-- The transition that must precede any dispatch allowed to press Return. -/
def markAttempted (state : SendOutboxState) (idempotencyKey : String) (now : ℕ) :
    Except SendFailureCode Unit × SendOutboxState :=
  match state.inFlight.filter (·.idempotencyKey = idempotencyKey) with
  | none => (.error .idempotencyConflict, state)
  | some entry =>
    if !entry.permitSend ∨ entry.state ≠ .reserved then
      (.error .idempotencyConflict, state)
    else
      (.ok (), { state with
        inFlight := some
          { entry with state := .attempted, attemptedAtUnixNanoseconds := some now }
        updatedAtUnixNanoseconds := now })

/-- Totals stay exact even after old rows are dropped. -/
def pushCompletion (state : SendOutboxState) (completion : OutboxCompletion) :
    SendOutboxState :=
  let completions := state.completions ++ [completion]
  { state with
    completedAttemptTotal := saturatingAdd 64 state.completedAttemptTotal 1
    completions := completions.drop (completions.length - maximumCompletionHistory) }

def park (state : SendOutboxState) (entry : OutboxEntry) : SendOutboxState :=
  { state with pendingReconciliation :=
      state.pendingReconciliation ++ [{ entry with state := .awaitingReconciliation }] }

/-- A key that is not in flight is refused, but the entry taken out is not put back. -/
def complete (state : SendOutboxState) (idempotencyKey : String) (record : SendCompletionRecord)
    (now failureThreshold cooldown : ℕ) : Except SendFailureCode Unit × SendOutboxState :=
  let taken := { state with inFlight := none }
  match state.inFlight.filter (·.idempotencyKey = idempotencyKey) with
  | none => (.error .idempotencyConflict, taken)
  | some entry =>
    let consumed :=
      { taken with consumedApprovalIds := insert entry.approvalId state.consumedApprovalIds }
    let failed := consumed.circuitBreaker.recordFailure now failureThreshold cooldown
      record.failure
    match record.outcome with
    | .awaitingReconciliation =>
      if maximumPendingReconciliation ≤ consumed.pendingReconciliation.length then
        (.error .reconciliationPending, { consumed with inFlight := some entry })
      else
        (.ok (), { consumed.park entry with
          circuitBreaker := failed
          updatedAtUnixNanoseconds := now })
    | .completed kind =>
      (.ok (), { consumed.pushCompletion (completion entry kind record now) with
        circuitBreaker :=
          if kind.healthy then consumed.circuitBreaker.recordSuccess else failed
        updatedAtUnixNanoseconds := now })

/-- Resolves one parked attempt, the first one under its key. -/
def resolvePending (state : SendOutboxState) (idempotencyKey : String)
    (kind : SendCompletionKind) (reconciledByReplica : Bool) (now : ℕ) :
    Except SendFailureCode Unit × SendOutboxState :=
  if kind = .dryRunCompleted then (.error .configurationInvalid, state)
  else
    match state.pendingReconciliation.find? (·.idempotencyKey = idempotencyKey) with
    | none => (.error .idempotencyConflict, state)
    | some entry =>
      let removed := { state with pendingReconciliation :=
          state.pendingReconciliation.eraseP (·.idempotencyKey = idempotencyKey) }
      let record : SendCompletionRecord :=
        { outcome := .completed kind
          attempted := entry.attemptedAtUnixNanoseconds.isSome
          visualConfirmation := .unconfirmed
          failure := none
          reconciledByReplica := reconciledByReplica }
      (.ok (), { removed.pushCompletion (completion entry kind record now) with
        circuitBreaker :=
          if kind.healthy then removed.circuitBreaker.recordSuccess else removed.circuitBreaker
        updatedAtUnixNanoseconds := now })

/-- Reconciles an interrupted process; neither path ever re-dispatches. -/
def recover (state : SendOutboxState) (now : ℕ) : SendOutboxRecovery × SendOutboxState :=
  match state.inFlight with
  | none =>
    (⟨false, false, none, state.pendingReconciliation.length⟩, state)
  | some entry =>
    let taken := { state with
      inFlight := none
      recoveredAttemptTotal := saturatingAdd 64 state.recoveredAttemptTotal 1
      consumedApprovalIds := insert entry.approvalId state.consumedApprovalIds }
    let dispatched := decide (entry.state = .attempted)
    let record : SendCompletionRecord :=
      { outcome := .completed .observedFailed
        attempted := false
        visualConfirmation := .notAttempted
        failure := some .engineStall
        reconciledByReplica := false }
    let settled :=
      if dispatched then taken.park entry
      else taken.pushCompletion (completion entry .observedFailed record now)
    (⟨!dispatched, dispatched, some entry.idempotencyKey,
        settled.pendingReconciliation.length⟩,
      { settled with updatedAtUnixNanoseconds := now })

theorem admissionFailure_eq_none {state : SendOutboxState} {now : ℕ}
    (h : state.admissionFailure now = none) :
    state.inFlight = none ∧ state.pendingReconciliation = [] := by
  unfold admissionFailure at h
  split_ifs at h with hflight hpending hopen
  exact ⟨by simpa using hflight, by simpa using hpending⟩

/-- Everything an accepted reservation does to the ledger fields. -/
structure Reserves (state : SendOutboxState) (entry : OutboxEntry) (after : SendOutboxState) :
    Prop where
  idle : state.inFlight = none
  settled : state.pendingReconciliation = []
  fresh : entry.idempotencyKey ∉ state.reservedIdempotencyKeys
  unused : entry.approvalId ∉ state.consumedApprovalIds
  room : state.reservedIdempotencyKeys.card < maximumReservedIdempotencyKeys
  inFlight : after.inFlight = some { entry with state := .reserved }
  pending : after.pendingReconciliation = []
  keys : after.reservedIdempotencyKeys =
    insert entry.idempotencyKey state.reservedIdempotencyKeys
  approvals : after.consumedApprovalIds = state.consumedApprovalIds
  reserved : after.reservedAttemptTotal = saturatingAdd 64 state.reservedAttemptTotal 1
  completed : after.completedAttemptTotal = state.completedAttemptTotal

theorem reserve_ok {state after : SendOutboxState} {entry : OutboxEntry} {now window limit : ℕ}
    (h : state.reserve entry now window limit = (.ok (), after)) :
    Reserves state entry after := by
  unfold reserve at h
  cases hadmission : state.admissionFailure now with
  | some failure => simp [hadmission] at h
  | none =>
    obtain ⟨hidle, hsettled⟩ := admissionFailure_eq_none hadmission
    simp only [hadmission] at h
    split_ifs at h with hvalid hkey happroval hroom hrate <;>
      simp only [Prod.mk.injEq, reduceCtorEq, false_and, true_and] at h
    subst h
    exact ⟨hidle, hsettled, hkey, happroval, by omega, rfl, hsettled, rfl, rfl, rfl, rfl⟩

/-- The fields the transitions other than a reservation never touch. -/
structure SameReservations (state after : SendOutboxState) : Prop where
  keys : after.reservedIdempotencyKeys = state.reservedIdempotencyKeys
  reserved : after.reservedAttemptTotal = state.reservedAttemptTotal

theorem markAttempted_ok {state after : SendOutboxState} {key : String} {now : ℕ}
    (h : state.markAttempted key now = (.ok (), after)) :
    ∃ entry, state.inFlight = some entry ∧ entry.idempotencyKey = key ∧
      entry.permitSend = true ∧ entry.state = .reserved ∧
      after = { state with
        inFlight := some { entry with
          state := .attempted, attemptedAtUnixNanoseconds := some now }
        updatedAtUnixNanoseconds := now } := by
  unfold markAttempted at h
  cases hentry : state.inFlight.filter (·.idempotencyKey = key) with
  | none => simp [hentry] at h
  | some entry =>
    obtain ⟨hflight, hkey⟩ := Option.filter_eq_some_iff.mp hentry
    simp only [hentry] at h
    split_ifs at h with hrefused
    · simp at h
    · simp only [not_or, Bool.not_eq_true, Bool.not_eq_false', not_not] at hrefused
      exact ⟨entry, hflight, by simpa using hkey, hrefused.1, hrefused.2, by simpa using h.symm⟩

/-- A settled entry leaves flight with its approval consumed. -/
structure Settles (state : SendOutboxState) (entry : OutboxEntry) (after : SendOutboxState) :
    Prop where
  same : SameReservations state after
  inFlight : state.inFlight = some entry
  idle : after.inFlight = none
  approvals : after.consumedApprovalIds = insert entry.approvalId state.consumedApprovalIds
  /-- Either parked, or counted among the completed attempts. -/
  placed :
    (after.pendingReconciliation =
        state.pendingReconciliation ++ [{ entry with state := .awaitingReconciliation }] ∧
      after.completedAttemptTotal = state.completedAttemptTotal) ∨
    (after.pendingReconciliation = state.pendingReconciliation ∧
      after.completedAttemptTotal = saturatingAdd 64 state.completedAttemptTotal 1)

theorem complete_ok {state after : SendOutboxState} {key : String}
    {record : SendCompletionRecord} {now threshold cooldown : ℕ}
    (h : state.complete key record now threshold cooldown = (.ok (), after)) :
    ∃ entry, entry.idempotencyKey = key ∧ Settles state entry after := by
  unfold complete at h
  cases hentry : state.inFlight.filter (·.idempotencyKey = key) with
  | none => simp [hentry] at h
  | some entry =>
    obtain ⟨hflight, hkey⟩ := Option.filter_eq_some_iff.mp hentry
    refine ⟨entry, by simpa using hkey, ?_⟩
    simp only [hentry] at h
    cases houtcome : record.outcome with
    | awaitingReconciliation =>
      simp only [houtcome] at h
      split_ifs at h with hfull
      · simp at h
      · simp only [Prod.mk.injEq, true_and] at h
        subst h
        exact ⟨⟨rfl, rfl⟩, hflight, rfl, rfl, .inl ⟨rfl, rfl⟩⟩
    | completed kind =>
      simp only [houtcome, Prod.mk.injEq, true_and] at h
      subst h
      exact ⟨⟨rfl, rfl⟩, hflight, rfl, rfl, .inr ⟨rfl, rfl⟩⟩

/-- What a granted completion leaves of a document with an entry in flight. -/
def settled (state : SendOutboxState) (entry : OutboxEntry) (record : SendCompletionRecord)
    (now failureThreshold cooldown : ℕ) : SendOutboxState :=
  let consumed := { state with
    inFlight := none
    consumedApprovalIds := insert entry.approvalId state.consumedApprovalIds }
  let failed := state.circuitBreaker.recordFailure now failureThreshold cooldown record.failure
  match record.outcome with
  | .awaitingReconciliation =>
    { consumed.park entry with circuitBreaker := failed, updatedAtUnixNanoseconds := now }
  | .completed kind =>
    { consumed.pushCompletion (completion entry kind record now) with
      circuitBreaker := if kind.healthy then state.circuitBreaker.recordSuccess else failed
      updatedAtUnixNanoseconds := now }

theorem complete_eq {state : SendOutboxState} {entry : OutboxEntry}
    (record : SendCompletionRecord) (now threshold cooldown : ℕ)
    (hflight : state.inFlight = some entry) (hpending : state.pendingReconciliation = []) :
    state.complete entry.idempotencyKey record now threshold cooldown =
      (.ok (), state.settled entry record now threshold cooldown) := by
  have hfilter : state.inFlight.filter (·.idempotencyKey = entry.idempotencyKey) = some entry := by
    simp [hflight]
  have hroom : ¬ maximumPendingReconciliation ≤ state.pendingReconciliation.length := by
    rw [hpending]
    decide
  cases houtcome : record.outcome with
  | awaitingReconciliation => simp only [complete, hfilter, settled, houtcome, if_neg hroom]
  | completed kind => simp only [complete, hfilter, settled, houtcome]

theorem recover_idle {state : SendOutboxState} {now : ℕ} (h : state.inFlight = none) :
    (state.recover now).2 = state := by
  simp [recover, h]

theorem recover_settles {state : SendOutboxState} {entry : OutboxEntry} {now : ℕ}
    (h : state.inFlight = some entry) : Settles state entry (state.recover now).2 := by
  by_cases hattempted : entry.state = .attempted
  · refine ⟨⟨?_, ?_⟩, h, ?_, ?_, .inl ⟨?_, ?_⟩⟩ <;> simp [recover, h, hattempted, park]
  · refine ⟨⟨?_, ?_⟩, h, ?_, ?_, .inr ⟨?_, ?_⟩⟩ <;>
      simp [recover, h, hattempted, pushCompletion]

/-- An attempted entry is never closed by recovery: it is parked. -/
theorem recover_parks {state : SendOutboxState} {entry : OutboxEntry} {now : ℕ}
    (h : state.inFlight = some entry) (hattempted : entry.state = .attempted) :
    { entry with state := .awaitingReconciliation } ∈
      (state.recover now).2.pendingReconciliation := by
  simp [recover, h, hattempted, park]

structure Resolves (state : SendOutboxState) (entry : OutboxEntry) (after : SendOutboxState) :
    Prop where
  same : SameReservations state after
  inFlight : after.inFlight = state.inFlight
  approvals : after.consumedApprovalIds = state.consumedApprovalIds
  parked : entry ∈ state.pendingReconciliation
  pending : after.pendingReconciliation.Sublist state.pendingReconciliation
  removed : after.pendingReconciliation.length + 1 = state.pendingReconciliation.length
  completed : after.completedAttemptTotal = saturatingAdd 64 state.completedAttemptTotal 1

theorem resolvePending_ok {state after : SendOutboxState} {key : String}
    {kind : SendCompletionKind} {reconciled : Bool} {now : ℕ}
    (h : state.resolvePending key kind reconciled now = (.ok (), after)) :
    ∃ entry, entry.idempotencyKey = key ∧ Resolves state entry after := by
  unfold resolvePending at h
  by_cases hkind : kind = .dryRunCompleted
  · simp [hkind] at h
  · rw [if_neg hkind] at h
    cases hentry : state.pendingReconciliation.find? (·.idempotencyKey = key) with
    | none => simp [hentry] at h
    | some entry =>
      have hmem := List.mem_of_find?_eq_some hentry
      have hkey : entry.idempotencyKey = key := by
        simpa using List.find?_some hentry
      simp only [hentry, Prod.mk.injEq, true_and] at h
      subst h
      refine ⟨entry, hkey, ⟨rfl, rfl⟩, rfl, rfl, hmem, List.eraseP_sublist, ?_, rfl⟩
      have hpositive := List.length_pos_of_mem hmem
      have herase :
          (state.pendingReconciliation.eraseP (·.idempotencyKey = key)).length =
            state.pendingReconciliation.length - 1 :=
        List.length_eraseP_of_mem hmem (decide_eq_true hkey)
      simp only [pushCompletion, herase]
      omega

end SendOutboxState

end GreenBubbles.Outbox
