import GreenBubbles.Connector.Identity
import GreenBubbles.Send.Soundness

/-! # What a failed send still allows

An entry that its own adapter closes as failed was never sent and never will
be. A reconciliation closes an attempt as failed once its grace has elapsed,
and nothing is pressed afterwards unless the call it closes was still open.
-/
namespace GreenBubbles.Send

open Library Library.Bytes Library.Runs
open Connector (isSha256_sample sampleAdapter sampleContext sampleDraft sampleFields sampleSha256)
open Outbox (Changes Closes Fault OutboxCompletion OutboxEntry Request SendCompletionKind
  SendOutboxState closings closings_nil transaction_writes)

/-- No call under the key is still to be made and the helper works on none. -/
def CallOver (world : World) (key : String) : Prop :=
  ∀ process attempt, world.attempts process = some attempt → attempt.key = key →
    ¬ attempt.MayPress

variable {adapter : SendAdapter} {documentBytes : SendOutboxState → ℕ}

theorem SendAdapter.grace_pos (adapter : SendAdapter) :
    0 < SendAdapterConfig.secondsToNanoseconds adapter.config.reconciliationGraceSeconds := by
  have hvalid := adapter.valid
  unfold SendAdapterConfig.validate at hvalid
  split_ifs at hvalid with hfields
  simp only [SendAdapterConfig.fieldsValid, Bool.and_eq_true, bne_iff_ne] at hfields
  have hgrace : adapter.config.reconciliationGraceSeconds ≠ 0 := by tauto
  rw [SendAdapterConfig.secondsToNanoseconds]
  omega

/-- The grace counts from the reading of the clock the capability was issued at. -/
theorem Late.elapsed {entry : OutboxEntry} {now : ℕ} (h : Late adapter entry now) :
    entry.reservedAtUnixNanoseconds +
      SendAdapterConfig.secondsToNanoseconds adapter.config.reconciliationGraceSeconds ≤ now := by
  have hpositive := adapter.grace_pos
  unfold Late at h
  omega

/-- With a grace at least as long as its validity, the capability has expired. -/
theorem Late.expired {entry : OutboxEntry} {now : ℕ} (h : Late adapter entry now)
    (htimed : Timed adapter entry) (hgrace : adapter.config.capabilityValiditySeconds ≤
      adapter.config.reconciliationGraceSeconds) : entry.deadlineUnixNanoseconds ≤ now := by
  have helapsed := h.elapsed
  rw [htimed.deadline, saturatingAdd]
  simp only [SendAdapterConfig.secondsToNanoseconds] at helapsed ⊢
  omega

/-- Once the call under a closed key is over, no later run presses Return under it. -/
theorem Sound.never_pressed_again {world : World} (h : Sound adapter [] (fun _ => False) world)
    {entry : OutboxEntry} {record : OutboxCompletion}
    (hrecord : .closed entry record ∈ world.log) (hover : CallOver world entry.idempotencyKey)
    (later : List Event) :
    ∃ added, (execute (Send.step adapter documentBytes) world later).log = added ++ world.log ∧
      ∀ capability, .pressed capability ∈ added →
        capability.idempotencyKey ≠ entry.idempotencyKey := by
  obtain ⟨-, hknown, hclosed⟩ := h.records entry record hrecord
  have hspent : world.Spent entry.idempotencyKey :=
    ⟨hknown, hclosed, fun process attempt hprocess _ hkey => hover process attempt hprocess hkey⟩
  have hsound : Sound adapter world.log (· = entry.idempotencyKey) world := by
    refine ⟨h.coupled, h.slot, h.inFlight, h.attempts, h.distinct, h.decided, h.pressed,
      h.records, h.failed, h.reconciled, ?_, [], rfl, by simp⟩
    rintro key rfl
    exact hspent
  exact (hsound.run later).added

/-- A configuration that validates, with a grace of one second and a validity of an hour. -/
def sampleConfig : SendAdapterConfig where
  formatVersion := 1
  accountId := "account"
  rolloutStage := .selfSend
  globalKillSwitchEngaged := false
  gate := sampleContext.gate
  adapter := sampleAdapter
  allowList := sampleContext.allowList
  selfSendConversationId := "conversation"
  addressingMode := .currentConversation
  attachmentRolloutStage := .dryRun
  maximumAttachmentAttemptsPerWindow := 1
  stagingRoot := "/staging"
  searchKeyOverrides := []
  attemptWindowSeconds := 3600
  maximumAttemptsPerWindow := 3
  circuitBreakerFailureThreshold := 3
  circuitBreakerCooldownSeconds := 900
  capabilityValiditySeconds := 3600
  reconciliationGraceSeconds := 1
  recallWindowSeconds := 120
  expectedMacosBuild := "25G83"
  expectedMacosMajor := 26
  expectedWechatBuild := "4.1.13"
  calibrationProfilePath := "/profile.json"
  compatibilityMatrixPath := "/matrix.json"
  developmentTrustRootPath := none
  outboxDirectory := "/outbox"
  auditLogPath := "/audit.jsonl"
  draftDirectory := "/drafts"
  helper :=
    { dispatcherExecutable := "/helper", machServiceName := "helper"
      statusTimeoutMilliseconds := 1000, selftestTimeoutMilliseconds := 1000
      sendTimeoutMilliseconds := 120000 }

def sampleSendAdapter : SendAdapter := ⟨sampleConfig, by decide +kernel⟩

def sampleProfile : CalibrationBinding := ⟨"profile", sampleSha256⟩

/-- The sample draft, bound for one hour from second one. -/
def sampleUnbound : ActionCapabilityEnvelope :=
  sampleConfig.unboundCapability (sampleDraft "requester" "0.10.0") sampleSha256 sampleProfile none
    true 1000000000

def sampleBindingFields : List String :=
  [toString sampleUnbound.formatVersion, sampleUnbound.capabilityId, sampleUnbound.actionId,
   sampleUnbound.draftId, sampleSha256, sampleUnbound.idempotencyKey, "account", "conversation",
   "textSend", "currentConversation", "", "Peer", sampleUnbound.bodySha256,
   sampleUnbound.normalizedBodySha256, "profile", "profile", sampleSha256, "false", "selfSend",
   "true", toString sampleUnbound.issuedAtUnixNanoseconds,
   toString sampleUnbound.validUntilUnixNanoseconds]

def sampleCapability : ActionCapabilityEnvelope :=
  { sampleUnbound with
    bindingSha256 := Sha256.hexDigest
      ((actionCapabilityDomain :: sampleBindingFields).flatMap fun field => utf8 field ++ [0]) }

theorem sampleUnbound_binding :
    sampleUnbound.computedBinding = some sampleCapability.bindingSha256 := by
  have hplain : ((actionCapabilityDomain :: sampleBindingFields).any fun field =>
      (utf8 field).contains 0) = false := by
    have hdigest : ∀ value, isSha256 value = true → (utf8 value).contains 0 = false := by
      intro value hvalue
      simpa using zero_notMem_of_isSha256 hvalue
    have hsample := isSha256_sample
    have hliteral : ([actionCapabilityDomain, toString sampleUnbound.formatVersion, "account",
        "conversation", "textSend", "currentConversation", "", "Peer", "profile", "false",
        "selfSend", "true", toString sampleUnbound.issuedAtUnixNanoseconds,
        toString sampleUnbound.validUntilUnixNanoseconds].all fun field =>
          !(utf8 field).contains 0) = true := by decide +kernel
    simp only [List.all_cons, List.all_nil, Bool.and_true, Bool.and_eq_true, Bool.not_eq_true']
      at hliteral
    simp only [sampleBindingFields, List.any_cons, List.any_nil, hliteral,
      hdigest _ hsample, hdigest sampleUnbound.capabilityId (isSha256_hexDigest _),
      hdigest sampleUnbound.actionId (isSha256_hexDigest _),
      hdigest sampleUnbound.draftId (isSha256_hexDigest _),
      hdigest sampleUnbound.idempotencyKey (isSha256_hexDigest _),
      hdigest sampleUnbound.bodySha256 (isSha256_hexDigest _),
      hdigest sampleUnbound.normalizedBodySha256 (isSha256_hexDigest _), Bool.or_self]
  have hbytes : sampleUnbound.bindingBytes =
      canonicalBytes actionCapabilityDomain sampleBindingFields := rfl
  rw [ActionCapabilityEnvelope.computedBinding, hbytes, canonicalBytes,
    if_neg (Bool.eq_false_iff.mp hplain)]
  rfl

theorem sampleCapability_valid : sampleCapability.structureValid = true := by
  have hbinding : sampleCapability.computedBinding = some sampleCapability.bindingSha256 :=
    (sampleUnbound.computedBinding_withBinding _).trans sampleUnbound_binding
  have hsample := isSha256_sample
  have hbody : Sha256.hexDigest (utf8 sampleCapability.body) = sampleCapability.bodySha256 := by
    simp only [sampleCapability, sampleUnbound, SendAdapterConfig.unboundCapability,
      sampleDraft, sampleFields]
  have hnormalized : normalizedSendTextSha256 sampleCapability.body =
      sampleCapability.normalizedBodySha256 := by
    simp only [sampleCapability, sampleUnbound, SendAdapterConfig.unboundCapability]
  simp only [ActionCapabilityEnvelope.structureValid, hbinding, hbody, hnormalized,
    beq_self_eq_true, Bool.and_true]
  simp only [sampleCapability, sampleUnbound, SendAdapterConfig.unboundCapability,
    SendAdapterConfig.actionId, SendAdapterConfig.idempotencyKey, digest, sampleDraft, sampleFields,
    Connector.draftIdentity, normalizedSendTextSha256, isSha256_hexDigest, hsample, sampleProfile]
  decide +kernel

theorem sampleCapability_validates : sampleCapability.validate 1000000000 = .ok () := by
  have hpayload : sampleCapability.payload = .ok () := by decide
  have htimes : ¬ (1000000000 < sampleCapability.issuedAtUnixNanoseconds ∨
      sampleCapability.validUntilUnixNanoseconds ≤ 1000000000) := by decide
  simp only [ActionCapabilityEnvelope.validate, sampleCapability_valid, hpayload, if_neg htimes]
  rfl

theorem sampleCapability_minted :
    sampleConfig.mintCapability (sampleDraft "requester" "0.10.0") sampleSha256 sampleProfile none
      true 1000000000 = .ok sampleCapability :=
  SendAdapterConfig.mintCapability_of rfl sampleUnbound_binding rfl sampleCapability_validates

def sampleEntry : OutboxEntry := sampleCapability.outboxEntry

theorem sampleEntry_valid : sampleEntry.structurallyValid = true := by
  have hsample := isSha256_sample
  simp only [sampleEntry, ActionCapabilityEnvelope.outboxEntry, OutboxEntry.structurallyValid,
    sampleCapability, sampleUnbound, SendAdapterConfig.unboundCapability,
    SendAdapterConfig.actionId, SendAdapterConfig.idempotencyKey, digest, sampleDraft, sampleFields,
    Connector.draftIdentity, normalizedSendTextSha256, isSha256_hexDigest, hsample]
  decide +kernel

/-- A reservation the outbox of the sample accepts. -/
structure Reservable (entry : OutboxEntry) : Prop where
  valid : entry.structurallyValid = true
  account : entry.accountId = "account"
  permit : entry.permitSend = true
  progress : entry.state = .reserved

/-- The outbox of the sample while nothing is reserved. -/
def emptyOutbox : SendOutboxState := .new "account" 1000000000

def reservedOutbox (entry : OutboxEntry) : SendOutboxState :=
  { emptyOutbox with
    rateWindow := ⟨1000000000, 3601000000000, 3, 1⟩
    reservedIdempotencyKeys := {entry.idempotencyKey}
    reservedAttemptTotal := 1
    inFlight := some entry }

def attemptedOutbox (entry : OutboxEntry) : SendOutboxState :=
  { reservedOutbox entry with
    inFlight := some
      { entry with state := .attempted, attemptedAtUnixNanoseconds := some 1000000000 } }

def parkedEntry (entry : OutboxEntry) : OutboxEntry :=
  { entry with state := .awaitingReconciliation, attemptedAtUnixNanoseconds := some 1000000000 }

def parkedOutbox (entry : OutboxEntry) : SendOutboxState :=
  { reservedOutbox entry with
    inFlight := none
    pendingReconciliation := [parkedEntry entry]
    consumedApprovalIds := {entry.approvalId}
    recoveredAttemptTotal := 1
    updatedAtUnixNanoseconds := 2000000000 }

/-- A document with room whose unresolved entries come from one acceptable entry. -/
theorem sampleOutbox_valid (entry : OutboxEntry) {state : SendOutboxState} (hversion : state.formatVersion = 1)
    (haccount : state.accountId = "account") (hpending : state.pendingReconciliation.length ≤ 1)
    (hcompletions : state.completions.length ≤ 1)
    (hkeys : state.reservedIdempotencyKeys = {entry.idempotencyKey})
    (hentries : ∀ other ∈ state.unresolved, other.structurallyValid = true ∧
      other.accountId = "account" ∧ other.idempotencyKey = entry.idempotencyKey) :
    state.validate "account" = .ok () := by
  have hversion' : ¬ state.formatVersion ≠ Outbox.sendOutboxFormatVersion := not_not.mpr hversion
  have hroom : ¬ (Outbox.maximumReservedIdempotencyKeys < state.reservedIdempotencyKeys.card ∨
      Outbox.maximumCompletionHistory < state.completions.length ∨
      Outbox.maximumPendingReconciliation < state.pendingReconciliation.length) := by
    rw [hkeys, Finset.card_singleton, Outbox.maximumReservedIdempotencyKeys,
      Outbox.maximumCompletionHistory, Outbox.maximumPendingReconciliation]
    omega
  have haccepted : ¬ state.unresolved.any (fun entry => !entry.structurallyValid ||
      entry.accountId != "account" ||
      decide (entry.idempotencyKey ∉ state.reservedIdempotencyKeys)) = true := by
    rw [List.any_eq_true]
    rintro ⟨other, hother, hrefused⟩
    obtain ⟨hvalid, haccount', hkey⟩ := hentries other hother
    simp [hvalid, haccount', hkey, hkeys] at hrefused
  rw [SendOutboxState.validate, if_neg hversion', if_neg (not_not.mpr haccount), if_neg hroom,
    if_neg haccepted]

theorem Reservable.reserve {entry : OutboxEntry} (h : Reservable entry) :
    emptyOutbox.reserve entry 1000000000 3600000000000 3 = (.ok (), reservedOutbox entry) := by
  have hentry : { entry with state := .reserved } = entry := by
    rw [← h.progress]
  have hwindow : (emptyOutbox.rateWindow.rolled 1000000000 3600000000000 3) =
      ⟨1000000000, 3601000000000, 3, 0⟩ := by decide
  have haccount : ¬ (!entry.structurallyValid ∨ entry.accountId ≠ emptyOutbox.accountId) := by
    simp [h.valid, h.account, emptyOutbox, SendOutboxState.new]
  have hadmission : emptyOutbox.admissionFailure 1000000000 = none := by decide
  have hkey : entry.idempotencyKey ∉ emptyOutbox.reservedIdempotencyKeys := Finset.notMem_empty _
  have happroval : entry.approvalId ∉ emptyOutbox.consumedApprovalIds := Finset.notMem_empty _
  have hroom : ¬ Outbox.maximumReservedIdempotencyKeys ≤ emptyOutbox.reservedIdempotencyKeys.card := by
    decide
  simp only [SendOutboxState.reserve, hadmission, if_neg haccount, if_neg hkey, if_neg happroval,
    if_neg hroom, hwindow, hentry]
  rfl

theorem Reservable.mark {entry : OutboxEntry} (h : Reservable entry) :
    (reservedOutbox entry).markAttempted entry.idempotencyKey 1000000000 =
      (.ok (), attemptedOutbox entry) := by
  simp [SendOutboxState.markAttempted, reservedOutbox, Option.filter_some, h.permit, h.progress,
    attemptedOutbox, emptyOutbox, SendOutboxState.new]

theorem attemptedOutbox_recover (entry : OutboxEntry) :
    ((attemptedOutbox entry).recover 2000000000).2 = parkedOutbox entry := by
  simp [SendOutboxState.recover, attemptedOutbox, parkedOutbox, parkedEntry, SendOutboxState.park,
    reservedOutbox, emptyOutbox, SendOutboxState.new, saturatingAdd]

theorem Reservable.reservedOutbox_valid {entry : OutboxEntry} (h : Reservable entry) :
    (reservedOutbox entry).validate "account" = .ok () := by
  refine sampleOutbox_valid entry rfl rfl (Nat.zero_le _) (Nat.zero_le _) rfl ?_
  intro other hother
  obtain rfl : other = entry := by
    simpa [SendOutboxState.unresolved, reservedOutbox, emptyOutbox, SendOutboxState.new] using hother
  exact ⟨h.valid, h.account, rfl⟩

theorem Reservable.attemptedOutbox_valid {entry : OutboxEntry} (h : Reservable entry) :
    (attemptedOutbox entry).validate "account" = .ok () := by
  refine sampleOutbox_valid entry rfl rfl (Nat.zero_le _) (Nat.zero_le _) rfl ?_
  intro other hother
  simp only [SendOutboxState.unresolved, attemptedOutbox, reservedOutbox, emptyOutbox,
    SendOutboxState.new, Option.toList_some, List.append_nil, List.mem_singleton] at hother
  subst hother
  exact ⟨h.valid, h.account, rfl⟩

theorem Reservable.parkedOutbox_valid {entry : OutboxEntry} (h : Reservable entry) :
    (parkedOutbox entry).validate "account" = .ok () := by
  refine sampleOutbox_valid entry rfl rfl le_rfl (Nat.zero_le _) rfl ?_
  intro other hother
  simp only [SendOutboxState.unresolved, parkedOutbox, parkedEntry, Option.toList_none,
    List.nil_append, List.mem_singleton] at hother
  subst hother
  exact ⟨h.valid, h.account, rfl⟩

def sampleDocumentBytes (_state : SendOutboxState) : ℕ := 4096

theorem sampleDocument_small (state : SendOutboxState) :
    sampleDocumentBytes state < Outbox.maximumOutboxBytes := by
  rw [sampleDocumentBytes, Outbox.maximumOutboxBytes]
  omega

/-- What the sample runs see of a world: the document, who opened it, the call
of process zero, the decision of process one and the log. -/
structure Scene (world : World) (state : SendOutboxState) (processes : List (ℕ × String))
    (attempt : Option Attempt) (decision : Option Reconciliation) (log : List Observation) :
    Prop where
  document : world.outbox.document = some state
  processes : world.outbox.processes = processes
  attempt : world.attempts 0 = attempt
  decision : world.reconciliations 1 = decision
  log : world.log = log

namespace Scene

variable {world : World} {state after : SendOutboxState} {processes : List (ℕ × String)}
  {attempt : Option Attempt} {decision : Option Reconciliation} {log : List Observation} {now : ℕ}

theorem setAttempt (h : Scene world state processes attempt decision log) (next : Option Attempt) :
    Scene (world.setAttempt 0 next) state processes next decision log :=
  ⟨h.document, h.processes, by simp [World.setAttempt], h.decision, h.log⟩

theorem setReconciliation (h : Scene world state processes attempt decision log)
    (next : Option Reconciliation) :
    Scene (world.setReconciliation 1 next) state processes attempt next log :=
  ⟨h.document, h.processes, h.attempt, by simp [World.setReconciliation], h.log⟩

/-- A request of an opened process that is granted and changes the document. -/
theorem transact (h : Scene world state processes attempt decision log) {process : ℕ}
    (hprocess : processes.lookup process = some "account") {request : Request}
    (hoperation : request.operation now state = (.ok (), after)) (hchanged : after ≠ state)
    (hbefore : state.validate "account" = .ok ()) (hafter : after.validate "account" = .ok ()) :
    granted sampleDocumentBytes world process request now .none = true ∧
      Scene (transact sampleDocumentBytes world process request now .none) after processes attempt
        decision
        ((closings state after).map (fun (entry, record) => .closed entry record) ++ log) := by
  have hsubmit : Outbox.submit sampleDocumentBytes (some state) "account" request now .none =
      (.ok (), some after) :=
    transaction_writes sampleDocumentBytes hoperation hchanged hbefore hafter sampleDocument_small
  have hlookup : world.outbox.processes.lookup process = some "account" := by
    rw [h.processes, hprocess]
  have hstep : Outbox.step sampleDocumentBytes world.outbox (.requested process request now .none) =
      world.outbox.written (some after) request.offers := by
    simp only [Outbox.step, hlookup, h.document, hsubmit]
  refine ⟨?_, ?_⟩
  · simp only [granted, hlookup, h.document, hsubmit]
    rfl
  · rw [Send.transact, hstep]
    refine ⟨rfl, h.processes, h.attempt, h.decision, ?_⟩
    simp [World.follow, h.log, Outbox.World.current, Outbox.World.written, h.document]

/-- Another process opens the outbox and recovers what is in flight. -/
theorem opened (h : Scene world state processes attempt decision log)
    (hrecover : (state.recover now).2 = after) (hchanged : after ≠ state)
    (hbefore : state.validate "account" = .ok ()) (hafter : after.validate "account" = .ok ()) :
    Scene (step sampleSendAdapter sampleDocumentBytes world (.opened 1 now .none)) after
      ((1, "account") :: processes) attempt decision
      ((closings state after).map (fun (entry, record) => .closed entry record) ++ log) := by
  have hopen : Outbox.openOutbox sampleDocumentBytes (some state) "account" now .none =
      (.ok (state.recover now).1, some after) := by
    rw [Outbox.openOutbox, if_neg (by decide)]
    exact transaction_writes sampleDocumentBytes (by simp [hrecover]) hchanged hbefore hafter
      sampleDocument_small
  have hstep : Outbox.step sampleDocumentBytes world.outbox (.opened 1 "account" now .none) =
      { world.outbox.written (some after) [] with
        processes := (1, "account") :: world.outbox.processes } := by
    simp only [Outbox.step, h.document, hopen]
    rfl
  have haccount : sampleSendAdapter.config.accountId = "account" := rfl
  rw [Send.step, haccount, hstep]
  refine ⟨rfl, by rw [← h.processes]; rfl, h.attempt, h.decision, ?_⟩
  simp [World.follow, h.log, Outbox.World.current, Outbox.World.written, h.document]

/-- A granted request of the call of process zero that closes nothing. -/
theorem executed (h : Scene world state processes none decision log)
    (hprocess : processes.lookup 0 = some "account") {draft : Connector.ActionDraft}
    {approvalId : String} {profile : CalibrationBinding} {staged : Option StagedAttachment}
    {capability : ActionCapabilityEnvelope}
    (hmint : sampleConfig.mintCapability draft approvalId profile staged true now = .ok capability) :
    Scene (step sampleSendAdapter sampleDocumentBytes world
      (.executed 0 draft approvalId profile staged ⟨true, true⟩ now)) state processes
      (some ⟨capability, .minted, .idle⟩) decision log := by
  have hlookup : world.outbox.processes.lookup 0 = some "account" := by
    rw [h.processes, hprocess]
  have hmint' : sampleSendAdapter.config.mintCapability draft approvalId profile staged true now =
      .ok capability := hmint
  simp only [step, Send.executed, h.attempt, hlookup, hmint']
  exact h.setAttempt _

theorem reserved {capability : ActionCapabilityEnvelope} {job : Job}
    (h : Scene world state processes (some ⟨capability, .minted, job⟩) decision log)
    (hprocess : processes.lookup 0 = some "account")
    (hreserve : state.reserve capability.outboxEntry capability.issuedAtUnixNanoseconds
      3600000000000 3 = (.ok (), after)) (hchanged : after ≠ state)
    (hbefore : state.validate "account" = .ok ()) (hafter : after.validate "account" = .ok ())
    (hclosings : closings state after = []) :
    Scene (step sampleSendAdapter sampleDocumentBytes world (.reserved 0 .none)) after processes
      (some ⟨capability, .reserved, job⟩) decision log := by
  have hoperation : (Request.reserve capability.outboxEntry 3600000000000 3).operation
      capability.issuedAtUnixNanoseconds state = (.ok (), after) := by
    rw [Request.operation, hreserve]
    rfl
  obtain ⟨hgranted, hnext⟩ := h.transact hprocess hoperation hchanged hbefore hafter
  rw [hclosings] at hnext
  have hwindow : (sampleSendAdapter.config.attemptWindowSeconds |>
      SendAdapterConfig.secondsToNanoseconds) = 3600000000000 := rfl
  have hlimit : sampleSendAdapter.config.maximumAttemptsPerWindow = 3 := rfl
  simp only [step, Send.reserved, h.attempt, hwindow, hlimit, hgranted]
  exact hnext.setAttempt _

theorem marked {capability : ActionCapabilityEnvelope} {job : Job}
    (h : Scene world state processes (some ⟨capability, .reserved, job⟩) decision log)
    (hprocess : processes.lookup 0 = some "account") (hpermit : capability.permitSend = true)
    (hmark : state.markAttempted capability.idempotencyKey capability.issuedAtUnixNanoseconds =
      (.ok (), after)) (hchanged : after ≠ state)
    (hbefore : state.validate "account" = .ok ()) (hafter : after.validate "account" = .ok ())
    (hclosings : closings state after = []) :
    Scene (step sampleSendAdapter sampleDocumentBytes world (.marked 0 .none)) after processes
      (some ⟨capability, .ready, job⟩) decision log := by
  have hoperation : (Request.markAttempted capability.idempotencyKey).operation
      capability.issuedAtUnixNanoseconds state = (.ok (), after) := by
    rw [Request.operation, hmark]
    rfl
  obtain ⟨hgranted, hnext⟩ := h.transact hprocess hoperation hchanged hbefore hafter
  rw [hclosings] at hnext
  simp only [step, Send.marked, h.attempt, hpermit, if_true, hgranted]
  exact hnext.setAttempt _

theorem called {capability : ActionCapabilityEnvelope}
    (h : Scene world state processes (some ⟨capability, .ready, .idle⟩) decision log) :
    Scene (step sampleSendAdapter sampleDocumentBytes world (.called 0 true)) state processes
      (some ⟨capability, .calling, .queued⟩) decision log := by
  simp only [step, Send.called, h.attempt, if_true]
  exact h.setAttempt _

theorem began {capability : ActionCapabilityEnvelope} {phase : Phase}
    (h : Scene world state processes (some ⟨capability, phase, .queued⟩) decision log)
    (hvalid : capability.validate now = .ok ()) :
    Scene (step sampleSendAdapter sampleDocumentBytes world (.helperBegan 0 now true)) state
      processes (some ⟨capability, phase, .running⟩) decision log := by
  simp only [step, Send.helperBegan, h.attempt, hvalid]
  exact h.setAttempt _

theorem pressed {capability : ActionCapabilityEnvelope} {phase : Phase}
    (h : Scene world state processes (some ⟨capability, phase, .running⟩) decision log)
    (hpermit : capability.permitSend = true) :
    Scene (step sampleSendAdapter sampleDocumentBytes world (.helperPressed 0)) state processes
      (some ⟨capability, phase, .pressed⟩) decision (.pressed capability :: log) := by
  simp only [step, Send.helperPressed, h.attempt, hpermit, if_true]
  exact ⟨h.document, h.processes, by simp [World.setAttempt], h.decision, by rw [← h.log]⟩

/-- A reconciliation of process one decides on what it read. -/
theorem observed (h : Scene world state processes attempt decision log)
    (hprocess : processes.lookup 1 = some "account")
    {observation : SendReconciliationObservation} {entry : OutboxEntry} {kind : SendCompletionKind}
    (hparked : sampleConfig.parkedAttempt state observation = .ok entry)
    (hkind : sampleConfig.reconciliationKind entry observation now = some kind) :
    Scene (step sampleSendAdapter sampleDocumentBytes world (.observed 1 observation now)) state
      processes attempt (some ⟨observation.idempotencyKey, kind, now⟩) log := by
  have hlookup : world.outbox.processes.lookup 1 = some "account" := by
    rw [h.processes, hprocess]
  have hcurrent : world.outbox.current = state := by
    rw [Outbox.World.current, h.document]
    rfl
  have hparked' : sampleSendAdapter.config.parkedAttempt state observation = .ok entry := hparked
  have hkind' : sampleSendAdapter.config.reconciliationKind entry observation now = some kind :=
    hkind
  simp only [step, Send.observed, hlookup, hcurrent, hparked', hkind']
  exact h.setReconciliation _

theorem resolved {key : String} {kind : SendCompletionKind}
    (h : Scene world state processes attempt (some ⟨key, kind, now⟩) log)
    (hprocess : processes.lookup 1 = some "account")
    (hresolve : state.resolvePending key kind true now = (.ok (), after)) (hchanged : after ≠ state)
    (hbefore : state.validate "account" = .ok ()) (hafter : after.validate "account" = .ok ()) :
    Scene (step sampleSendAdapter sampleDocumentBytes world (.resolved 1 .none)) after processes
      attempt none
      ((closings state after).map (fun (entry, record) => .closed entry record) ++ log) := by
  have hoperation : (Request.resolvePending key kind true).operation now state = (.ok (), after) := by
    rw [Request.operation, hresolve]
    rfl
  obtain ⟨-, hnext⟩ := h.transact hprocess hoperation hchanged hbefore hafter
  simp only [step, Send.resolved, h.decision]
  exact hnext.setReconciliation _

theorem crashed {call : Attempt}
    (h : Scene world state processes (some call) decision log) :
    Scene (step sampleSendAdapter sampleDocumentBytes world (.crashed 0)) state
      (processes.filter (·.1 ≠ 0)) call.ended decision log := by
  have hclosings : closings world.outbox.current world.outbox.current = [] := closings_nil rfl
  simp only [step, Send.crashed, Outbox.step]
  refine ⟨h.document, by rw [← h.processes]; rfl, ?_, ?_, ?_⟩
  · simp [World.setAttempt, World.setReconciliation, h.attempt]
  · simpa [World.setAttempt, World.setReconciliation, World.follow] using h.decision
  · rw [← h.log]
    exact congrArg (fun added => added.map (fun (entry, record) => Observation.closed entry record) ++
      world.log) hclosings

end Scene

/-- The adapter opens its outbox, mints and reserves. -/
def sampleStart : List Event :=
  [.opened 0 1000000000 .none,
   .executed 0 (sampleDraft "requester" "0.10.0") sampleSha256 sampleProfile none ⟨true, true⟩
     1000000000,
   .reserved 0 .none]

theorem initial_opens :
    Scene (step sampleSendAdapter sampleDocumentBytes .initial (.opened 0 1000000000 .none))
      emptyOutbox [(0, "account")] none none [] := by
  have hopen : Outbox.openOutbox sampleDocumentBytes none "account" 1000000000 .none =
      (.ok (emptyOutbox.recover 1000000000).1, some emptyOutbox) := by
    decide
  have hstep : Outbox.step sampleDocumentBytes .initial (.opened 0 "account" 1000000000 .none) =
      { Outbox.World.initial.written (some emptyOutbox) [] with processes := [(0, "account")] } := by
    simp only [Outbox.step, Outbox.World.initial, hopen]
    rfl
  have haccount : sampleSendAdapter.config.accountId = "account" := rfl
  rw [Send.step, haccount, World.initial, hstep]
  exact ⟨rfl, rfl, rfl, rfl, rfl⟩

/-- No outgoing message in the replica. -/
def unseen (entry : OutboxEntry) : SendReconciliationObservation where
  formatVersion := 1
  idempotencyKey := entry.idempotencyKey
  accountId := "account"
  conversationId := entry.conversationId
  outgoingMessageFound := false
  normalizedBodyMatched := false
  attachmentReferenceFound := false
  displayFileNameMatched := false
  matchStrength := .none
  canonicalId := none

/-- The record of a reservation that recovery finds unmarked. -/
def abandoned (entry : OutboxEntry) : OutboxCompletion :=
  Outbox.completion entry .observedFailed
    { outcome := .completed .observedFailed, attempted := false
      visualConfirmation := .notAttempted, failure := some .engineStall
      reconciledByReplica := false } 1000000001

/-- The record of a parked attempt that a reconciliation calls failed. -/
def unconfirmed (entry : OutboxEntry) : OutboxCompletion :=
  Outbox.completion (parkedEntry entry) .observedFailed
    { outcome := .completed .observedFailed, attempted := true
      visualConfirmation := .unconfirmed, failure := none, reconciledByReplica := true } 2000000000

def abandonedOutbox (entry : OutboxEntry) : SendOutboxState :=
  { reservedOutbox entry with
    inFlight := none
    consumedApprovalIds := {entry.approvalId}
    recoveredAttemptTotal := 1
    completions := [abandoned entry]
    completedAttemptTotal := 1
    updatedAtUnixNanoseconds := 1000000001 }

def failedOutbox (entry : OutboxEntry) : SendOutboxState :=
  { parkedOutbox entry with
    pendingReconciliation := []
    completions := [unconfirmed entry]
    completedAttemptTotal := 1 }

section Overtaken

variable {capability : ActionCapabilityEnvelope}
  (hminted : sampleConfig.mintCapability (sampleDraft "requester" "0.10.0") sampleSha256
    sampleProfile none true 1000000000 = .ok capability)
  (hentry : capability.outboxEntry.structurallyValid = true)
include hminted hentry

theorem minted_reservable : Reservable capability.outboxEntry :=
  have hmints := SendAdapterConfig.mintCapability_ok hminted
  ⟨hentry, hmints.account, hmints.permit, rfl⟩

theorem sampleStart_reserves :
    Scene (execute (step sampleSendAdapter sampleDocumentBytes) .initial sampleStart)
      (reservedOutbox capability.outboxEntry) [(0, "account")]
      (some ⟨capability, .reserved, .idle⟩) none [] := by
  have hreservable := minted_reservable hminted hentry
  have hempty : emptyOutbox.validate "account" = .ok () := by decide
  have hchanged : reservedOutbox capability.outboxEntry ≠ emptyOutbox := by
    intro hsame
    have hflight := congrArg SendOutboxState.inFlight hsame
    cases hflight
  -- Rewriting keeps the steps folded; unfolding them would run the hash function.
  rw [sampleStart, execute_cons, execute_cons, execute_cons, execute_nil]
  refine (initial_opens.executed rfl hminted).reserved rfl ?_ hchanged hempty
    hreservable.reservedOutbox_valid rfl
  rw [(SendAdapterConfig.mintCapability_ok hminted).issued]
  exact hreservable.reserve

/-- The caller dies before it marks the attempt; the next process closes the reservation. -/
theorem restarted_fails :
    (execute (step sampleSendAdapter sampleDocumentBytes) .initial
      (sampleStart ++ [.crashed 0, .opened 1 1000000001 .none])).log =
      [.closed capability.outboxEntry (abandoned capability.outboxEntry)] := by
  have hreservable := minted_reservable hminted hentry
  have hrecover : ((reservedOutbox capability.outboxEntry).recover 1000000001).2 =
      abandonedOutbox capability.outboxEntry := by
    simp [SendOutboxState.recover, reservedOutbox, hreservable.progress, abandonedOutbox,
      SendOutboxState.pushCompletion, emptyOutbox, SendOutboxState.new, saturatingAdd, abandoned,
      Outbox.maximumCompletionHistory]
  have hvalid : (abandonedOutbox capability.outboxEntry).validate "account" = .ok () :=
    sampleOutbox_valid capability.outboxEntry rfl rfl (Nat.zero_le _) le_rfl rfl (by
      simp [SendOutboxState.unresolved, abandonedOutbox, reservedOutbox, emptyOutbox,
        SendOutboxState.new])
  rw [execute_append, execute_cons, execute_cons, execute_nil]
  have hcrashed := (sampleStart_reserves hminted hentry).crashed
  exact (hcrashed.opened hrecover (fun hsame => by cases congrArg (·.inFlight.isSome) hsame)
    hreservable.reservedOutbox_valid hvalid).log

/-- The helper begins its run, then a reconciliation of another process closes
the attempt, then the helper presses Return. -/
theorem overtaken_fails (hvalid : capability.validate 1000000000 = .ok ()) :
    (execute (step sampleSendAdapter sampleDocumentBytes) .initial
      (sampleStart ++ [.marked 0 .none, .called 0 true, .helperBegan 0 1000000000 true,
        .opened 1 2000000000 .none, .observed 1 (unseen capability.outboxEntry) 2000000000,
        .resolved 1 .none, .helperPressed 0])).log =
      [.pressed capability,
        .closed (parkedEntry capability.outboxEntry) (unconfirmed capability.outboxEntry)] := by
  have hreservable := minted_reservable hminted hentry
  have hmints := SendAdapterConfig.mintCapability_ok hminted
  rw [execute_append, execute_cons, execute_cons, execute_cons, execute_cons, execute_cons,
    execute_cons, execute_cons, execute_nil]
  have hstart := sampleStart_reserves hminted hentry
  have hmark : (reservedOutbox capability.outboxEntry).markAttempted capability.idempotencyKey
      capability.issuedAtUnixNanoseconds = (.ok (), attemptedOutbox capability.outboxEntry) := by
    rw [hmints.issued]
    exact hreservable.mark
  have hmarked := hstart.marked rfl hmints.permit hmark
    (fun hsame => by cases congrArg (·.inFlight.map (·.state)) hsame)
    hreservable.reservedOutbox_valid hreservable.attemptedOutbox_valid rfl
  have hbegan := hmarked.called.began hvalid
  have hparked := hbegan.opened (attemptedOutbox_recover capability.outboxEntry)
    (fun hsame => by cases congrArg (·.inFlight.isSome) hsame)
    hreservable.attemptedOutbox_valid hreservable.parkedOutbox_valid
  rw [show closings _ _ = [] from rfl] at hparked
  have hfound : sampleConfig.parkedAttempt (parkedOutbox capability.outboxEntry)
      (unseen capability.outboxEntry) = .ok (parkedEntry capability.outboxEntry) := by
    have haccount : sampleConfig.accountId = "account" := rfl
    simp [SendAdapterConfig.parkedAttempt, parkedOutbox, unseen, parkedEntry, sendContractVersion,
      haccount]
  have hkind : sampleConfig.reconciliationKind (parkedEntry capability.outboxEntry)
      (unseen capability.outboxEntry) 2000000000 = some .observedFailed := by
    have hattempted : attemptedAt (parkedEntry capability.outboxEntry) = 1000000000 := rfl
    have hgrace : SendAdapterConfig.secondsToNanoseconds sampleConfig.reconciliationGraceSeconds =
        1000000000 := rfl
    have helapsed : sampleConfig.graceElapsed (parkedEntry capability.outboxEntry) 2000000000 =
        true := by
      rw [SendAdapterConfig.graceElapsed, hattempted, hgrace]
      decide
    rw [SendAdapterConfig.reconciliationKind, helapsed]
    rfl
  have hresolve : (parkedOutbox capability.outboxEntry).resolvePending
      (unseen capability.outboxEntry).idempotencyKey .observedFailed true 2000000000 =
        (.ok (), failedOutbox capability.outboxEntry) := by
    simp [SendOutboxState.resolvePending, parkedOutbox, parkedEntry, unseen, failedOutbox,
      unconfirmed, SendOutboxState.pushCompletion, reservedOutbox, emptyOutbox, SendOutboxState.new,
      saturatingAdd, SendCompletionKind.healthy, Outbox.maximumCompletionHistory]
  have hfailed : (failedOutbox capability.outboxEntry).validate "account" = .ok () :=
    sampleOutbox_valid capability.outboxEntry rfl rfl (Nat.zero_le _) le_rfl rfl (by
      simp [SendOutboxState.unresolved, failedOutbox, parkedOutbox])
  have hresolved := (hparked.observed rfl hfound hkind).resolved rfl hresolve
    (fun hsame => by cases congrArg (·.pendingReconciliation.length) hsame)
    hreservable.parkedOutbox_valid hfailed
  exact (hresolved.pressed hmints.permit).log

end Overtaken

end GreenBubbles.Send
