import GreenBubbles.Connector.Journal

/-! # The state audit

The journal is verified, every draft file is checked, and the events are folded
into per-draft totals that must fit together.
-/
namespace GreenBubbles.Connector

open Library Library.Bytes

def maxConnectorDraftCount : ℕ := 100000

/-- The fields of the policy the audit reads. -/
structure ToolAuthorizationPolicy where
  accountId : String
  maximumDraftBytes : ℕ

/-- The service over one replica and policy; the replica answers with its current
source fingerprint, if it has a checkpoint. -/
structure ConnectorService where
  policy : ToolAuthorizationPolicy
  policySha256 : String
  replicaStatus : Except RestoreError (Option String)

/-- The draft directory, in the order it is listed, and the journal. -/
structure ConnectorStore where
  drafts : List (String × PrivateFile)
  journal : Option PrivateFile

structure ConnectorStateAuditReport where
  auditLog : ConnectorAuditReport
  draftFileCount : ℕ
  structurallyValidDraftCount : ℕ
  currentlyPreviewableDraftCount : ℕ
  staleDraftCount : ℕ
  expiredDraftCount : ℕ
  reviewedDraftCount : ℕ
  completedDraftRequestEventCount : ℕ
  completedDraftReviewEventCount : ℕ
  allDraftsLinkedToRequestEvents : Bool
  allCompletedReviewEventsLinkedToDrafts : Bool
  gatedActionStageEventCount : ℕ
  sendApprovalDraftCount : ℕ
  sendAttemptDraftCount : ℕ
  sendReconciliationDraftCount : ℕ
  sendLifecycleOrderingValid : Bool

/-! Draft files -/

/-- The stem and the extension of a file name, cut at its last dot; a name that
only starts with a dot has no extension. -/
def splitFileName (name : String) : String × Option String :=
  let reversed := name.toList.reverse
  let ending := reversed.takeWhile (· != '.')
  match reversed.drop ending.length with
  | [] => (name, none)
  | [_] => (name, none)
  | _ :: stem => (String.ofList stem.reverse, some (String.ofList ending.reverse))

theorem splitFileName_json {stem : String} (h : stem ≠ "") :
    splitFileName (stem ++ ".json") = (stem, some "json") := by
  have hreversed : (stem ++ ".json").toList.reverse =
      ['n', 'o', 's', 'j'] ++ '.' :: stem.toList.reverse := by
    rw [String.toList_append, List.reverse_append]
    rfl
  have hne : stem.toList.reverse ≠ [] := by
    rw [ne_eq, List.reverse_eq_nil_iff, String.toList_eq_nil_iff]
    exact h
  obtain ⟨c, rest, hrest⟩ := List.exists_cons_of_ne_nil hne
  have hstem : String.ofList (c :: rest).reverse = stem := by
    rw [← hrest, List.reverse_reverse, String.ofList_toList]
  simp only [splitFileName, hreversed, hrest]
  simp only [List.reverse_cons] at hstem
  simp [hstem]

def readConnectorDraftFile (file : PrivateFile) : Except RestoreError (List UInt8) := do
  require (file.ownerOnly && file.bytes.length ≤ maxConnectorDraftBytes)
    "connector draft must be a bounded owner-only single-link regular file"
  return file.bytes

def policyDecisionIdentity (service : ConnectorService) (requesterId conversationId : String)
    (replyTargetId : Option String) (attachmentIds : List String) (sourceFingerprint : String) :
    String :=
  Sha256.hexDigest
    (([service.policySha256, service.policy.accountId, sourceFingerprint, requesterId,
       conversationId, replyTargetId.getD ""] ++ attachmentIds).flatMap
      fun value => utf8 value ++ [0])

def draftCurrentBindingMatches (service : ConnectorService) (draft : ActionDraft)
    (currentSourceFingerprint : String) : Bool :=
  draft.accountId == service.policy.accountId && draft.apiVersion == connectorApiVersion &&
  draft.connectorVersion == connectorVersion &&
  draft.renderedText.utf8ByteSize ≤ service.policy.maximumDraftBytes &&
  draft.sourceFingerprint == currentSourceFingerprint &&
  policyDecisionIdentity service draft.requesterId draft.conversationId
    (draft.replyTarget.map (·.canonicalId)) (draft.attachments.map (·.artifactId))
    draft.sourceFingerprint == draft.policyDecisionId

structure DraftAudit where
  /-- A map by draft identity: no two drafts share one. -/
  drafts : List ActionDraft
  currentCount : ℕ
  staleCount : ℕ
  expiredCount : ℕ

def DraftAudit.initial : DraftAudit where
  drafts := []
  currentCount := 0
  staleCount := 0
  expiredCount := 0

def auditDraftFile (serde : SerdeJson) (service : ConnectorService) (fingerprint : String) (now : ℕ)
    (audit : DraftAudit) (entry : String × PrivateFile) : Except RestoreError DraftAudit := do
  require (audit.drafts.length < maxConnectorDraftCount)
    "connector draft store exceeds the verification limit"
  let (stem, extension) := splitFileName entry.1
  require (extension == some "json") "connector draft store contains an unsupported entry"
  require (isSha256 stem) "connector draft filename is not an immutable draft identity"
  let bytes ← readConnectorDraftFile entry.2
  let draft ← fromSlice serde.draftFromSlice bytes
  validateDraftStructure draft
  require (draft.draftId == stem) "connector draft filename does not match its contents"
  let expired := now ≥ draft.expiresAtUnixNanoseconds.toNat
  let matching := draftCurrentBindingMatches service draft fingerprint
  require (!audit.drafts.any (·.draftId == draft.draftId))
    "connector draft store repeats an immutable identity"
  return {
    drafts := audit.drafts ++ [draft]
    currentCount := audit.currentCount + if matching && !expired then 1 else 0
    staleCount := audit.staleCount + if matching then 0 else 1
    expiredCount := audit.expiredCount + if expired then 1 else 0 }

/-! Events -/

def isSendAdapterOperation (operation : String) : Bool :=
  operation == "executeSend" || operation == "executeSendDryRun" || operation == "reconcileSend"

def ConnectorAuditEvent.stageEvidenceValid (event : ConnectorAuditEvent) : Bool :=
  match event.stage, event.outcome with
  | .request, _ => event.draftId.isNone && event.policyDecisionId.isNone
  | .draftRequested, .completed =>
    event.operation == "createDraft" && event.draftId.isSome && event.policyDecisionId.isSome
  | .draftRequested, .denied =>
    event.operation == "createDraft" && event.draftId.isNone && event.policyDecisionId.isNone
  | .draftReviewed, .completed =>
    event.operation == "previewAction" && event.draftId.isSome && event.policyDecisionId.isSome
  | .draftReviewed, .denied =>
    event.operation == "previewAction" && event.draftId.isNone && event.policyDecisionId.isNone
  | .approvalRecorded, .denied => isSendAdapterOperation event.operation
  | .approvalRecorded, .completed | .attemptRecorded, _ | .reconciliationRecorded, _ =>
    isSendAdapterOperation event.operation && event.draftId.isSome && event.policyDecisionId.isSome

def validateCurrentConnectorStageEvidence (event : ConnectorAuditEvent) :
    Except RestoreError Unit :=
  require event.stageEvidenceValid "connector journal stage evidence is invalid for its stage"

def linkedAuditDraft (event : ConnectorAuditEvent) (drafts : List ActionDraft)
    (expectedOperation : String) : Except RestoreError ActionDraft :=
  match event.draftId with
  | none => throw (.integrity "completed draft audit event lacks a draft identity")
  | some draftId =>
    match drafts.find? (·.draftId == draftId) with
    | none => throw (.integrity "completed draft audit event has no draft file")
    | some draft => do
      require (event.operation == expectedOperation && event.accountId == draft.accountId &&
        event.conversationId == some draft.conversationId &&
        event.policyDecisionId == some draft.policyDecisionId)
        "connector draft audit linkage is inconsistent"
      return draft

/-- The drafts the events named, once for each event; a draft's counter is the
number of times it occurs. -/
structure EventAudit where
  completedRequests : List String
  completedReviews : List String
  sendApprovals : List String
  sendAttempts : List String
  sendReconciliations : List String

def EventAudit.initial : EventAudit where
  completedRequests := []
  completedReviews := []
  sendApprovals := []
  sendAttempts := []
  sendReconciliations := []

def auditEvent (drafts : List ActionDraft) (audit : EventAudit) (event : ConnectorAuditEvent) :
    Except RestoreError EventAudit := do
  validateCurrentConnectorStageEvidence event
  match event.stage, event.outcome with
  | .approvalRecorded, .completed =>
    let draft ← linkedAuditDraft event drafts event.operation
    return { audit with sendApprovals := audit.sendApprovals ++ [draft.draftId] }
  | .attemptRecorded, _ =>
    let draft ← linkedAuditDraft event drafts event.operation
    return { audit with sendAttempts := audit.sendAttempts ++ [draft.draftId] }
  | .reconciliationRecorded, _ =>
    let draft ← linkedAuditDraft event drafts event.operation
    return { audit with sendReconciliations := audit.sendReconciliations ++ [draft.draftId] }
  | .draftRequested, .completed =>
    let draft ← linkedAuditDraft event drafts "createDraft"
    require (event.requesterId == draft.requesterId)
      "draft request audit requester does not match the draft"
    return { audit with completedRequests := audit.completedRequests ++ [draft.draftId] }
  | .draftReviewed, .completed =>
    let draft ← linkedAuditDraft event drafts "previewAction"
    return { audit with completedReviews := audit.completedReviews ++ [draft.draftId] }
  | _, _ => return audit

/-- The totals that must agree once every event is read. -/
def checkTotals (drafts : List ActionDraft) (audit : EventAudit) : Except RestoreError Unit := do
  require (audit.completedRequests.dedup.length == drafts.length &&
    audit.completedRequests.all (audit.completedRequests.count · == 1))
    "connector drafts and completed request events are not one-to-one"
  require (audit.sendAttempts.all fun draftId =>
    audit.sendAttempts.count draftId ≤ audit.sendApprovals.count draftId)
    "connector journal records a send attempt without its approval"
  require (audit.sendReconciliations.all audit.sendAttempts.contains)
    "connector journal records a reconciliation without its attempt"

/-- The store does not change under the audit, so its closing comparison with a
second reading is one of equal values and is not repeated here. -/
def auditState (serde : SerdeJson) (service : ConnectorService) (store : ConnectorStore)
    (now : ℕ) : Except RestoreError ConnectorStateAuditReport := do
  let (auditLog, events) ←
    verifiedConnectorLogForAccount serde store.journal (some service.policy.accountId)
  let status ← service.replicaStatus
  match status with
  | none => throw (.integrity "connector replica has no current checkpoint")
  | some fingerprint =>
    let files ← store.drafts.foldlM (auditDraftFile serde service fingerprint now) .initial
    let audit ← events.foldlM (auditEvent files.drafts) .initial
    checkTotals files.drafts audit
    return {
      auditLog
      draftFileCount := files.drafts.length
      structurallyValidDraftCount := files.drafts.length
      currentlyPreviewableDraftCount := files.currentCount
      staleDraftCount := files.staleCount
      expiredDraftCount := files.expiredCount
      reviewedDraftCount := audit.completedReviews.dedup.length
      completedDraftRequestEventCount := audit.completedRequests.dedup.length
      completedDraftReviewEventCount := audit.completedReviews.length
      allDraftsLinkedToRequestEvents := true
      allCompletedReviewEventsLinkedToDrafts := true
      gatedActionStageEventCount := saturatingAdd 64
        (saturatingAdd 64 auditLog.approvalEventCount auditLog.attemptEventCount)
        auditLog.reconciliationEventCount
      sendApprovalDraftCount := audit.sendApprovals.dedup.length
      sendAttemptDraftCount := audit.sendAttempts.dedup.length
      sendReconciliationDraftCount := audit.sendReconciliations.dedup.length
      sendLifecycleOrderingValid := true }

end GreenBubbles.Connector
