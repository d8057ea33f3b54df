import GreenBubbles.Send.Precheck

/-! # What a permitted PRECHECK promises

The gates of a send one by one, the verdict as their conjunction, and what the
envelope of a capability asks for beyond them.
-/
namespace GreenBubbles.Send

open Std Library Library.Bytes
open Connector (ActionDraft ActionGuardDenial ExternalApprovalEvidence)
open Outbox (ActionCapability SendFailureCode SendOutboxState SendRateWindow)
open SendAdapterConfig (draftCapability payloadValid attachmentFailures)

@[simp] theorem failIf_eq_nil {condition : Bool} {failure : SendFailureCode} :
    failIf condition failure = [] ↔ condition = false := by
  cases condition <;> simp [failIf]

@[simp] theorem toOption_isNone_iff {ε α : Type} {result : Except ε α} :
    result.toOption.isNone = false ↔ ∃ value, result = .ok value := by
  cases result <;> simp [Except.toOption]

/-! The gates -/

section Gates

variable (config : SendAdapterConfig) (draft : ActionDraft) (approval : ExternalApprovalEvidence)
  (profile : VerifiedCalibrationProfile) (compatibility : CompatibilityDecision)
  (helperStatus : Option HelperCapabilityStatus) (state : SendOutboxState) (now : ℕ)

/-- Text alone or one attachment alone. -/
def SinglePayload : Prop :=
  (draftCapability draft = .textSend ∧ draft.renderedText ≠ "" ∧ draft.attachments = []) ∨
    ((draftCapability draft).carriesAttachment = true ∧ draft.renderedText = "" ∧
      ∃ attachment, draft.attachments = [attachment])

structure DraftGate : Prop where
  account : draft.accountId = config.accountId
  payload : SinglePayload draft
  digest : Sha256.hexDigest (utf8 draft.renderedText) = draft.renderedTextSha256
  recipient : draft.recipient.conversationId = draft.conversationId
  titled : draft.recipient.humanLabel ≠ ""
  standalone : draft.replyTarget = none
  unexpired : now < draft.expiresAtUnixNanoseconds.toNat

structure AttachmentGate : Prop where
  reviewed : ∀ attachment ∈ draft.attachments.head?, ∃ identifier,
    reviewedUniformTypeIdentifier (draftCapability draft) attachment.displayFileName =
      .ok identifier
  measured : ∀ attachment ∈ draft.attachments.head?, ∃ count ∈ attachment.byteCount, 0 < count
  calibrated : profile.profile.body.attachments ≠ none

/-- What the owner decided once for all sends. -/
structure DecisionGate : Prop where
  acquisition : config.gate.acquisitionGatePassed = true
  restoration : config.gate.restorationGatePassed = true
  mechanism : config.gate.mechanismApproved = true
  legalReview : config.gate.legalReviewApproved = true

structure AllowListGate : Prop where
  conversation : draft.conversationId ∈ config.allowList.conversationIds
  title : config.allowList.recipientTitles[draft.conversationId]? = some draft.recipient.humanLabel
  capability : draftCapability draft ∈ config.allowList.capabilities

/-- The approval is bound to the draft, the adapter and the capability, and has not been used. -/
structure ApprovalGate : Prop where
  identified : isSha256 approval.approvalId = true
  approver : approval.approverId ≠ ""
  bound : config.expectedApprovalBinding draft = some approval.immutableBindingSha256
  begun : approval.approvedAtUnixNanoseconds ≤ now
  unexpired : now < approval.expiresAtUnixNanoseconds
  unconsumed : approval.approvalId ∉ state.consumedApprovalIds

/-- An elapsed window is open; a running one until its attempts are used up. -/
def WindowOpen (window : SendRateWindow) (maximumAttempts : ℕ) : Prop :=
  window.startedAtUnixNanoseconds ≤ now → now < window.endsAtUnixNanoseconds →
    window.reservedAttempts < maximumAttempts

structure CapacityGate : Prop where
  unreserved : config.idempotencyKey draft.draftId approval.approvalId ∉
    state.reservedIdempotencyKeys
  window : WindowOpen now state.rateWindow (config.maximumAttemptsFor (draftCapability draft))

structure OutboxGate : Prop where
  idle : state.inFlight = none
  reconciled : state.pendingReconciliation = []
  breaker : state.circuitBreaker.isOpen now = false

/-- The matrix supports the combination and names this profile for this client. -/
structure BuildGate : Prop where
  supported : compatibility.state = .supported
  known : compatibility.knownCombination = true
  named : compatibility.expectedCalibrationProfileId = profile.profile.body.profileId
  client : compatibility.clientBuildProfileId = profile.profile.body.clientBuildProfileId
  wechat : compatibility.wechatBuild = profile.profile.body.wechatBuild
  macos : profile.profile.body.macosMajor = config.expectedMacosMajor
  adapter : profile.profile.body.clientBuildProfileId = config.adapter.clientBuildProfileId
  expected : profile.profile.body.wechatBuild = config.expectedWechatBuild

/-- Everything the helper has to be able to do. -/
structure HelperCapabilityStatus.Healthy (status : HelperCapabilityStatus) : Prop where
  version : status.formatVersion = sendContractVersion
  helper : status.helperVersion ≠ ""
  engine : status.engineVersion ≠ ""
  accessibility : status.accessibilityGranted = true
  screenRecording : status.screenRecordingGranted = true
  healthy : status.engineHealthy = true
  running : status.wechatRunning = true
  loggedIn : status.wechatLoggedIn = true
  window : status.mainWindowFound = true
  scope : status.boundedManifestScope ≠ []
  entries : "" ∉ status.boundedManifestScope

structure HelperGate (status : HelperCapabilityStatus) : Prop where
  healthy : status.Healthy
  macosBuild : status.macosBuild = config.expectedMacosBuild
  macosMajor : status.macosMajor = config.expectedMacosMajor
  wechatBuild : status.wechatBuild = config.expectedWechatBuild
  wechat : status.wechatBundleIdentifier = profile.profile.body.wechatBundleIdentifier
  calibrated : status.activeCalibrationProfileId = profile.profile.body.profileId

/-- The stage may press Return for this capability in this conversation. -/
def MayReturn : Prop :=
  config.rolloutStage.permitsReturn = true ∧
    config.stagePermitsCapability (draftCapability draft) draft.conversationId = true

/-- All gates of a send are open. -/
structure Gates : Prop where
  configuration : config.validate = .ok ()
  killSwitch : config.globalKillSwitchEngaged = false
  fieldKillSwitch : compatibility.fieldKillSwitchEngaged = false
  drafted : DraftGate config draft now
  attachment : (draftCapability draft).carriesAttachment = true → AttachmentGate draft profile
  decision : DecisionGate config
  allowList : AllowListGate config draft
  approved : ApprovalGate config draft approval state now
  capacity : CapacityGate config draft approval state now
  outbox : OutboxGate state now
  build : BuildGate config profile compatibility
  helper : ∃ status ∈ helperStatus, HelperGate config profile status
  /-- Only a dry run goes on without them. -/
  stage : config.rolloutStage.permitsReturn = true →
    MayReturn config draft ∧ profile.trustTier = .release

end Gates

/-! Each list of failures is empty just when its gates are open -/

section Open

variable {config : SendAdapterConfig} {draft : ActionDraft} {approval : ExternalApprovalEvidence}
  {profile : VerifiedCalibrationProfile} {compatibility : CompatibilityDecision}
  {helperStatus : Option HelperCapabilityStatus} {state : SendOutboxState} {now : ℕ}

theorem payloadValid_iff : payloadValid draft = true ↔ SinglePayload draft := by
  unfold payloadValid SinglePayload
  cases draftCapability draft <;>
    simp [ActionCapability.carriesAttachment, List.length_eq_one_iff]

theorem draftFailures_eq_nil :
    config.draftFailures draft now = [] ↔ DraftGate config draft now := by
  simp only [SendAdapterConfig.draftFailures, failIf_eq_nil, Bool.or_eq_false_iff,
    bne_eq_false_iff_eq, Bool.not_eq_false', payloadValid_iff, beq_eq_false_iff_ne,
    Option.isSome_eq_false_iff, Option.isNone_iff_eq_none, decide_eq_false_iff_not, Nat.not_le]
  constructor
  · rintro ⟨⟨⟨⟨⟨⟨haccount, hpayload⟩, hdigest⟩, hrecipient⟩, htitled⟩, hstandalone⟩, hunexpired⟩
    exact ⟨haccount, hpayload, hdigest, hrecipient, htitled, hstandalone, hunexpired⟩
  · intro h
    exact ⟨⟨⟨⟨⟨⟨h.account, h.payload⟩, h.digest⟩, h.recipient⟩, h.titled⟩, h.standalone⟩,
      h.unexpired⟩

theorem attachmentFailures_eq_nil : attachmentFailures draft profile = [] ↔
    ((draftCapability draft).carriesAttachment = true → AttachmentGate draft profile) := by
  cases hcarries : (draftCapability draft).carriesAttachment with
  | false => simp [attachmentFailures, hcarries]
  | true =>
    simp only [attachmentFailures, hcarries, if_true, List.append_eq_nil_iff, failIf_eq_nil,
      true_imp_iff]
    have hcalibrated : profile.profile.body.attachments.isNone = false ↔
        profile.profile.body.attachments ≠ none := by
      rw [Option.isNone_eq_false_iff, Option.isSome_iff_ne_none]
    constructor
    · rintro ⟨hhead, hknown⟩
      refine ⟨?_, ?_, hcalibrated.mp hknown⟩
      · intro attachment hattachment
        cases hattachments : draft.attachments with
        | nil => simp [hattachments] at hattachment
        | cons first rest =>
          simp only [hattachments, List.head?_cons, Option.mem_some_iff] at hattachment
          simp only [hattachments, List.append_eq_nil_iff, failIf_eq_nil,
            toOption_isNone_iff] at hhead
          exact hattachment ▸ hhead.1
      · intro attachment hattachment
        cases hattachments : draft.attachments with
        | nil => simp [hattachments] at hattachment
        | cons first rest =>
          simp only [hattachments, List.head?_cons, Option.mem_some_iff] at hattachment
          simp only [hattachments, List.append_eq_nil_iff, failIf_eq_nil, Bool.not_eq_false',
            Option.any_eq_true, decide_eq_true_eq] at hhead
          exact hattachment ▸ hhead.2
    · intro h
      refine ⟨?_, hcalibrated.mpr h.calibrated⟩
      cases hattachments : draft.attachments with
      | nil => rfl
      | cons first rest =>
        have hfirst : first ∈ draft.attachments.head? := by simp [hattachments]
        simp only [List.append_eq_nil_iff, failIf_eq_nil, toOption_isNone_iff, Bool.not_eq_false',
          Option.any_eq_true, decide_eq_true_eq]
        exact ⟨h.reviewed first hfirst, h.measured first hfirst⟩

theorem admissionFailure_eq_none : state.admissionFailure now = none ↔ OutboxGate state now := by
  unfold SendOutboxState.admissionFailure
  constructor
  · intro h
    split_ifs at h with hflight hpending hbreaker
    exact ⟨by simpa using hflight, by simpa using hpending, by simpa using hbreaker⟩
  · intro h
    simp [h.idle, h.reconciled, h.breaker]

theorem bindProfileToCompatibility_ok {expectedMacosMajor : ℕ} :
    (∃ value, bindProfileToCompatibility profile compatibility expectedMacosMajor = .ok value) ↔
      compatibility.fieldKillSwitchEngaged = false ∧ compatibility.knownCombination = true ∧
        compatibility.state.permitsSend = true ∧
        compatibility.expectedCalibrationProfileId = profile.profile.body.profileId ∧
        compatibility.clientBuildProfileId = profile.profile.body.clientBuildProfileId ∧
        compatibility.wechatBuild = profile.profile.body.wechatBuild ∧
        profile.profile.body.macosMajor = expectedMacosMajor := by
  unfold bindProfileToCompatibility
  constructor
  · rintro ⟨value, h⟩
    split_ifs at h with hstate hnamed hclient hmacos
    simp only [Bool.or_eq_true, not_or, Bool.not_eq_true', Bool.not_eq_true, Bool.not_eq_false,
      bne_iff_ne, ne_eq, not_not] at hstate hnamed hclient hmacos
    exact ⟨hstate.1.1, hstate.1.2, hstate.2, hnamed, hclient.1, hclient.2, hmacos⟩
  · rintro ⟨hfield, hknown, hsupported, hnamed, hclient, hwechat, hmacos⟩
    simp [hfield, hknown, hsupported, hnamed, hclient, hwechat, hmacos]

theorem permitsSend_iff {state : CompatibilityState} :
    state.permitsSend = true ↔ state = .supported := by
  cases state <;> simp [CompatibilityState.permitsSend]

/-- The field kill switch closes this gate too. -/
theorem buildFailures_eq_nil (hfield : compatibility.fieldKillSwitchEngaged = false) :
    config.buildFailures profile compatibility = [] ↔ BuildGate config profile compatibility := by
  simp only [SendAdapterConfig.buildFailures, List.append_eq_nil_iff, failIf_eq_nil,
    Bool.or_eq_false_iff, Bool.not_eq_false', toOption_isNone_iff, bindProfileToCompatibility_ok,
    permitsSend_iff, bne_eq_false_iff_eq, hfield, true_and]
  constructor
  · rintro ⟨⟨hsupported, hknown⟩, ⟨⟨-, -, hnamed, hclient, hwechat, hmacos⟩, hadapter⟩, hexpected⟩
    exact ⟨hsupported, hknown, hnamed, hclient, hwechat, hmacos, hadapter, hexpected⟩
  · intro h
    exact ⟨⟨h.supported, h.known⟩,
      ⟨⟨h.known, h.supported, h.named, h.client, h.wechat, h.macos⟩, h.adapter⟩, h.expected⟩

theorem blockingFailure_eq_none {status : HelperCapabilityStatus} :
    status.blockingFailure = none ↔ status.Healthy := by
  unfold HelperCapabilityStatus.blockingFailure
  constructor
  · intro h
    split_ifs at h with hversion hgrants hengine hrunning hlogged hwindow hscope
    simp only [Bool.or_eq_true, not_or, bne_iff_ne, not_not, beq_iff_eq, Bool.not_eq_true',
      Bool.not_eq_false, List.isEmpty_iff, List.any_eq_true, not_exists, not_and]
      at hversion hgrants hengine hrunning hlogged hwindow hscope
    exact ⟨hversion.1.1, hversion.1.2, hversion.2, hgrants.1, hgrants.2, hengine, hrunning, hlogged,
      hwindow, hscope.1, fun hempty => hscope.2 "" hempty rfl⟩
  · intro h
    have hentries : status.boundedManifestScope.any (· == "") = false := by
      rw [List.any_eq_false]
      intro entry hentry hempty
      exact h.entries (beq_iff_eq.mp hempty ▸ hentry)
    simp [h.version, h.helper, h.engine, h.accessibility, h.screenRecording, h.healthy, h.running,
      h.loggedIn, h.window, h.scope, hentries]

theorem helperFailures_eq_nil : config.helperFailures profile helperStatus = [] ↔
    ∃ status ∈ helperStatus, HelperGate config profile status := by
  cases helperStatus with
  | none => simp [SendAdapterConfig.helperFailures]
  | some status =>
    simp only [SendAdapterConfig.helperFailures, List.append_eq_nil_iff, failIf_eq_nil,
      Option.toList_eq_nil_iff, blockingFailure_eq_none, Bool.or_eq_false_iff,
      bne_eq_false_iff_eq, Option.mem_some_iff, exists_eq_left']
    constructor
    · rintro ⟨⟨hhealthy, ⟨⟨hmacos, hmajor⟩, hbuild⟩, hwechat⟩, hcalibrated⟩
      exact ⟨hhealthy, hmacos, hmajor, hbuild, hwechat, hcalibrated⟩
    · intro h
      exact ⟨⟨h.healthy, ⟨⟨h.macosBuild, h.macosMajor⟩, h.wechatBuild⟩, h.wechat⟩, h.calibrated⟩

theorem stageFailures_eq_nil : config.stageFailures draft profile = [] ↔
    (config.rolloutStage.permitsReturn = true →
      MayReturn config draft ∧ profile.trustTier = .release) := by
  cases hreturn : config.rolloutStage.permitsReturn <;>
    simp [SendAdapterConfig.stageFailures, MayReturn, hreturn]

theorem rateDenials_eq_nil {rate : Connector.ActionRateState} :
    (if rate.windowStartedAtUnixNanoseconds ≥ rate.windowEndsAtUnixNanoseconds ||
        rate.maximumAttempts == 0 || now < rate.windowStartedAtUnixNanoseconds ||
        now ≥ rate.windowEndsAtUnixNanoseconds then [ActionGuardDenial.rateLimitInvalid]
      else Connector.denyIf (rate.reservedAttempts ≥ rate.maximumAttempts) .rateLimitExceeded) =
        [] ↔ ratePermits rate now = true := by
  simp only [ratePermits, Bool.and_eq_true, decide_eq_true_eq, bne_iff_ne]
  split_ifs with hinvalid
  · simp only [Bool.or_eq_true, beq_iff_eq, decide_eq_true_eq] at hinvalid
    simp only [false_iff]
    omega
  · simp only [Bool.or_eq_true, beq_iff_eq, decide_eq_true_eq] at hinvalid
    simp only [Connector.denyIf_eq_nil, decide_eq_false_iff_not]
    omega

/-- What a valid configuration promises to the gates after it. -/
structure ValidFields (config : SendAdapterConfig) : Prop where
  account : config.accountId ≠ ""
  adapter : config.adapter.complete = true
  validity : config.capabilityValiditySeconds ≠ 0
  accounts : config.allowList.accountIds.toList = [config.accountId]

theorem validFields_of_validate (h : config.validate = .ok ()) : ValidFields config := by
  unfold SendAdapterConfig.validate at h
  split_ifs at h with hfields
  simp only [SendAdapterConfig.fieldsValid, Bool.and_eq_true, bne_iff_ne, beq_iff_eq] at hfields
  have haccount : config.accountId ≠ "" := by tauto
  have hadapter : config.adapter.complete = true := by tauto
  have hvalidity : config.capabilityValiditySeconds ≠ 0 := by tauto
  have haccounts : config.allowList.accountIds.toList = [config.accountId] := by tauto
  exact ⟨haccount, hadapter, hvalidity, haccounts⟩

section Guard

variable (hvalid : config.validate = .ok ()) {maximumAttempts : ℕ}

include hvalid

theorem gateDenials_eq_nil :
    Connector.gateDenials (config.guardContext state maximumAttempts now) = [] ↔
      isSha256 config.gate.gateDecisionId = true ∧ DecisionGate config ∧
        config.globalKillSwitchEngaged = false := by
  have hadapter := (validFields_of_validate hvalid).adapter
  simp only [Connector.gateDenials, SendAdapterConfig.guardContext, List.append_eq_nil_iff,
    Connector.denyIf_eq_nil, Bool.or_eq_false_iff, Bool.not_eq_false', hadapter, bne_self_eq_false,
    true_and, and_true]
  constructor
  · rintro ⟨⟨⟨⟨⟨hdecision, hacquisition⟩, hrestoration⟩, hmechanism⟩, hlegal⟩, hkill⟩
    exact ⟨hdecision, ⟨hacquisition, hrestoration, hmechanism, hlegal⟩, hkill⟩
  · rintro ⟨hdecision, hgate, hkill⟩
    exact ⟨⟨⟨⟨⟨hdecision, hgate.acquisition⟩, hgate.restoration⟩, hgate.mechanism⟩,
      hgate.legalReview⟩, hkill⟩

theorem scopeDenials_eq_nil (htitled : draft.recipient.humanLabel ≠ "") :
    Connector.scopeDenials (config.guardContext state maximumAttempts now)
      { config.attemptIntent draft approval.approvalId with approval } = [] ↔
        AllowListGate config draft := by
  have haccount : config.allowList.accountIds.contains config.accountId = true := by
    rw [ExtTreeSet.contains_iff_mem, ← ExtTreeSet.mem_toList,
      (validFields_of_validate hvalid).accounts]
    exact List.mem_singleton_self _
  simp only [Connector.scopeDenials, SendAdapterConfig.guardContext,
    SendAdapterConfig.attemptIntent, List.append_eq_nil_iff, Connector.denyIf_eq_nil,
    Bool.or_eq_false_iff, Bool.not_eq_false', bne_self_eq_false, haccount, true_and, and_true,
    ExtTreeSet.contains_iff_mem, beq_eq_false_iff_ne, bne_eq_false_iff_eq, ne_eq, htitled,
    not_false_eq_true, List.contains_iff_mem]
  constructor
  · rintro ⟨⟨hconversation, htitle⟩, hcapability⟩
    exact ⟨hconversation, htitle, hcapability⟩
  · intro h
    exact ⟨⟨h.conversation, h.title⟩, h.capability⟩

omit hvalid in
/-- The binding is over neither the approval nor the key of the attempt. -/
theorem expectedApprovalBinding_withKey (gateDecisionId idempotencyKey : String)
    (intent : Connector.ActionAttemptIntent) :
    Connector.expectedApprovalBinding gateDecisionId { intent with approval, idempotencyKey } =
      Connector.expectedApprovalBinding gateDecisionId intent := rfl

omit hvalid in
theorem expectedApprovalBinding_eq :
    Connector.expectedApprovalBinding config.gate.gateDecisionId
        { config.attemptIntent draft approval.approvalId with approval } =
      config.expectedApprovalBinding draft := by
  have hintent : { config.attemptIntent draft approval.approvalId with approval } =
      { config.attemptIntent draft "" with
        approval
        idempotencyKey := config.idempotencyKey draft.draftId approval.approvalId } := rfl
  rw [hintent, expectedApprovalBinding_withKey]
  rfl

omit hvalid in
theorem approvalDenials_eq_nil :
    Connector.approvalDenials (config.guardContext state maximumAttempts now)
      { config.attemptIntent draft approval.approvalId with approval } = [] ↔
        ApprovalGate config draft approval state now := by
  have hgate : (config.guardContext state maximumAttempts now).gate = config.gate := rfl
  have hnow : (config.guardContext state maximumAttempts now).nowUnixNanoseconds = now := rfl
  have hconsumed : (config.guardContext state maximumAttempts now).consumedApprovalIds =
      .ofList (SendOutboxState.inOrder state.consumedApprovalIds) := rfl
  simp only [Connector.approvalDenials, hgate, hnow, hconsumed, expectedApprovalBinding_eq,
    List.append_eq_nil_iff, Connector.denyIf_eq_nil, Bool.or_eq_false_iff, Bool.not_eq_false',
    beq_eq_false_iff_ne, bne_eq_false_iff_eq, decide_eq_false_iff_not, Nat.not_lt, Nat.not_le,
    ExtTreeSet.contains_ofList, List.contains_eq_mem, SendOutboxState.mem_inOrder, ne_eq]
  constructor
  · rintro ⟨⟨⟨⟨⟨⟨⟨hidentified, happrover⟩, -⟩, -⟩, hbound⟩, hbegun⟩, hunexpired⟩, hunconsumed⟩
    exact ⟨hidentified, happrover, hbound, hbegun, hunexpired, hunconsumed⟩
  · intro h
    have hsha : isSha256 approval.immutableBindingSha256 = true := by
      obtain ⟨-, -, hbinding⟩ := Connector.expectedApprovalBinding_some h.bound
      rw [hbinding]
      exact isSha256_hexDigest _
    exact ⟨⟨⟨⟨⟨⟨⟨h.identified, h.approver⟩, hsha⟩, h.begun.trans_lt h.unexpired⟩, h.bound⟩,
      h.begun⟩, h.unexpired⟩, h.unconsumed⟩

omit hvalid in
/-- The guard is shown a window that runs, so it can only be used up. -/
theorem ratePermits_guardRate (hnow : now < 2 ^ 128 - 1) (hpositive : 0 < maximumAttempts) :
    ratePermits (config.guardRate state maximumAttempts now) now = true ↔
      WindowOpen now state.rateWindow maximumAttempts := by
  have hend := config.lt_windowEnd hnow
  rw [SendAdapterConfig.windowEnd] at hend
  unfold SendAdapterConfig.guardRate SendRateWindow.rolled WindowOpen
  by_cases hover : state.rateWindow.endsAtUnixNanoseconds ≤ now ∨
      now < state.rateWindow.startedAtUnixNanoseconds
  · simp only [if_pos hover, ratePermits, Bool.and_eq_true, decide_eq_true_eq, bne_iff_ne]
    omega
  · simp only [if_neg hover, ratePermits, Bool.and_eq_true, decide_eq_true_eq, bne_iff_ne]
    omega

theorem reservationDenials_eq_nil (hnow : now < 2 ^ 128 - 1) :
    Connector.reservationDenials
      (config.guardContext state (config.maximumAttemptsFor (draftCapability draft)) now)
      { config.attemptIntent draft approval.approvalId with approval } = [] ↔
        CapacityGate config draft approval state now := by
  have hkey : isSha256 (config.idempotencyKey draft.draftId approval.approvalId) = true :=
    isSha256_hexDigest _
  have hpositive := maximumAttemptsFor_pos hvalid (draftCapability draft)
  have hnow' : (config.guardContext state (config.maximumAttemptsFor (draftCapability draft))
      now).nowUnixNanoseconds = now := rfl
  have hguard : (config.guardContext state (config.maximumAttemptsFor (draftCapability draft))
      now).rate = config.guardRate state (config.maximumAttemptsFor (draftCapability draft)) now :=
    rfl
  have hreserved : (config.guardContext state (config.maximumAttemptsFor (draftCapability draft))
      now).reservedIdempotencyKeys = .ofList (SendOutboxState.inOrder state.reservedIdempotencyKeys) := rfl
  have hintent : (config.attemptIntent draft approval.approvalId).idempotencyKey =
      config.idempotencyKey draft.draftId approval.approvalId := rfl
  rw [Connector.reservationDenials, List.append_eq_nil_iff]
  simp only [hnow', hguard, hreserved, hintent, hkey, Bool.not_true, Bool.false_eq_true, if_false,
    rateDenials_eq_nil, Connector.denyIf_eq_nil, ExtTreeSet.contains_ofList,
    ratePermits_guardRate hnow hpositive, List.contains_eq_mem, SendOutboxState.mem_inOrder,
    decide_eq_false_iff_not]
  constructor
  · rintro ⟨hunreserved, hwindow⟩
    exact ⟨hunreserved, hwindow⟩
  · intro h
    exact ⟨h.unreserved, h.window⟩

/-- The guard denies nothing just when its gates are open. -/
theorem guardFailures_eq_nil (hdraft : DraftGate config draft now) :
    guardFailures (config.guardDecision draft approval state now) = [] ↔
      config.globalKillSwitchEngaged = false ∧ DecisionGate config ∧ AllowListGate config draft ∧
        ApprovalGate config draft approval state now ∧
        CapacityGate config draft approval state now := by
  have hnow : now < 2 ^ 128 - 1 := by
    have hbound := draft.expiresAtUnixNanoseconds.isLt
    have hunexpired := hdraft.unexpired
    omega
  simp only [guardFailures, List.map_eq_nil_iff, SendAdapterConfig.guardDecision,
    Connector.assessActionAttempt, List.append_eq_nil_iff, gateDenials_eq_nil hvalid,
    scopeDenials_eq_nil hvalid hdraft.titled, approvalDenials_eq_nil,
    reservationDenials_eq_nil hvalid hnow]
  constructor
  · rintro ⟨⟨⟨⟨-, hdecision, hkill⟩, hallow⟩, happroval⟩, hcapacity⟩
    exact ⟨hkill, hdecision, hallow, happroval, hcapacity⟩
  · rintro ⟨hkill, hdecision, hallow, happroval, hcapacity⟩
    have hgate := (Connector.expectedApprovalBinding_some happroval.bound).1
    exact ⟨⟨⟨⟨hgate, hdecision, hkill⟩, hallow⟩, happroval⟩, hcapacity⟩

end Guard

/-- The verdict is the conjunction of the gates. -/
theorem precheckFailures_eq_nil :
    config.precheckFailures draft approval profile compatibility helperStatus state now = [] ↔
      Gates config draft approval profile compatibility helperStatus state now := by
  simp only [SendAdapterConfig.precheckFailures, List.append_eq_nil_iff, failIf_eq_nil,
    toOption_isNone_iff, Bool.or_eq_false_iff, draftFailures_eq_nil, attachmentFailures_eq_nil,
    Option.toList_eq_nil_iff, admissionFailure_eq_none, helperFailures_eq_nil, stageFailures_eq_nil]
  constructor
  · rintro ⟨⟨⟨⟨⟨⟨⟨⟨⟨⟨⟩, hvalid⟩, hkill, hfield⟩, hdraft⟩, hattachment⟩, hguard⟩, houtbox⟩, hbuild⟩,
      hhelper⟩, hstage⟩
    obtain ⟨-, hdecision, hallow, happroval, hcapacity⟩ :=
      (guardFailures_eq_nil hvalid hdraft).mp hguard
    exact ⟨hvalid, hkill, hfield, hdraft, hattachment, hdecision, hallow, happroval, hcapacity,
      houtbox, (buildFailures_eq_nil hfield).mp hbuild, hhelper, hstage⟩
  · intro h
    refine ⟨⟨⟨⟨⟨⟨⟨⟨⟨(), h.configuration⟩, h.killSwitch, h.fieldKillSwitch⟩, h.drafted⟩,
      h.attachment⟩, ?_⟩, h.outbox⟩, ?_⟩, h.helper⟩, h.stage⟩
    · exact (guardFailures_eq_nil h.configuration h.drafted).mpr
        ⟨h.killSwitch, h.decision, h.allowList, h.approved, h.capacity⟩
    · exact (buildFailures_eq_nil h.fieldKillSwitch).mpr h.build

theorem precheck_permitted :
    (config.precheck draft approval profile compatibility helperStatus state now).permitted = true ↔
      Gates config draft approval profile compatibility helperStatus state now := by
  rw [← precheckFailures_eq_nil, ← List.isEmpty_iff]
  rfl

end Open

end GreenBubbles.Send
