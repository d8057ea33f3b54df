import GreenBubbles.Send.Artifacts
import GreenBubbles.Send.Permitted

/-! # Capabilities of a permitted PRECHECK

The envelope has limits of its own. Once every gate is open a capability is
minted just when the draft, the configuration and the profile keep them.
-/
namespace GreenBubbles.Send

open Library Library.Bytes
open Connector (ActionDraft ExternalApprovalEvidence isSha256_sample sampleFields sampleSha256)
open Outbox (ActionCapability SendFailureCode SendOutboxState)
open SendAdapterConfig (boundAttachment draftCapability secondsToNanoseconds)

namespace ActionCapabilityEnvelope

theorem computedBinding_eq_some {capability : ActionCapabilityEnvelope} :
    (∃ binding, capability.computedBinding = some binding) ↔
      ∀ field ∈ capability.boundFields, (0 : UInt8) ∉ utf8 field := by
  have hdomain := capabilityDomain_clean
  simp only [computedBinding, bindingBytes_eq, Option.map_eq_some_iff, canonicalBytes_eq_some,
    List.forall_mem_cons, hdomain, not_false_eq_true, true_and]
  constructor
  · rintro ⟨_, _, ⟨hfields, -⟩, -⟩
    exact hfields
  · intro hfields
    exact ⟨_, _, ⟨hfields, rfl⟩, rfl⟩

theorem validate_ok {capability : ActionCapabilityEnvelope} {now : ℕ} :
    capability.validate now = .ok () ↔
      capability.structureValid = true ∧ capability.payload = .ok () ∧
        capability.issuedAtUnixNanoseconds ≤ now ∧ now < capability.validUntilUnixNanoseconds := by
  unfold validate
  cases hstructure : capability.structureValid with
  | false => simp [bind, Except.bind]
  | true =>
    cases hpayload : capability.payload with
    | error failure => simp [bind, Except.bind]
    | ok value =>
      by_cases htimes : now < capability.issuedAtUnixNanoseconds ∨
          capability.validUntilUnixNanoseconds ≤ now
      · simp only [if_pos htimes]
        simp [bind, Except.bind]
        omega
      · simp only [if_neg htimes]
        simp [bind, Except.bind, pure, Except.pure]
        omega

end ActionCapabilityEnvelope

/-- The staged copy is the draft's own; a text has none. -/
def Matches (draft : ActionDraft) : Option StagedAttachment → Prop
  | none => (draftCapability draft).carriesAttachment = false
  | some staged => (draftCapability draft).carriesAttachment = true ∧
      ∃ approved ∈ draft.attachments.head?, staged.attachment.sha256 = approved.sha256 ∧
        staged.attachment.displayFileName = approved.displayFileName ∧
        approved.byteCount = some staged.attachment.byteCount ∧
        staged.bytesPreservedInTransit = preservesBytes (draftCapability draft)

section Envelope

variable {config : SendAdapterConfig} {draft : ActionDraft} {approval : ExternalApprovalEvidence}
  {profile : VerifiedCalibrationProfile} {compatibility : CompatibilityDecision}
  {helperStatus : Option HelperCapabilityStatus} {state : SendOutboxState}
  {staged : Option StagedAttachment} {attachment : Option ActionAttachment} {permitSend : Bool}
  {now : ℕ}

theorem boundAttachment_of_matches (h : Matches draft staged) :
    boundAttachment draft staged = .ok (staged.map StagedAttachment.attachment) := by
  unfold boundAttachment
  cases staged with
  | none =>
    rw [Matches] at h
    simp [h]
  | some staged =>
    obtain ⟨hcarries, approved, happroved, hsha, hname, hcount, hpreserved⟩ := h
    cases hattachments : draft.attachments with
    | nil => simp [hattachments] at happroved
    | cons first rest =>
      simp only [hattachments, List.head?_cons, Option.mem_some_iff] at happroved
      subst happroved
      simp [hcarries, hsha, hname, hcount, hpreserved]

theorem mints_iff (hattachment : boundAttachment draft staged = .ok attachment) :
    (∃ capability, config.mintCapability draft approval.approvalId profile.binding staged
        permitSend now = .ok capability ∧ capability.validate now = .ok ()) ↔
      ∃ binding, (config.unboundCapability draft approval.approvalId profile.binding attachment
          permitSend now).computedBinding = some binding ∧
        { config.unboundCapability draft approval.approvalId profile.binding attachment permitSend
          now with bindingSha256 := binding }.validate now = .ok () := by
  constructor
  · rintro ⟨capability, hminted, hvalid⟩
    simp only [SendAdapterConfig.mintCapability, bind_ok, hattachment] at hminted
    obtain ⟨_, hsame, hminted⟩ := hminted
    obtain rfl := Except.ok.inj hsame
    split at hminted
    · cases hminted
    · rename_i binding hbinding
      obtain ⟨_, -, hcapability⟩ := bind_ok.mp hminted
      obtain rfl := Except.ok.inj hcapability
      exact ⟨binding, hbinding, hvalid⟩
  · rintro ⟨binding, hbinding, hvalid⟩
    exact ⟨_, SendAdapterConfig.mintCapability_of hattachment hbinding rfl hvalid, hvalid⟩

/-- The texts of a capability that are neither numbers nor digests nor names of the contract. -/
def writtenTexts (config : SendAdapterConfig) (draft : ActionDraft)
    (profile : VerifiedCalibrationProfile) (staged : Option StagedAttachment) : List String :=
  [config.accountId, draft.conversationId, draft.recipient.humanLabel,
   config.adapter.clientBuildProfileId, profile.profile.body.profileId] ++
  (match config.addressingMode with
   | .search => [config.searchKeyFor draft]
   | .currentConversation => []) ++
  staged.toList.flatMap fun copy =>
    [copy.attachment.stagingDirectory, copy.attachment.stagedPath,
     copy.attachment.displayFileName, copy.attachment.uniformTypeIdentifier]

/-- What an envelope asks for beyond the gates. -/
structure WithinLimits (config : SendAdapterConfig) (draft : ActionDraft)
    (profile : VerifiedCalibrationProfile) (staged : Option StagedAttachment) : Prop where
  title : draft.recipient.humanLabel.utf8ByteSize ≤ maximumExpectedTitleBytes
  body : draft.renderedText.utf8ByteSize ≤ maximumSendBodyBytes
  searched : config.addressingMode = .search → config.searchKeyFor draft ≠ "" ∧
    (config.searchKeyFor draft).utf8ByteSize ≤ maximumSearchKeyBytes
  named : profile.profile.body.profileId ≠ ""
  canonical : isSha256 profile.canonicalSha256 = true
  attachment : ∀ copy ∈ staged, copy.attachment.valid = true
  written : ∀ text ∈ writtenTexts config draft profile staged, (0 : UInt8) ∉ utf8 text

theorem writtenTexts_subset : writtenTexts config draft profile staged ⊆
    (config.unboundCapability draft approval.approvalId profile.binding
      (staged.map StagedAttachment.attachment) permitSend now).boundFields := by
  intro text htext
  simp only [ActionCapabilityEnvelope.boundFields, SendAdapterConfig.unboundCapability,
    VerifiedCalibrationProfile.binding]
  cases hmode : config.addressingMode <;> cases staged <;>
    simp only [writtenTexts, hmode, List.mem_append, List.mem_cons, List.not_mem_nil, or_false,
      Option.toList_none, Option.toList_some, List.flatMap_nil, List.flatMap_cons,
      Option.map_none, Option.map_some, Option.getD_none, Option.getD_some,
      ActionCapabilityEnvelope.attachmentFields] at htext ⊢ <;> tauto

theorem digest_isSha256 (domain : String) (fields : List String) :
    isSha256 (digest domain fields) = true := isSha256_hexDigest _

theorem zero_notMem_boundFields (hdraft : isSha256 draft.draftId = true)
    (happroval : isSha256 approval.approvalId = true)
    (hbody : isSha256 draft.renderedTextSha256 = true)
    (hlimits : WithinLimits config draft profile staged) :
    ∀ field ∈ (config.unboundCapability draft approval.approvalId profile.binding
      (staged.map StagedAttachment.attachment) permitSend now).boundFields, (0 : UInt8) ∉ utf8 field := by
  have hwritten := hlimits.written
  have hempty : (0 : UInt8) ∉ utf8 "" := by decide
  have hflag : ∀ flag, (0 : UInt8) ∉ utf8 (flagText flag) := by
    intro flag
    cases flag <;> exact zero_notMem_utf8 (by simp [flagText])
  have hname : ∀ capability, (0 : UInt8) ∉ utf8 (Connector.actionCapabilityName capability) := by
    intro capability
    cases capability <;> exact zero_notMem_utf8 (by simp [Connector.actionCapabilityName])
  have hmode : ∀ mode : SendAddressingMode, (0 : UInt8) ∉ utf8 mode.canonicalName := by
    intro mode
    cases mode <;> exact zero_notMem_utf8 (by simp [SendAddressingMode.canonicalName])
  have hstage : ∀ stage, (0 : UInt8) ∉ utf8 (rolloutStageName stage) := by
    intro stage
    cases stage <;> exact zero_notMem_utf8 (by simp [rolloutStageName])
  have hdigest : ∀ domain fields, (0 : UInt8) ∉ utf8 (digest domain fields) :=
    fun domain fields => zero_notMem_of_isSha256 (digest_isSha256 domain fields)
  have hnormalized : (0 : UInt8) ∉ utf8 (normalizedSendTextSha256 draft.renderedText) :=
    zero_notMem_of_isSha256 (isSha256_hexDigest _)
  have hsha : ∀ copy ∈ staged, (0 : UInt8) ∉ utf8 copy.attachment.sha256 := by
    intro copy hcopy
    have hvalid := hlimits.attachment copy hcopy
    simp only [ActionAttachment.valid, Bool.and_eq_true] at hvalid
    exact zero_notMem_of_isSha256 hvalid.1.1.1.1.1.1.2
  simp only [ActionCapabilityEnvelope.boundFields, SendAdapterConfig.unboundCapability,
    VerifiedCalibrationProfile.binding, SendAdapterConfig.actionId,
    SendAdapterConfig.idempotencyKey]
  cases hsearch : config.addressingMode <;> cases staged <;>
    simp only [writtenTexts, hsearch, List.forall_mem_append, List.forall_mem_cons,
      List.not_mem_nil, false_imp_iff, implies_true, and_true, Option.toList_none,
      Option.toList_some, List.flatMap_nil, List.flatMap_cons, List.append_nil] at hwritten <;>
    simp only [Option.map_none, Option.map_some, Option.getD_none, Option.getD_some,
      ActionCapabilityEnvelope.attachmentFields, List.forall_mem_append, List.forall_mem_cons,
      List.not_mem_nil, false_imp_iff, implies_true, and_true, zero_notMem_decimal, hdigest, hflag,
      hname, hmode, hstage, hempty, hnormalized, hwritten, not_false_eq_true, true_and,
      zero_notMem_of_isSha256 hdraft, zero_notMem_of_isSha256 happroval,
      zero_notMem_of_isSha256 hbody, zero_notMem_of_isSha256 hlimits.canonical]
  · exact hsha _ rfl
  · exact hsha _ rfl

theorem conversation_of_bound {gateDecisionId binding : String}
    {intent : Connector.ActionAttemptIntent}
    (h : Connector.expectedApprovalBinding gateDecisionId intent = some binding) :
    intent.conversationId ≠ "" := by
  unfold Connector.expectedApprovalBinding at h
  split_ifs at h with hfields
  simp only [Bool.or_eq_true, not_or, beq_iff_eq] at hfields
  exact hfields.1.2

/-- The draft expires, so the clock is not at its last reading. -/
theorem lt_validUntil
    (h : Gates config draft approval profile compatibility helperStatus state now) :
    now < saturatingAdd 128 now (secondsToNanoseconds config.capabilityValiditySeconds) := by
  have hvalidity := (validFields_of_validate h.configuration).validity
  have hbound := draft.expiresAtUnixNanoseconds.isLt
  have hunexpired := h.drafted.unexpired
  simp only [saturatingAdd, secondsToNanoseconds]
  omega

/-- Once the gates are open, the structure of an envelope is a matter of its limits. -/
theorem structureValid_iff {binding : String}
    (h : Gates config draft approval profile compatibility helperStatus state now)
    (hpermit : permitSend = true → config.rolloutStage.permitsReturn = true)
    (hbinding : (config.unboundCapability draft approval.approvalId profile.binding attachment
      permitSend now).computedBinding = some binding) :
    { config.unboundCapability draft approval.approvalId profile.binding attachment permitSend
        now with bindingSha256 := binding }.structureValid = true ↔
      draft.recipient.humanLabel.utf8ByteSize ≤ maximumExpectedTitleBytes ∧
        draft.renderedText.utf8ByteSize ≤ maximumSendBodyBytes ∧
        (config.addressingMode = .search → config.searchKeyFor draft ≠ "" ∧
          (config.searchKeyFor draft).utf8ByteSize ≤ maximumSearchKeyBytes) ∧
        profile.profile.body.profileId ≠ "" ∧ isSha256 profile.canonicalSha256 = true := by
  have hfields := validFields_of_validate h.configuration
  have hclient : config.adapter.clientBuildProfileId ≠ "" := by
    have hcomplete := hfields.adapter
    simp only [Connector.ActionAdapterBinding.complete, Bool.and_eq_true, bne_iff_ne] at hcomplete
    exact hcomplete.2
  have hbody : isSha256 draft.renderedTextSha256 = true := by
    rw [← h.drafted.digest]
    exact isSha256_hexDigest _
  have hidentity : isSha256 draft.draftId = true :=
    (Connector.expectedApprovalBinding_some h.approved.bound).2.1
  have hconversation : draft.conversationId ≠ "" := conversation_of_bound h.approved.bound
  have htimes := lt_validUntil h
  have hreturn : (!permitSend || config.rolloutStage.permitsReturn) = true := by
    cases permitSend with
    | false => rfl
    | true => exact hpermit rfl
  have hcomputed : ActionCapabilityEnvelope.computedBinding { config.unboundCapability draft
      approval.approvalId profile.binding attachment permitSend now with
        bindingSha256 := binding } = some binding := hbinding
  simp only [ActionCapabilityEnvelope.structureValid, hcomputed, Bool.and_eq_true,
    decide_eq_true_eq]
  simp only [SendAdapterConfig.unboundCapability, VerifiedCalibrationProfile.binding,
    SendAdapterConfig.actionId, SendAdapterConfig.idempotencyKey, digest_isSha256,
    beq_self_eq_true, bne_iff_ne, hidentity, h.approved.identified, hbody, h.drafted.digest,
    hfields.account, hconversation, hclient, h.drafted.titled, htimes, hreturn, ne_eq,
    not_false_eq_true, and_true, normalizedSendTextSha256, isSha256_hexDigest]
  by_cases hmode : config.addressingMode = .search
  · simp [hmode, SendAddressingMode.typesBeforeRecipientGate]
    tauto
  · have hcurrent : config.addressingMode = .currentConversation := by
      cases hother : config.addressingMode with
      | search => exact absurd hother hmode
      | currentConversation => rfl
    simp [hcurrent, SendAddressingMode.typesBeforeRecipientGate, maximumSearchKeyBytes]
    tauto

theorem payload_iff {binding : String} (hpayload : SinglePayload draft)
    (hmatches : Matches draft staged) :
    { config.unboundCapability draft approval.approvalId profile.binding
        (staged.map StagedAttachment.attachment) permitSend now with bindingSha256 := binding }.payload =
          .ok () ↔ ∀ copy ∈ staged, copy.attachment.valid = true := by
  cases staged with
  | none =>
    rw [Matches] at hmatches
    have hbody : draft.renderedText ≠ "" := by
      rcases hpayload with ⟨-, hbody, -⟩ | ⟨hcarries, -, -⟩
      · exact hbody
      · rw [hmatches] at hcarries
        cases hcarries
    simp [ActionCapabilityEnvelope.payload, SendAdapterConfig.unboundCapability, hmatches, hbody]
  | some copy =>
    obtain ⟨hcarries, -⟩ := hmatches
    have hbody : draft.renderedText = "" := by
      rcases hpayload with ⟨htext, -, -⟩ | ⟨-, hbody, -⟩
      · rw [htext] at hcarries
        cases hcarries
      · exact hbody
    simp [ActionCapabilityEnvelope.payload, SendAdapterConfig.unboundCapability, hcarries, hbody]

/-- Once the gates are open a capability is minted just within the limits of the envelope. -/
theorem mints_of_gates
    (h : Gates config draft approval profile compatibility helperStatus state now)
    (hmatches : Matches draft staged)
    (hpermit : permitSend = true → config.rolloutStage.permitsReturn = true) :
    (∃ capability, config.mintCapability draft approval.approvalId profile.binding staged
        permitSend now = .ok capability ∧ capability.validate now = .ok ()) ↔
      WithinLimits config draft profile staged := by
  rw [mints_iff (boundAttachment_of_matches hmatches)]
  constructor
  · rintro ⟨binding, hbinding, hvalid⟩
    obtain ⟨hstructure, hpayload, -⟩ := ActionCapabilityEnvelope.validate_ok.mp hvalid
    obtain ⟨htitle, hbody, hsearched, hnamed, hcanonical⟩ :=
      (structureValid_iff h hpermit hbinding).mp hstructure
    refine ⟨htitle, hbody, hsearched, hnamed, hcanonical,
      (payload_iff h.drafted.payload hmatches).mp hpayload, ?_⟩
    intro text htext
    exact ActionCapabilityEnvelope.computedBinding_eq_some.mp ⟨binding, hbinding⟩ text
      (writtenTexts_subset htext)
  · intro hlimits
    have hbody : isSha256 draft.renderedTextSha256 = true := by
      rw [← h.drafted.digest]
      exact isSha256_hexDigest _
    have hidentity : isSha256 draft.draftId = true :=
      (Connector.expectedApprovalBinding_some h.approved.bound).2.1
    have hfields : ∀ field ∈ (config.unboundCapability draft approval.approvalId profile.binding
        (staged.map StagedAttachment.attachment) permitSend now).boundFields,
          (0 : UInt8) ∉ utf8 field :=
      zero_notMem_boundFields hidentity h.approved.identified hbody hlimits
    obtain ⟨binding, hbinding⟩ := ActionCapabilityEnvelope.computedBinding_eq_some.mpr hfields
    refine ⟨binding, hbinding, ActionCapabilityEnvelope.validate_ok.mpr ⟨?_, ?_, le_refl now, ?_⟩⟩
    · exact (structureValid_iff h hpermit hbinding).mpr ⟨hlimits.title, hlimits.body,
        hlimits.searched, hlimits.named, hlimits.canonical⟩
    · exact (payload_iff h.drafted.payload hmatches).mpr hlimits.attachment
    · exact lt_validUntil h

end Envelope

section Complete

variable (config : SendAdapterConfig) (draft : ActionDraft) (approval : ExternalApprovalEvidence)
  (profile : VerifiedCalibrationProfile) (compatibility : CompatibilityDecision)
  (helperStatus : Option HelperCapabilityStatus) (state : SendOutboxState)
  (staged : Option StagedAttachment) (now : ℕ)

/-- PRECHECK decides on every gate, permits Return only to a release profile whose stage does,
and what it permits can be minted. -/
structure Complete : Prop where
  gates : (config.precheck draft approval profile compatibility helperStatus state
    now).permitted = true ↔ Gates config draft approval profile compatibility helperStatus state now
  permitSend : (config.precheck draft approval profile compatibility helperStatus state
    now).permitSend = true → profile.trustTier = .release ∧ MayReturn config draft
  minted : (config.precheck draft approval profile compatibility helperStatus state
    now).permitted = true → Matches draft staged →
      ∀ permitSend, (permitSend = true → (config.precheck draft approval profile compatibility
        helperStatus state now).permitSend = true) →
          ∃ capability, config.mintCapability draft approval.approvalId profile.binding staged
            permitSend now = .ok capability ∧ capability.validate now = .ok ()

/-- The verdict is the conjunction of all gates, and Return is permitted just to a permitted call
of a release profile whose stage may press it. What is permitted is minted just if the draft,
the configuration and the profile keep the limits of the envelope. -/
theorem precheck_complete :
    ((config.precheck draft approval profile compatibility helperStatus state now).permitted = true ↔
      Gates config draft approval profile compatibility helperStatus state now) ∧
    ((config.precheck draft approval profile compatibility helperStatus state now).permitSend =
        true ↔
      (config.precheck draft approval profile compatibility helperStatus state now).permitted =
        true ∧ profile.trustTier = .release ∧ MayReturn config draft) ∧
    (Complete config draft approval profile compatibility helperStatus state staged now ↔
      (Gates config draft approval profile compatibility helperStatus state now →
        Matches draft staged → WithinLimits config draft profile staged)) := by
  have hgates : (config.precheck draft approval profile compatibility helperStatus state
      now).permitted = true ↔
        Gates config draft approval profile compatibility helperStatus state now :=
    precheck_permitted
  have hpermit : (config.precheck draft approval profile compatibility helperStatus state
      now).permitSend = true ↔ (config.precheck draft approval profile compatibility helperStatus
        state now).permitted = true ∧ profile.trustTier = .release ∧ MayReturn config draft := by
    simp only [SendAdapterConfig.precheck, MayReturn, Bool.and_eq_true, beq_iff_eq]
    tauto
  refine ⟨hgates, hpermit, ?_, ?_⟩
  · intro h hopen hmatches
    have hminted := h.minted (hgates.mpr hopen) hmatches false (fun hfalse => by cases hfalse)
    exact (mints_of_gates hopen hmatches fun hfalse => by cases hfalse).mp hminted
  · intro hlimits
    refine ⟨hgates, fun hsend => (hpermit.mp hsend).2, ?_⟩
    intro hpermitted hmatches permitSend hsend
    have hopen := hgates.mp hpermitted
    exact (mints_of_gates hopen hmatches fun htrue => (hpermit.mp (hsend htrue)).2.2.1).mpr
      (hlimits hopen hmatches)

end Complete

/-! A text of more bytes than an envelope takes -/

def longText : String := .ofList (List.replicate 4097 'a')

def longFields : ActionDraft :=
  { sampleFields "requester" "0.10.0" with
    renderedText := longText
    renderedTextSha256 := Sha256.hexDigest (utf8 longText) }

def longDraft : ActionDraft :=
  { longFields with draftId := Connector.draftIdentity longFields }

def sampleApproval (draft : ActionDraft) : ExternalApprovalEvidence where
  approvalId := sampleSha256
  immutableBindingSha256 := (sampleConfig.expectedApprovalBinding draft).getD ""
  approverId := "owner"
  approvedAtUnixNanoseconds := 1000
  expiresAtUnixNanoseconds := 9000

def sampleVerified : VerifiedCalibrationProfile where
  profile :=
    { body :=
        { schema := 1, profileId := "calibration", wechatBundleIdentifier := "com.tencent.xinWeChat"
          wechatMarketingVersion := "4.1", wechatBuild := "4.1.13"
          clientBuildProfileId := "profile", macosMajor := 26
          anchors := ⟨⟨1, 1⟩, ⟨1, 1⟩, ⟨1, 1⟩⟩
          ocrRegions := ⟨⟨0, 0, 1, 1⟩, ⟨0, 0, 1, 1⟩, ⟨0, 0, 1, 1⟩, ⟨0, 0, 1, 1⟩⟩
          selftest := ⟨"caret", 500000⟩
          attachments := none
          issuedAtUnixSeconds := 0, expiresAtUnixSeconds := 10 }
      signature := "signature" }
  trustTier := .release
  canonicalSha256 := sampleSha256

def sampleCompatibility : CompatibilityDecision where
  macosBuild := "25G83"
  wechatBuild := "4.1.13"
  state := .supported
  knownCombination := true
  fieldKillSwitchEngaged := false
  expectedCalibrationProfileId := "calibration"
  clientBuildProfileId := "profile"
  note := ""

def sampleStatus : HelperCapabilityStatus where
  formatVersion := 1
  helperVersion := "1.0.0"
  engineVersion := "1.0.0"
  accessibilityGranted := true
  screenRecordingGranted := true
  wechatRunning := true
  wechatLoggedIn := true
  wechatBundleIdentifier := "com.tencent.xinWeChat"
  wechatMarketingVersion := "4.1"
  wechatBuild := "4.1.13"
  macosBuild := "25G83"
  macosMajor := 26
  mainWindowFound := true
  activeCalibrationProfileId := "calibration"
  engineHealthy := true
  boundedManifestScope := ["com.tencent.xinWeChat"]
  observedAtUnixNanoseconds := 1500

theorem utf8ByteSize_replicate (n : ℕ) :
    (String.ofList (List.replicate n 'a')).utf8ByteSize = n := by
  have hone : (String.utf8EncodeChar 'a').length = 1 := by decide
  rw [← length_utf8, utf8_ofList]
  induction n with
  | zero => rfl
  | succ n ih =>
    rw [List.replicate_succ, List.flatMap_cons, List.length_append, ih, hone, Nat.add_comm]

theorem longText_length : longText.utf8ByteSize = 4097 := utf8ByteSize_replicate 4097

theorem long_gates : Gates sampleConfig longDraft (sampleApproval longDraft) sampleVerified
    sampleCompatibility (some sampleStatus) (.new "account" 1000) 1500 := by
  have hlong : longText ≠ "" := by
    intro hempty
    have hlength := longText_length
    rw [hempty] at hlength
    cases hlength
  have hsha := isSha256_sample
  have hbound : (sampleConfig.expectedApprovalBinding longDraft).isSome = true := by
    rw [SendAdapterConfig.expectedApprovalBinding, Connector.expectedApprovalBinding, if_neg]
    · rfl
    · simp [SendAdapterConfig.attemptIntent, longDraft, longFields, Connector.draftIdentity,
        isSha256_hexDigest, sampleFields, sampleConfig, Connector.sampleContext, hsha,
        Connector.sampleAdapter, Connector.ActionAdapterBinding.complete]
  have hscope : AllowListGate sampleConfig longDraft := by
    refine ⟨?_, ?_, ?_⟩
    · decide +kernel
    · decide +kernel
    · decide +kernel
  refine
    { configuration := sampleSendAdapter.valid, killSwitch := rfl, fieldKillSwitch := rfl
      drafted := ⟨rfl, .inl ⟨rfl, hlong, rfl⟩, rfl, rfl, by decide, rfl, by decide⟩
      attachment := fun hcarries => by cases hcarries
      decision := ⟨rfl, rfl, rfl, rfl⟩
      allowList := hscope
      approved := ⟨hsha, by decide, ?_, by decide, by decide, by decide⟩
      capacity := ⟨by decide, fun _ hlater => ?_⟩
      outbox := ⟨rfl, rfl, rfl⟩
      build := ⟨rfl, rfl, rfl, rfl, rfl, rfl, rfl, rfl⟩
      helper := ⟨sampleStatus, rfl,
        ⟨⟨rfl, by decide, by decide, rfl, rfl, rfl, rfl, rfl, rfl, by decide, by decide⟩,
          rfl, rfl, rfl, rfl, rfl⟩⟩
      stage := fun _ => ⟨⟨rfl, by decide⟩, rfl⟩ }
  · obtain ⟨binding, hbinding⟩ := Option.isSome_iff_exists.mp hbound
    rw [sampleApproval, hbinding]
    rfl
  · exact absurd hlater (by decide)

/-- PRECHECK permits the text, and no capability can be minted for it. -/
theorem long_text_incomplete :
    (sampleConfig.precheck longDraft (sampleApproval longDraft) sampleVerified sampleCompatibility
      (some sampleStatus) (.new "account" 1000) 1500).permitted = true ∧
    ¬ Complete sampleConfig longDraft (sampleApproval longDraft) sampleVerified sampleCompatibility
      (some sampleStatus) (.new "account" 1000) none 1500 := by
  have hpermitted : (sampleConfig.precheck longDraft (sampleApproval longDraft) sampleVerified
      sampleCompatibility (some sampleStatus) (.new "account" 1000) 1500).permitted = true :=
    precheck_permitted.mpr long_gates
  refine ⟨hpermitted, fun h => ?_⟩
  have hmatches : Matches longDraft none := rfl
  have hminted := h.minted hpermitted hmatches false (fun hfalse => by cases hfalse)
  have hlimits := (mints_of_gates long_gates hmatches fun hfalse => by cases hfalse).mp hminted
  have htext : longDraft.renderedText = longText := rfl
  have hbody := hlimits.body
  rw [htext, longText_length, maximumSendBodyBytes] at hbody
  omega

end GreenBubbles.Send
