import GreenBubbles.Library.Runs
import GreenBubbles.Send.Returns

/-! # The helper between requests

The helper serves its requests one after another and keeps one thing between
them: the calibration profile whose self-test passed last. Every request comes
with what the machine shows while it is served, which may be anything.
-/
namespace GreenBubbles.Send

open Library Library.Bytes Library.Scripts
open Connector (isSha256_sample sampleSha256)
open Outbox (SendFailureCode)

inductive SendTrustTier where
  | release
  | development
  deriving DecidableEq

inductive SignedArtifactDenial where
  | trustRootEmpty
  | trustRootMalformed
  | schemaUnsupported
  | structurallyInvalid
  | signatureMalformed
  | signatureNotVerified
  | notYetValid
  | expired
  | clientBuildMismatch
  | hostBuildMismatch
  | profileNotInMatrix
  | combinationNotSupported
  deriving DecidableEq

structure SignedCalibrationProfile where
  body : CalibrationProfileBody
  signature : String

structure VerifiedCalibrationProfile where
  profile : SignedCalibrationProfile
  trustTier : SendTrustTier
  canonicalSha256 : String

/-- What the helper takes from outside: how long Swift finds a string, and the trust root. -/
structure ArtifactChecks where
  count : String → ℕ
  verify : List UInt8 → String → Except SignedArtifactDenial SendTrustTier

def WindowRelativePoint.isValid (point : WindowRelativePoint) : Bool :=
  point.xPartsPerMillion ≤ partsPerMillion && point.yPartsPerMillion ≤ partsPerMillion

def WindowRelativeRect.isValid (rect : WindowRelativeRect) : Bool :=
  0 < rect.widthPartsPerMillion && 0 < rect.heightPartsPerMillion &&
    rect.xPartsPerMillion + rect.widthPartsPerMillion ≤ partsPerMillion &&
    rect.yPartsPerMillion + rect.heightPartsPerMillion ≤ partsPerMillion

def CalibrationAttachments.isValid (attachments : CalibrationAttachments) : Bool :=
  attachments.attachControl.isValid && attachments.confirmSendButton.isValid &&
    attachments.composeAttachment.isValid && attachments.confirmSheet.isValid

namespace CalibrationProfileBody

def isStructurallyValid (checks : ArtifactChecks) (body : CalibrationProfileBody) : Bool :=
  body.schema == calibrationProfileSchemaVersion && body.profileId != "" &&
    checks.count body.profileId ≤ 128 && body.wechatBundleIdentifier != "" &&
    body.wechatMarketingVersion != "" && body.wechatBuild != "" &&
    body.clientBuildProfileId != "" && 10 ≤ body.macosMajor && body.anchors.searchBox.isValid &&
    body.anchors.firstResultRow.isValid && body.anchors.composeBox.isValid &&
    body.ocrRegions.search.isValid && body.ocrRegions.title.isValid &&
    body.ocrRegions.compose.isValid && body.ocrRegions.newestOutgoing.isValid &&
    body.selftest.focusIndicator != "" &&
    body.selftest.minimumTitleConfidencePartsPerMillion ≤ partsPerMillion &&
    (body.attachments.map CalibrationAttachments.isValid).getD true &&
    body.issuedAtUnixSeconds < body.expiresAtUnixSeconds

/-- The digest a verified profile is known by; there is none for bytes that cannot be signed. -/
def canonicalSha256 (body : CalibrationProfileBody) : Option String :=
  (calibrationProfileSigningBytes body).map Sha256.hexDigest

/-- The time lies in the signed validity interval of the profile. -/
def Current (body : CalibrationProfileBody) (nowUnixNanoseconds : ℕ) : Prop :=
  body.issuedAtUnixSeconds ≤ nowUnixNanoseconds / 1000000000 ∧
    nowUnixNanoseconds / 1000000000 < body.expiresAtUnixSeconds

end CalibrationProfileBody

def ArtifactChecks.verifyProfile (checks : ArtifactChecks) (signed : SignedCalibrationProfile)
    (nowUnixSeconds : ℕ) : Except SignedArtifactDenial VerifiedCalibrationProfile :=
  if signed.body.schema != calibrationProfileSchemaVersion then .error .schemaUnsupported
  else
    match signed.body.isStructurallyValid checks, calibrationProfileSigningBytes signed.body with
    | true, some message => do
      let trustTier ← checks.verify message signed.signature
      if nowUnixSeconds < signed.body.issuedAtUnixSeconds then .error .notYetValid
      if signed.body.expiresAtUnixSeconds ≤ nowUnixSeconds then .error .expired
      return { profile := signed, trustTier, canonicalSha256 := Sha256.hexDigest message }
    | _, _ => .error .structurallyInvalid

/-- What the helper knows of the live client. -/
structure WeChatTarget where
  marketingVersion : String
  buildVersion : String
  frame : Option WindowFrame

namespace WeChatTarget

def signedIn (target : WeChatTarget) : Bool :=
  (target.frame.map WindowFrame.isPlausibleMainWindow).getD false

def buildIdentifier (target : WeChatTarget) : String :=
  if target.marketingVersion = "" ∨ target.buildVersion = "" then ""
  else target.marketingVersion ++ "." ++ target.buildVersion

end WeChatTarget

structure CalibrationSelfTestReport where
  formatVersion : ℕ
  calibrationProfileId : String
  passed : Bool
  searchBoxFocused : Bool
  titleConfidencePartsPerMillion : ℕ
  windowFrameDigest : String
  driftReport : List String
  failure : Option SendFailureCode
  observedAtUnixNanoseconds : ℕ

/-- The variables of the self-test. -/
structure SelfTestState where
  drift : List String
  confidence : ℕ
  digest : String
  failure : Option SendFailureCode
  located : Bool

def SelfTestState.initial : SelfTestState :=
  ⟨[], 0, .ofList (List.replicate 64 '0'), none, false⟩

namespace MechanicalSendSkill

abbrev SelfTest (β : Type) := Script SkillAnswer SendFailure SelfTestState β

def probe (action : SkillAction) : SelfTest action.Value := do
  let answer ← Script.call (SkillCall.perform action)
  Script.ofExcept answer

variable (skill : MechanicalSendSkill)

def allow (tool : SendTool) : SelfTest Unit :=
  Script.ofExcept (skill.manifest.authorize tool skill.targetBundleIdentifier)

def read (region : Region) (frame : WindowFrame) : SelfTest RecognizedRegionText := do
  skill.allow .windowCapture
  probe (.recognizeText region frame)

/-- What the title region shows must be text, read with enough confidence. -/
def assessTitle (title : RecognizedRegionText) (state : SelfTestState) : SelfTestState :=
  let confidence := title.confidencePartsPerMillion
  let minimum := skill.profile.selftest.minimumTitleConfidencePartsPerMillion
  if skill.swift.normalized title.text = "" then
    { state with
      confidence, failure := some .calibrationDrift
      drift := state.drift ++ ["the title region recognized no text at the profile's coordinates"] }
  else if confidence < minimum then
    { state with
      confidence, failure := some .calibrationDrift
      drift := state.drift ++ ["title region confidence " ++ toString confidence ++
        " is below the profile minimum " ++ toString minimum] }
  else { state with confidence }

def observeLayout : SelfTest Unit := do
  skill.allow .windowRead
  let frame ← probe .windowFrame
  Script.modify fun state => { state with digest := frame.digest }
  if !frame.isPlausibleMainWindow then
    Script.modify fun state => { state with
      drift := state.drift ++ ["the located window is smaller than a signed-in chat window"] }
    Script.throw ⟨.windowNotFound, ""⟩
  else
    Script.modify fun state => { state with located := true }
    let title ← skill.read .title frame
    Script.modify (skill.assessTitle title)
    let _ ← skill.read .compose frame

def noteFailure (failure : SendFailure) : SelfTest Unit :=
  Script.modify fun state => { state with
    failure := some failure.code
    drift := if failure.detail = "" then state.drift else state.drift ++ [failure.detail] }

/-- The self-test reads the screen and makes no input. -/
def runCalibrationSelfTest : SelfTest CalibrationSelfTestReport := do
  skill.observeLayout.recover noteFailure
  let state ← Script.get
  let observedAtUnixNanoseconds ← Script.call SkillCall.clock
  pure
    { formatVersion := sendContractVersion
      calibrationProfileId := skill.profile.profileId
      passed := state.failure.isNone
      searchBoxFocused := state.located
      titleConfidencePartsPerMillion := state.confidence
      windowFrameDigest := state.digest
      driftReport := state.drift
      failure := state.failure
      observedAtUnixNanoseconds }

end MechanicalSendSkill

/-- What the probes of the two grants and of the host answer. -/
structure EnvironmentProbe where
  accessibilityGranted : Bool
  screenRecordingGranted : Bool
  macosBuild : String
  macosMajor : ℕ

structure HelperCapabilityStatus where
  formatVersion : ℕ
  helperVersion : String
  engineVersion : String
  accessibilityGranted : Bool
  screenRecordingGranted : Bool
  wechatRunning : Bool
  wechatLoggedIn : Bool
  wechatBundleIdentifier : String
  wechatMarketingVersion : String
  wechatBuild : String
  macosBuild : String
  macosMajor : ℕ
  mainWindowFound : Bool
  activeCalibrationProfileId : String
  engineHealthy : Bool
  boundedManifestScope : List String
  observedAtUnixNanoseconds : ℕ

def BoundedCapabilityManifest.scopeDescription (manifest : BoundedCapabilityManifest) :
    List String :=
  let sorted := fun names : List String => names.mergeSort fun left right => decide (left ≤ right)
  (sorted manifest.allowedBundleIdentifiers).map fun bundle =>
    bundle ++ ":" ++ "+".intercalate (sorted (manifest.allowedTools.map SendTool.rawValue))

/-- What the machine shows while one request is served; perception gives no confidence
above a million. -/
structure Circumstances where
  now : ℕ
  target : Option WeChatTarget
  environment : Environment SkillAnswer
  perceives : MechanicalSendSkill.Perceives environment

/-- A request; a payload that does not decode is `none`. -/
inductive HelperRequest where
  | capabilityStatus (probes : EnvironmentProbe)
  | runCalibrationSelfTest (signed : Option SignedCalibrationProfile)
  | executeSend (capability : Option ActionCapabilityEnvelope)

inductive HelperReply where
  | status (status : HelperCapabilityStatus)
  | selfTest (report : CalibrationSelfTestReport)
  | outcome (report : HelperReport)
  | refused (code : SendFailureCode) (denial : Option SignedArtifactDenial)

/-- The send client fails on a refusal, and the dispatcher on whatever fails. -/
def HelperReply.dispatched : HelperReply → Except SendFailureCode HelperSendOutcome
  | .outcome report => .ok report.outcome
  | _ => .error .engineUnavailable

/-- A send that was served: what was active, what was called and what was answered. -/
structure ServedSend where
  capability : ActionCapabilityEnvelope
  active : Option CalibrationProfileBody
  environment : Environment SkillAnswer
  history : List (ScriptEvent SkillAnswer)
  reply : HelperReply

structure HelperState where
  activeProfile : Option CalibrationProfileBody
  served : List ServedSend

def HelperState.initial : HelperState := ⟨none, []⟩

structure HelperService where
  swift : SwiftText
  checks : ArtifactChecks
  targetBundleIdentifier : String
  manifest : BoundedCapabilityManifest
  pacing : SendPacing

namespace HelperService

def helperVersion : String := "1.0.0"
def engineVersion : String := "1.0.0"

theorem helperVersion_ne : helperVersion ≠ "" := by decide

theorem engineVersion_ne : engineVersion ≠ "" := by decide

variable (service : HelperService)

def skill (profile : CalibrationProfileBody) : MechanicalSendSkill where
  swift := service.swift
  profile
  manifest := service.manifest
  targetBundleIdentifier := service.targetBundleIdentifier
  pacing := service.pacing
  helperVersion := helperVersion
  engineVersion := engineVersion

def currentStatus (state : HelperState) (circumstances : Circumstances)
    (probes : EnvironmentProbe) : HelperCapabilityStatus where
  formatVersion := sendContractVersion
  helperVersion := helperVersion
  engineVersion := engineVersion
  accessibilityGranted := probes.accessibilityGranted
  screenRecordingGranted := probes.screenRecordingGranted
  wechatRunning := circumstances.target.isSome
  wechatLoggedIn := (circumstances.target.map WeChatTarget.signedIn).getD false
  wechatBundleIdentifier := service.targetBundleIdentifier
  wechatMarketingVersion := (circumstances.target.map WeChatTarget.marketingVersion).getD ""
  wechatBuild := (circumstances.target.map WeChatTarget.buildIdentifier).getD ""
  macosBuild := probes.macosBuild
  macosMajor := probes.macosMajor
  mainWindowFound := (circumstances.target.bind WeChatTarget.frame).isSome
  activeCalibrationProfileId :=
    (state.activeProfile.map CalibrationProfileBody.profileId).getD ""
  engineHealthy := true
  boundedManifestScope := service.manifest.scopeDescription
  observedAtUnixNanoseconds := circumstances.now

/-- A self-test that could not look at the client. -/
def failedSelfTest (profileId drift : String) (failure : SendFailureCode) (now : ℕ) :
    CalibrationSelfTestReport where
  formatVersion := sendContractVersion
  calibrationProfileId := profileId
  passed := false
  searchBoxFocused := false
  titleConfidencePartsPerMillion := 0
  windowFrameDigest := .ofList (List.replicate 64 '0')
  driftReport := [drift]
  failure := some failure
  observedAtUnixNanoseconds := now

def selfTestReply (circumstances : Circumstances) (body : CalibrationProfileBody) : HelperReply :=
  match circumstances.target with
  | none => .selfTest (failedSelfTest body.profileId "WeChat is not running" .wechatNotRunning
      circumstances.now)
  | some target =>
    if !service.swift.equivalent body.wechatBuild target.buildIdentifier then
      .selfTest (failedSelfTest body.profileId ("profile targets " ++ body.wechatBuild ++
        " but the client is " ++ target.buildIdentifier) .unknownBuild circumstances.now)
    else
      match ((service.skill body).runCalibrationSelfTest.run circumstances.environment
          ⟨.initial, []⟩).1 with
      | .ok report => .selfTest report
      | .error failure => .refused failure.code none

/-- Only a self-test that passed makes its profile the active one. -/
def runCalibrationSelfTest (state : HelperState) (circumstances : Circumstances) :
    Option SignedCalibrationProfile → HelperReply × HelperState
  | none => (.refused .engineUnavailable none, state)
  | some signed =>
    match service.checks.verifyProfile signed (circumstances.now / 1000000000) with
    | .error denial => (.refused .profileInvalid (some denial), state)
    | .ok verified =>
      let body := verified.profile.body
      match service.selfTestReply circumstances body with
      | .selfTest report =>
        (.selfTest report, if report.passed then { state with activeProfile := some body } else state)
      | reply => (reply, state)

/-- What is checked before the skill runs. -/
def admits (state : HelperState) (circumstances : Circumstances)
    (capability : ActionCapabilityEnvelope) : Except SendFailure CalibrationProfileBody := do
  capability.helperValidate service.swift circumstances.now
  let drifted : SendFailure :=
    ⟨.calibrationDrift, "no verified calibration profile is active for this capability"⟩
  match state.activeProfile with
  | none => .error drifted
  | some profile =>
    if !service.swift.equivalent profile.profileId capability.calibrationProfileId then
      .error drifted
    else
      match circumstances.target with
      | none => .error ⟨.wechatNotRunning, "WeChat is not running"⟩
      | some target =>
        if !target.signedIn then .error ⟨.notLoggedIn, "WeChat is not signed in"⟩
        else if !service.swift.equivalent profile.wechatBuild target.buildIdentifier then
          .error ⟨.unknownBuild, "the client build changed since calibration"⟩
        else .ok profile

/-- The whole skill under one capability, with what it called. -/
def runSkill (circumstances : Circumstances) (capability : ActionCapabilityEnvelope)
    (profile : CalibrationProfileBody) : HelperReply × List (ScriptEvent SkillAnswer) :=
  match ((service.skill profile).execute capability).run circumstances.environment
      ⟨.initial, []⟩ with
  | (.ok report, after) => (.outcome report, after.history)
  | (.error failure, after) => (.refused failure.code none, after.history)

def executeSend (state : HelperState) (circumstances : Circumstances)
    (capability : ActionCapabilityEnvelope) : HelperReply × List (ScriptEvent SkillAnswer) :=
  match service.admits state circumstances capability with
  | .error failure => (.refused failure.code none, [])
  | .ok profile => service.runSkill circumstances capability profile

/-- One request served, with the answer to it. -/
def serve (state : HelperState) (event : HelperRequest × Circumstances) :
    HelperReply × HelperState :=
  match event.1 with
  | .capabilityStatus probes => (.status (service.currentStatus state event.2 probes), state)
  | .runCalibrationSelfTest signed => service.runCalibrationSelfTest state event.2 signed
  | .executeSend none => (.refused .engineUnavailable none, state)
  | .executeSend (some capability) =>
    let answered := service.executeSend state event.2 capability
    (answered.1, { state with
      served := state.served ++
        [⟨capability, state.activeProfile, event.2.environment, answered.2, answered.1⟩] })

def step (state : HelperState) (event : HelperRequest × Circumstances) : HelperState :=
  (service.serve state event).2

end HelperService

/-! What the helper should keep to -/

/-- The control plane takes the capability at some time. -/
def ActionCapabilityEnvelope.Taken (capability : ActionCapabilityEnvelope) : Prop :=
  ∃ now, capability.validate now = .ok ()

namespace ServedSend

open MechanicalSendSkill (Pressed returns)

/-- Every press was made under the profile the capability is bound to, within its validity. -/
def Bound (sent : ServedSend) : Prop :=
  ∀ later event earlier, sent.history = later ++ event :: earlier → event.1.isReturn = true →
    ∃ profile, sent.active = some profile ∧
      profile.canonicalSha256 = some sent.capability.calibrationProfileSha256 ∧
      profile.Current (sent.environment earlier .clock)

/-- The send was refused and nothing was typed or clicked. -/
structure RefusedUntouched (sent : ServedSend) : Prop where
  refused : ∀ report, sent.reply = .outcome report → report.outcome.failure.isSome = true
  untouched : ∀ event ∈ sent.history, event.1.isInput = false

/-- The control plane takes the outcome, and it closes a refusal before any input. -/
structure Answered (sent : ServedSend) : Prop where
  validates : ∀ report, sent.reply = .outcome report →
    report.outcome.validateAgainst sent.capability = .ok ()
  closes : sent.RefusedUntouched →
    (settleDispatch sent.capability sent.reply.dispatched).outcome = .completed .observedFailed

/-- How often Return was pressed for one capability id. -/
def presses (served : List ServedSend) (capabilityId : String) : ℕ :=
  ((served.filter fun sent => sent.capability.capabilityId = capabilityId).map
    fun sent => returns sent.history).sum

theorem presses_append {served : List ServedSend} {sent : ServedSend} {capabilityId : String} :
    presses (served ++ [sent]) capabilityId = presses served capabilityId +
      if sent.capability.capabilityId = capabilityId then returns sent.history else 0 := by
  rw [presses, List.filter_append, List.map_append, List.sum_append, presses]
  by_cases h : sent.capability.capabilityId = capabilityId <;> simp [h]

theorem presses_unpressed {served : List ServedSend} {capabilityId : String}
    (h : ∀ sent ∈ served, sent.capability.capabilityId = capabilityId → ¬ Pressed sent.history) :
    presses served capabilityId = 0 := by
  rw [presses, List.sum_eq_zero]
  intro count hcount
  rcases List.mem_map.mp hcount with ⟨sent, hsent, rfl⟩
  rcases List.mem_filter.mp hsent with ⟨hmem, hid⟩
  exact MechanicalSendSkill.returns_unpressed (h sent hmem (of_decide_eq_true hid))

end ServedSend

/-- The helper acted only under the bound profile, once for each capability, and its answers
are taken. -/
structure Disciplined (state : HelperState) : Prop where
  bound : ∀ sent ∈ state.served, sent.Bound
  once : ∀ capabilityId, ServedSend.presses state.served capabilityId ≤ 1
  answered : ∀ sent ∈ state.served, sent.capability.Taken → sent.Answered

namespace HelperService

open MechanicalSendSkill

variable {service : HelperService} {state : HelperState} {circumstances : Circumstances}
  {capability : ActionCapabilityEnvelope} {profile : CalibrationProfileBody}

/-- What lets a send through to the skill. -/
structure Admitted (service : HelperService) (state : HelperState) (circumstances : Circumstances)
    (capability : ActionCapabilityEnvelope) (profile : CalibrationProfileBody) : Prop where
  validated : capability.helperValidate service.swift circumstances.now = .ok ()
  active : state.activeProfile = some profile
  selected : service.swift.equivalent profile.profileId capability.calibrationProfileId = true
  located : ∃ target, circumstances.target = some target ∧ target.signedIn = true ∧
    service.swift.equivalent profile.wechatBuild target.buildIdentifier = true

theorem admits_ok : service.admits state circumstances capability = .ok profile ↔
    service.Admitted state circumstances capability profile := by
  rw [admits, bind_ok]
  constructor
  · rintro ⟨⟨⟩, hvalidated, h⟩
    cases hactive : state.activeProfile with
    | none => simp [hactive] at h
    | some active =>
      cases htarget : circumstances.target with
      | none =>
        simp only [hactive, htarget] at h
        split_ifs at h
      | some target =>
        simp only [hactive, htarget] at h
        split_ifs at h with hselected hsigned hbuild
        cases h
        simp only [Bool.not_eq_true', Bool.not_eq_false] at hselected hsigned hbuild
        exact ⟨hvalidated, hactive, hselected, target, htarget, hsigned, hbuild⟩
  · rintro ⟨hvalidated, hactive, hselected, target, htarget, hsigned, hbuild⟩
    exact ⟨(), hvalidated, by simp [hactive, htarget, hselected, hsigned, hbuild]⟩

/-- What a send that is let through has to meet. -/
structure Suits (service : HelperService) (state : HelperState) (circumstances : Circumstances)
    (capability : ActionCapabilityEnvelope) (profile : CalibrationProfileBody) : Prop where
  named : capability.Taken → profile.profileId = capability.calibrationProfileId
  panelless : ¬ StagesThroughPanel (service.skill profile) capability
  bound : capability.permitSend = true →
    profile.canonicalSha256 = some capability.calibrationProfileSha256
  fresh : capability.permitSend = true → ∀ sent ∈ state.served,
    sent.capability.capabilityId = capability.capabilityId → ¬ Pressed sent.history
  current : ∀ history, Grown circumstances.environment [] history →
    (service.skill profile).MayReturn capability history →
      profile.Current (circumstances.environment history .clock)

/-- A send that may press Return is let through, and suits the profile it is let through by. -/
def Orderly (service : HelperService) (state : HelperState)
    (event : HelperRequest × Circumstances) : Prop :=
  match event.1 with
  | .executeSend (some capability) =>
    (capability.permitSend = true → capability.Taken →
      ∃ profile, service.Admitted state event.2 capability profile) ∧
    ∀ profile, service.Admitted state event.2 capability profile →
      service.Suits state event.2 capability profile
  | _ => True

/-- What a run of the skill without a file panel comes to. -/
structure Ran (service : HelperService) (circumstances : Circumstances)
    (capability : ActionCapabilityEnvelope) (profile : CalibrationProfileBody)
    (report : HelperReport) (history : SkillHistory) : Prop where
  grown : Grown circumstances.environment [] history
  safe : Safe ((service.skill profile).Guard capability) history
  once : returns history ≤ 1
  pressed : report.outcome.attempted = true → Pressed history
  validates : profile.profileId = capability.calibrationProfileId →
    report.outcome.validateAgainst capability = .ok ()

theorem runSkill_of_run {report : HelperReport} {after : SkillWorld}
    (h : ((service.skill profile).execute capability).run circumstances.environment
      ⟨.initial, []⟩ = (.ok report, after)) :
    service.runSkill circumstances capability profile = (.outcome report, after.history) := by
  unfold runSkill
  generalize ((service.skill profile).execute capability).run circumstances.environment
    ⟨.initial, []⟩ = result at h ⊢
  rw [h]

theorem execute_validates (hpanel : ¬ StagesThroughPanel (service.skill profile) capability)
    (hname : profile.profileId = capability.calibrationProfileId) :
    wp circumstances.environment ((service.skill profile).execute capability)
      (fun report _ => report.outcome.validateAgainst capability = .ok ()) (fun _ _ => False)
      ⟨.initial, []⟩ := by
  have hhelper : (service.skill profile).helperVersion ≠ "" := helperVersion_ne
  have hengine : (service.skill profile).engineVersion ≠ "" := engineVersion_ne
  apply wp_mono (execute_answers hpanel circumstances.perceives hname hhelper hengine)
  · rintro _ _ - ⟨-, -, hvalid⟩
    exact hvalid
  · exact fun _ _ _ hfalse => hfalse

theorem execute_ran (hpanel : ¬ StagesThroughPanel (service.skill profile) capability) :
    wp circumstances.environment ((service.skill profile).execute capability)
      (fun report after => Ran service circumstances capability profile report after.history)
      (fun _ _ => False) ⟨.initial, []⟩ := by
  have hvalidates : wp circumstances.environment ((service.skill profile).execute capability)
      (fun report _ => profile.profileId = capability.calibrationProfileId →
        report.outcome.validateAgainst capability = .ok ()) (fun _ _ => True) ⟨.initial, []⟩ := by
    by_cases hname : profile.profileId = capability.calibrationProfileId
    · exact wp_mono (execute_validates hpanel hname) (fun _ _ _ hvalid _ => hvalid)
        fun _ _ _ _ => trivial
    · exact wp_mono wp_true (fun _ _ _ _ h => absurd h hname) fun _ _ _ _ => trivial
  apply wp_mono (wp_and (wp_and (execute_safe hpanel .initial) (execute_returns hpanel))
    (wp_and (execute_counted hpanel) hvalidates))
  · rintro report after hgrown ⟨⟨hsafe, honce⟩, hcounted, hvalid⟩
    exact ⟨hgrown, hsafe, honce, fun hattempted => (hcounted.mp hattempted).1, hvalid⟩
  · rintro _ _ - ⟨⟨-, hfalse⟩, -⟩
    exact hfalse

theorem runSkill_ran (hpanel : ¬ StagesThroughPanel (service.skill profile) capability) :
    ∃ report history, service.runSkill circumstances capability profile =
      (.outcome report, history) ∧ Ran service circumstances capability profile report history := by
  rcases run_of_wp (execute_ran hpanel) with ⟨report, after, hrun, hafter⟩
  exact ⟨report, after.history, runSkill_of_run hrun, hafter⟩

/-- A press is made only where every gate was passed. -/
theorem Ran.mayReturn {report : HelperReport} {later earlier : SkillHistory}
    {event : ScriptEvent SkillAnswer}
    (h : Ran service circumstances capability profile report (later ++ event :: earlier))
    (hreturn : event.1.isReturn = true) :
    Grown circumstances.environment [] earlier ∧
      (service.skill profile).MayReturn capability earlier :=
  ⟨h.grown.before, (h.safe later event earlier rfl).returns hreturn⟩

theorem Ran.bound {report : HelperReport} {history : SkillHistory} {reply : HelperReply}
    (h : Ran service circumstances capability profile report history)
    (hactive : state.activeProfile = some profile)
    (hsuits : service.Suits state circumstances capability profile) :
    ServedSend.Bound
      ⟨capability, state.activeProfile, circumstances.environment, history, reply⟩ := by
  rintro later event earlier rfl hreturn
  rcases h.mayReturn hreturn with ⟨hgrown, hmay⟩
  exact ⟨profile, hactive, hsuits.bound hmay.permitted, hsuits.current earlier hgrown hmay⟩

theorem Ran.unpressed {report : HelperReport} {history : SkillHistory}
    (h : Ran service circumstances capability profile report history)
    (hpermit : capability.permitSend = false) : ¬ Pressed history := by
  rintro ⟨event, hevent, hreturn⟩
  rcases List.append_of_mem hevent with ⟨later, earlier, rfl⟩
  have hpermitted := (h.mayReturn hreturn).2.permitted
  rw [hpermit] at hpermitted
  cases hpermitted

theorem Ran.answered {report : HelperReport} {history : SkillHistory}
    {active : Option CalibrationProfileBody}
    (h : Ran service circumstances capability profile report history)
    (hname : profile.profileId = capability.calibrationProfileId) :
    ServedSend.Answered
      ⟨capability, active, circumstances.environment, history, .outcome report⟩ := by
  have hvalid := h.validates hname
  constructor
  · rintro _ ⟨⟩
    exact hvalid
  · intro hrefused
    have hattempted : report.outcome.attempted = false := by
      rw [← Bool.not_eq_true]
      intro hattempted
      rcases h.pressed hattempted with ⟨event, hevent, hreturn⟩
      rw [SkillCall.isReturn_of_quiet (hrefused.untouched event hevent)] at hreturn
      cases hreturn
    have hfailure : report.outcome.failure.isSome = true := hrefused.refused report rfl
    simp [HelperReply.dispatched, settleDispatch, hvalid, hattempted, hfailure]

/-- A refusal closes a send that may not press Return. -/
theorem refused_answered {code : SendFailureCode} {denial : Option SignedArtifactDenial}
    {active : Option CalibrationProfileBody} (hpermit : capability.permitSend = false) :
    ServedSend.Answered
      ⟨capability, active, circumstances.environment, [], .refused code denial⟩ := by
  constructor
  · rintro _ ⟨⟩
  · intro _
    simp [HelperReply.dispatched, settleDispatch, unanswered, hpermit]

/-- What one more send adds to those served. -/
theorem disciplined_append {sent : ServedSend} {active : Option CalibrationProfileBody}
    (h : Disciplined state) (hbound : sent.Bound)
    (honce : ServedSend.presses state.served sent.capability.capabilityId +
      returns sent.history ≤ 1)
    (hanswered : sent.capability.Taken → sent.Answered) :
    Disciplined ⟨active, state.served ++ [sent]⟩ := by
  constructor
  · intro other hother
    rcases List.mem_append.mp hother with hmem | hmem
    · exact h.bound other hmem
    · rw [List.mem_singleton.mp hmem]
      exact hbound
  · intro capabilityId
    rw [ServedSend.presses_append]
    split_ifs with hid
    · rw [← hid]
      exact honce
    · exact h.once capabilityId
  · intro other hother
    rcases List.mem_append.mp hother with hmem | hmem
    · exact h.answered other hmem
    · rw [List.mem_singleton.mp hmem]
      exact hanswered

theorem runCalibrationSelfTest_served {signed : Option SignedCalibrationProfile} :
    (service.runCalibrationSelfTest state circumstances signed).2.served = state.served := by
  unfold runCalibrationSelfTest
  split
  · rfl
  · split
    · rfl
    · dsimp only
      split
      · split_ifs <;> rfl
      · rfl

theorem step_executeSend : service.step state (.executeSend (some capability), circumstances) =
    ⟨state.activeProfile, state.served ++ [⟨capability, state.activeProfile,
      circumstances.environment, (service.executeSend state circumstances capability).2,
      (service.executeSend state circumstances capability).1⟩]⟩ := rfl

theorem executeSend_refused {failure : SendFailure}
    (h : service.admits state circumstances capability = .error failure) :
    service.executeSend state circumstances capability = (.refused failure.code none, []) := by
  unfold executeSend
  generalize service.admits state circumstances capability = admitted at h ⊢
  rw [h]

theorem executeSend_admitted (h : service.admits state circumstances capability = .ok profile) :
    service.executeSend state circumstances capability =
      service.runSkill circumstances capability profile := by
  unfold executeSend
  generalize service.admits state circumstances capability = admitted at h ⊢
  rw [h]

/-- A send that is not let through is refused before anything is called. -/
theorem refused_disciplined {failure : SendFailure} (h : Disciplined state)
    (horderly : service.Orderly state (.executeSend (some capability), circumstances))
    (hrefused : service.admits state circumstances capability = .error failure) :
    Disciplined (service.step state (.executeSend (some capability), circumstances)) := by
  rw [step_executeSend, executeSend_refused hrefused]
  apply disciplined_append h
  · intro later event earlier hsplit _
    exact absurd hsplit.symm (by simp)
  · exact h.once _
  · intro htaken
    apply refused_answered
    rw [← Bool.not_eq_true]
    intro hpermit
    rcases horderly.1 hpermit htaken with ⟨profile, hadmitted⟩
    rw [admits_ok.mpr hadmitted] at hrefused
    cases hrefused

theorem admitted_disciplined (h : Disciplined state)
    (hadmitted : service.Admitted state circumstances capability profile)
    (hsuits : service.Suits state circumstances capability profile) :
    Disciplined (service.step state (.executeSend (some capability), circumstances)) := by
  rcases @runSkill_ran service circumstances capability profile hsuits.panelless with
    ⟨report, history, hrun, hran⟩
  rw [step_executeSend, executeSend_admitted (admits_ok.mpr hadmitted), hrun]
  apply disciplined_append h
  · exact hran.bound hadmitted.active hsuits
  · cases hpermit : capability.permitSend with
    | true =>
      rw [ServedSend.presses_unpressed (hsuits.fresh hpermit), Nat.zero_add]
      exact hran.once
    | false =>
      rw [returns_unpressed (hran.unpressed hpermit), Nat.add_zero]
      exact h.once _
  · exact fun htaken => hran.answered (hsuits.named htaken)

theorem executeSend_disciplined (h : Disciplined state)
    (horderly : service.Orderly state (.executeSend (some capability), circumstances)) :
    Disciplined (service.step state (.executeSend (some capability), circumstances)) := by
  cases hadmit : service.admits state circumstances capability with
  | error failure => exact refused_disciplined h horderly hadmit
  | ok profile =>
    have hadmitted := admits_ok.mp hadmit
    exact admitted_disciplined h hadmitted (horderly.2 profile hadmitted)

/-- One request that meets the condition keeps the helper disciplined. -/
theorem step_disciplined (h : Disciplined state) (event : HelperRequest × Circumstances)
    (horderly : service.Orderly state event) : Disciplined (service.step state event) := by
  rcases event with ⟨request, circumstances⟩
  cases request with
  | capabilityStatus probes => exact h
  | runCalibrationSelfTest signed =>
    have hserved : (service.step state (.runCalibrationSelfTest signed, circumstances)).served =
        state.served := runCalibrationSelfTest_served
    exact ⟨hserved ▸ h.bound, hserved ▸ h.once, hserved ▸ h.answered⟩
  | executeSend payload =>
    cases payload with
    | none => exact h
    | some capability => exact executeSend_disciplined h horderly

/-- What the helpful client shows is read with the confidence the profile asks for. -/
theorem helpful_perceives {skill : MechanicalSendSkill} {now : ℕ} {echo : String}
    (h : skill.profile.selftest.minimumTitleConfidencePartsPerMillion ≤ partsPerMillion) :
    Perceives (skill.helpful capability now echo) := by
  rintro history region frame text htext
  have hshown : skill.shown capability echo region = text := Except.ok.inj htext
  rw [← hshown]
  cases region with
  | title => exact h
  | _ => exact Nat.zero_le _

section Text

variable {skill : MechanicalSendSkill} {now : ℕ} {echo : String} {world : SkillWorld}
  {frame : WindowFrame}
  (hauthorized : ∀ tool, skill.manifest.authorize tool skill.targetBundleIdentifier = .ok ())
  (hattachment : capability.attachment = none)
include hauthorized hattachment

theorem goes_compose :
    Goes skill capability now echo (skill.compose capability frame) (fun _ => True) world := by
  apply goes_bind goes_enter
  intro _ _ _
  apply goes_bind (goes_recognize hauthorized)
  rintro _ _ rfl
  apply goes_bind (goes_check (beq_iff_eq.mpr shown_empty))
  intro _ _ _
  rw [hattachment]
  exact goes_focusAndPaste hauthorized

/-- A body of white space reads back as the empty compose box. -/
theorem goes_contentVerify (hblank : skill.swift.normalized capability.body = "") :
    Goes skill capability now echo (skill.contentVerify capability frame) (fun _ => True)
      world := by
  have hmatches : skill.swift.matches (skill.shown capability echo .compose).text
      capability.body = true := by
    rw [SwiftText.matches, shown_empty, hblank]
    exact skill.swift.equivalent_refl _
  apply goes_bind goes_enter
  intro _ _ _
  rw [hattachment]
  apply goes_bind (goes_recognize hauthorized)
  rintro _ _ rfl
  apply goes_bind goes_record
  intro _ _ _
  rw [hmatches]
  trivial

/-- With the client that helps, a permitted text to the open conversation is sent. -/
theorem helpful_sends (hvalid : capability.helperValidate skill.swift now = .ok ())
    (hprofile :
      skill.swift.equivalent capability.calibrationProfileId skill.profile.profileId = true)
    (hopen : capability.addressingMode.typesBeforeRecipientGate = false)
    (hblank : skill.swift.normalized capability.body = "")
    (hpermit : capability.permitSend = true) :
    wp (skill.helpful capability now echo) (skill.execute capability)
      (fun _ after => Pressed after.history) (fun _ after => Pressed after.history)
      ⟨.initial, []⟩ := by
  have hecho : capability.addressingMode.typesBeforeRecipientGate = true →
      skill.swift.echoes echo capability.searchKey = true := by
    intro htypes
    rw [hopen] at htypes
    cases htypes
  have hprepare : ∀ after, Goes skill capability now echo (skill.prepare capability now)
      (fun _ => True) after := by
    intro after
    apply goes_bind (goes_precheck hauthorized hvalid hprofile)
    intro _ _ _
    apply goes_bind (goes_calibrate hauthorized)
    intro frame _ _
    apply goes_bind (goes_address hauthorized hecho)
    intro _ _ _
    apply goes_bind (goes_recipientVerify hauthorized)
    intro _ _ _
    apply goes_bind (goes_compose hauthorized hattachment)
    intro _ _ _
    apply goes_bind (goes_contentVerify hauthorized hattachment hblank)
    intro _ _ _
    trivial
  have hsend : ∀ (frame : WindowFrame) (prepared : SkillWorld),
      wp (skill.helpful capability now echo) (skill.send capability now frame)
        (fun _ after => Pressed after.history) (fun _ after => Pressed after.history)
        prepared := by
    intro frame prepared
    rw [send, wp_bind, enter, wp_modify, wp_bind]
    apply wp_mono (show Goes skill capability now echo (skill.yieldToHuman (some frame))
      (fun _ => True) _ from trivial)
    · intro _ yielded _ _
      rw [wp_bind]
      apply wp_mono (goes_authorize hauthorized)
      · intro _ authorized _ _
        rw [wp_bind]
        have hpressed : wp (skill.helpful capability now echo) (press .returnKey)
            (fun _ after => Pressed after.history) (fun _ _ => False) authorized :=
          ⟨_, List.mem_cons_self, rfl⟩
        apply wp_mono hpressed
        · intro _ pressed _ hpressed
          exact wp_reached Pressed.mono hpressed
        · exact fun _ _ _ hfalse => hfalse.elim
      · exact fun _ _ _ hfalse => hfalse.elim
    · exact fun _ _ _ hfalse => hfalse.elim
  rw [execute, wp_bind, wp_call, wp_recover, attempt, wp_bind]
  apply wp_mono (hprepare _)
  · intro frame prepared _ _
    rw [if_pos hpermit]
    apply wp_mono (hsend frame prepared)
    · exact fun _ _ _ h => h
    · exact fun _ failed _ h => wp_reached Pressed.mono h
  · exact fun _ _ _ hfalse => hfalse.elim

end Text

def sampleService : HelperService where
  swift := sampleSwift
  checks := ⟨String.length, fun _ _ => .ok .release⟩
  targetBundleIdentifier := "com.tencent.xinWeChat"
  manifest := .weChatOnly
  pacing := ⟨150, 80, 250, 700, 900⟩

/-- A blank text to the open conversation, issued as the sample profile expires. -/
def sampleBlankUnbound : ActionCapabilityEnvelope where
  formatVersion := 1
  capabilityId := sampleSha256
  actionId := sampleSha256
  draftId := sampleSha256
  approvalId := sampleSha256
  idempotencyKey := sampleSha256
  accountId := "account"
  conversationId := "conversation"
  capability := .textSend
  addressingMode := .currentConversation
  searchKey := ""
  expectedTitle := "Peer"
  body := " "
  bodySha256 := Sha256.hexDigest (utf8 " ")
  normalizedBodySha256 := sampleSwift.normalizedSha256 " "
  clientBuildProfileId := "client"
  calibrationProfileId := "profile"
  calibrationProfileSha256 := sampleSha256
  attachment := none
  rolloutStage := .selfSend
  permitSend := true
  issuedAtUnixNanoseconds := 4000000000000000000
  validUntilUnixNanoseconds := 4000000000000000010
  bindingSha256 := ""

def sampleBlank : ActionCapabilityEnvelope :=
  { sampleBlankUnbound with bindingSha256 := sampleBlankUnbound.computedBinding.getD "" }

theorem sampleBlank_binding : sampleBlank.computedBinding = some sampleBlank.bindingSha256 := by
  have hbytes : sampleBlankUnbound.bindingBytes.isSome = true := by
    have hliteral : ∀ text ∈ ["account", "conversation", "textSend", "currentConversation", "",
        "Peer", "client", "profile", "true", "false", "selfSend"], (0 : UInt8) ∉ utf8 text := by
      decide +kernel
    simp only [List.forall_mem_cons] at hliteral
    apply ActionCapabilityEnvelope.bindingBytes_isSome
    simp only [ActionCapabilityEnvelope.boundFields, sampleBlankUnbound, flagText,
      Connector.actionCapabilityName, SendAddressingMode.canonicalName, rolloutStageName,
      SwiftText.normalizedSha256, Option.isSome_none, Option.map_none, Option.getD_none,
      List.append_nil, List.cons_append, List.nil_append, List.forall_mem_cons, hliteral,
      zero_notMem_decimal, zero_notMem_of_isSha256 (isSha256_hexDigest _),
      zero_notMem_of_isSha256 isSha256_sample, not_false_eq_true, true_and]
    simp [hliteral]
  have hunbound : sampleBlank.computedBinding = sampleBlankUnbound.computedBinding :=
    sampleBlankUnbound.computedBinding_withBinding _
  exact hunbound.trans (ActionCapabilityEnvelope.computedBinding_getD hbytes)

theorem sampleBlank_validates :
    sampleBlank.helperValidate sampleSwift 4000000000000000005 = .ok () := by
  have hsample := isSha256Hex_sample
  have hbody : Sha256.hexDigest (utf8 sampleBlank.body) = sampleBlank.bodySha256 := by
    simp only [sampleBlank, sampleBlankUnbound]
  have hnormalized : sampleSwift.normalizedSha256 sampleBlank.body = sampleBlank.normalizedBodySha256 := by
    simp only [sampleBlank, sampleBlankUnbound]
  have hbodyHex : isSha256Hex sampleBlank.bodySha256 = true := by
    simp only [sampleBlank, sampleBlankUnbound, isSha256Hex_hexDigest]
  have hnormalizedHex : isSha256Hex sampleBlank.normalizedBodySha256 = true := by
    simp only [sampleBlank, sampleBlankUnbound, SwiftText.normalizedSha256, isSha256Hex_hexDigest]
  have hbinding := ActionCapabilityEnvelope.any_equivalent_of_computedBinding sampleSwift
    sampleBlank_binding
  have hvalid : sampleBlank.structurallyValid sampleSwift = true := by
    simp only [ActionCapabilityEnvelope.structurallyValid, List.all_cons, List.all_nil, hbinding,
      hbody, hnormalized, hbodyHex, hnormalizedHex, sampleSwift.equivalent_refl]
    simp only [sampleBlank, sampleBlankUnbound, hsample]
    decide
  simp only [ActionCapabilityEnvelope.helperValidate, hvalid]
  decide

theorem sampleBlank_taken : sampleBlank.Taken := by
  have hsample := isSha256_sample
  have hbody : Sha256.hexDigest (utf8 sampleBlank.body) = sampleBlank.bodySha256 := by
    simp only [sampleBlank, sampleBlankUnbound]
  have hnormalized : normalizedSendTextSha256 sampleBlank.body =
      sampleBlank.normalizedBodySha256 := by
    have hblank : normalizedSendText " " = sampleSwift.normalized " " := by decide
    simp only [sampleBlank, sampleBlankUnbound, normalizedSendTextSha256, hblank,
      SwiftText.normalizedSha256]
  have hbodyHex : isSha256 sampleBlank.bodySha256 = true := by
    simp only [sampleBlank, sampleBlankUnbound, isSha256_hexDigest]
  have hnormalizedHex : isSha256 sampleBlank.normalizedBodySha256 = true := by
    simp only [sampleBlank, sampleBlankUnbound, SwiftText.normalizedSha256, isSha256_hexDigest]
  have hvalid : sampleBlank.structureValid = true := by
    simp only [ActionCapabilityEnvelope.structureValid, sampleBlank_binding, hbody, hnormalized,
      hbodyHex, hnormalizedHex, beq_self_eq_true]
    simp only [sampleBlank, sampleBlankUnbound, hsample]
    decide
  refine ⟨4000000000000000005, ?_⟩
  simp only [ActionCapabilityEnvelope.validate, hvalid]
  decide

def sampleCircumstances (now : ℕ) : Circumstances where
  now
  target := some ⟨"4.1", "13", some ⟨0, 0, 700, 500⟩⟩
  environment := (sampleService.skill samplePanelProfile).helpful sampleBlank now ""
  perceives := helpful_perceives (by decide)

/-- The capability is refused, the profile tested while it is valid and the capability replayed. -/
def sampleReplay : List (HelperRequest × Circumstances) :=
  [(.executeSend (some sampleBlank), sampleCircumstances 4000000000000000005),
   (.runCalibrationSelfTest (some ⟨samplePanelProfile, "signature"⟩), sampleCircumstances 5),
   (.executeSend (some sampleBlank), sampleCircumstances 4000000000000000005),
   (.executeSend (some sampleBlank), sampleCircumstances 4000000000000000005)]

theorem sampleSelfTest_passes :
    (match ((sampleService.skill samplePanelProfile).runCalibrationSelfTest.run
        (sampleCircumstances 5).environment ⟨.initial, []⟩).1 with
      | .ok report => report.passed
      | .error _ => false) = true := by
  decide

theorem runCalibrationSelfTest_passed {signed : SignedCalibrationProfile}
    {verified : VerifiedCalibrationProfile} {report : CalibrationSelfTestReport}
    (hverified : service.checks.verifyProfile signed (circumstances.now / 1000000000) =
      .ok verified)
    (hreport : service.selfTestReply circumstances verified.profile.body = .selfTest report)
    (hpassed : report.passed = true) :
    (service.runCalibrationSelfTest state circumstances (some signed)).2 =
      ⟨some verified.profile.body, state.served⟩ := by
  simp only [runCalibrationSelfTest, hverified, hreport, if_pos hpassed]

theorem samplePanelProfile_verifies : ∃ verified,
    sampleService.checks.verifyProfile ⟨samplePanelProfile, "signature"⟩ (5 / 1000000000) =
      .ok verified ∧ verified.profile.body = samplePanelProfile := by
  have hvalid : samplePanelProfile.isStructurallyValid sampleService.checks = true := by
    decide
  have hbytes : (calibrationProfileSigningBytes samplePanelProfile).isSome = true := by
    decide
  rcases Option.isSome_iff_exists.mp hbytes with ⟨bytes, hbytes⟩
  refine ⟨⟨⟨samplePanelProfile, "signature"⟩, .release, Sha256.hexDigest bytes⟩, ?_, rfl⟩
  simp only [ArtifactChecks.verifyProfile, hvalid, hbytes]
  rfl

theorem samplePanelProfile_tested : ∃ report,
    sampleService.selfTestReply (sampleCircumstances 5) samplePanelProfile = .selfTest report ∧
      report.passed = true := by
  have hpasses := sampleSelfTest_passes
  unfold selfTestReply
  generalize ((sampleService.skill samplePanelProfile).runCalibrationSelfTest.run
    (sampleCircumstances 5).environment ⟨.initial, []⟩).1 = result at hpasses ⊢
  have hbuild : sampleService.swift.equivalent samplePanelProfile.wechatBuild
      (WeChatTarget.buildIdentifier ⟨"4.1", "13", some ⟨0, 0, 700, 500⟩⟩) = true := by
    decide
  cases result with
  | ok report => exact ⟨report, by simp only [sampleCircumstances, hbuild]; rfl, hpasses⟩
  | error failure => cases hpasses

theorem runSkill_history : (service.runSkill circumstances capability profile).2 =
    (((service.skill profile).execute capability).run circumstances.environment
      ⟨.initial, []⟩).2.history := by
  unfold runSkill
  generalize ((service.skill profile).execute capability).run circumstances.environment
    ⟨.initial, []⟩ = result
  rcases result with ⟨_ | _, _⟩ <;> rfl

/-- Once the profile is active every replay of the capability presses Return. -/
theorem sampleBlank_pressed (h : state.activeProfile = some samplePanelProfile) :
    ∃ reply history, Pressed history ∧
      sampleService.step state (.executeSend (some sampleBlank),
        sampleCircumstances 4000000000000000005) =
        ⟨some samplePanelProfile, state.served ++ [⟨sampleBlank, some samplePanelProfile,
          (sampleCircumstances 4000000000000000005).environment, history, reply⟩]⟩ := by
  have hadmitted : sampleService.Admitted state (sampleCircumstances 4000000000000000005)
      sampleBlank samplePanelProfile := by
    refine ⟨sampleBlank_validates, h, rfl, _, rfl, ?_, ?_⟩
    · decide
    · decide
  have hauthorized : ∀ tool, (sampleService.skill samplePanelProfile).manifest.authorize tool
      (sampleService.skill samplePanelProfile).targetBundleIdentifier = .ok () :=
    sampleImage_panel.authorized
  have hblank : sampleSwift.normalized sampleBlank.body = "" := by
    decide
  have hsends := @helpful_sends sampleBlank (sampleService.skill samplePanelProfile)
    4000000000000000005 "" hauthorized rfl sampleBlank_validates rfl rfl hblank rfl
  have hpressed : Pressed (sampleService.executeSend state
      (sampleCircumstances 4000000000000000005) sampleBlank).2 := by
    rw [executeSend_admitted (admits_ok.mpr hadmitted), runSkill_history]
    exact history_of_wp hsends
  exact ⟨_, _, hpressed, by rw [step_executeSend, h]⟩

/-- The first send finds no active profile and is refused. -/
theorem sampleBlank_refused : ∃ code, sampleService.step .initial
    (.executeSend (some sampleBlank), sampleCircumstances 4000000000000000005) =
      ⟨none, [⟨sampleBlank, none, (sampleCircumstances 4000000000000000005).environment, [],
        .refused code none⟩]⟩ := by
  cases hadmit : sampleService.admits .initial (sampleCircumstances 4000000000000000005)
      sampleBlank with
  | error failure =>
    refine ⟨failure.code, ?_⟩
    rw [step_executeSend, executeSend_refused hadmit]
    rfl
  | ok profile =>
    have hactive : none = some profile := (admits_ok.mp hadmit).active
    cases hactive

/-- What the replay leaves served: a refusal that is parked, and two presses of Return. -/
theorem sampleReplay_served : ∃ code reply reply' history history',
    Pressed history ∧ Pressed history' ∧
      (Runs.execute sampleService.step .initial sampleReplay).served =
        [⟨sampleBlank, none, (sampleCircumstances 4000000000000000005).environment, [],
            .refused code none⟩,
          ⟨sampleBlank, some samplePanelProfile,
            (sampleCircumstances 4000000000000000005).environment, history, reply⟩,
          ⟨sampleBlank, some samplePanelProfile,
            (sampleCircumstances 4000000000000000005).environment, history', reply'⟩] := by
  rcases sampleBlank_refused with ⟨code, hrefused⟩
  rcases samplePanelProfile_verifies with ⟨verified, hverified, hbody⟩
  rcases samplePanelProfile_tested with ⟨report, hreport, hpassed⟩
  have htested : ∀ state, sampleService.step state
      (.runCalibrationSelfTest (some ⟨samplePanelProfile, "signature"⟩), sampleCircumstances 5) =
        ⟨some samplePanelProfile, state.served⟩ := by
    intro state
    have hreport' : sampleService.selfTestReply (sampleCircumstances 5) verified.profile.body =
        .selfTest report := by
      rw [hbody]
      exact hreport
    exact (runCalibrationSelfTest_passed hverified hreport' hpassed).trans (by rw [hbody])
  rcases @sampleBlank_pressed ⟨some samplePanelProfile, _⟩ rfl with
    ⟨reply, history, hhistory, hfirst⟩
  rcases @sampleBlank_pressed ⟨some samplePanelProfile, _⟩ rfl with
    ⟨reply', history', hhistory', hsecond⟩
  refine ⟨code, reply, reply', history, history', hhistory, hhistory', ?_⟩
  rw [sampleReplay, Runs.execute_cons, Runs.execute_cons, Runs.execute_cons, Runs.execute_cons,
    Runs.execute_nil, hrefused, htested, hfirst, hsecond]
  rfl

/-- The sample capability without the permission to send. -/
def sampleDry : ActionCapabilityEnvelope :=
  { sampleBlank with permitSend := false, rolloutStage := .dryRun }

end HelperService

end GreenBubbles.Send
