import Mathlib.Data.Rat.Floor
import GreenBubbles.Library.Scripts
import GreenBubbles.Send.Profile

/-! # The mechanical send skill

The helper's script: it reads the screen, drives the input and reports how far
it got. Perception and effector may answer anything and throw anywhere. A point
or a region on the screen is kept as the name of its anchor and the window frame.
-/
namespace GreenBubbles.Send

open Library Library.Bytes Library.Scripts
open Outbox (SendFailureCode VisualConfirmation)

/-- What the skill uses of Swift's strings. Equality is canonical equivalence. -/
structure SwiftText where
  words : String → List String
  equivalent : String → String → Bool
  contains : String → String → Bool
  hasPrefix : String → String → Bool
  localizedCaseInsensitiveContains : String → String → Bool
  words_empty : words "" = []
  equivalent_refl : ∀ text, equivalent text text = true

namespace SwiftText

variable (swift : SwiftText)

def normalized (value : String) : String := " ".intercalate (swift.words value)

def normalizedSha256 (value : String) : String := Sha256.hexDigest (utf8 (swift.normalized value))

def «matches» (left right : String) : Bool :=
  swift.equivalent (swift.normalized left) (swift.normalized right)

def echoes (text key : String) : Bool :=
  swift.localizedCaseInsensitiveContains (swift.normalized text) (swift.normalized key)

end SwiftText

/-- The frame of the target window; its coordinates are finite. -/
structure WindowFrame where
  x : ℚ
  y : ℚ
  width : ℚ
  height : ℚ

/-- Half-way cases round away from zero. -/
def rounded (value : ℚ) : ℤ := if value < 0 then -⌊-value + 1 / 2⌋ else ⌊value + 1 / 2⌋

def WindowFrame.digest (frame : WindowFrame) : String :=
  Sha256.hexDigest (utf8 (",".intercalate
    [toString (rounded frame.x), toString (rounded frame.y), toString (rounded frame.width),
     toString (rounded frame.height)]))

def WindowFrame.isPlausibleMainWindow (frame : WindowFrame) : Bool :=
  700 ≤ frame.width && 500 ≤ frame.height

structure RecognizedRegionText where
  text : String
  confidencePartsPerMillion : ℕ
  candidateCount : ℤ

inductive SendKey where
  | returnKey
  | delete
  | selectAll
  | paste
  | escape
  | goToFolder
  deriving DecidableEq

inductive SendTool where
  | click
  | hotkey
  | pressKey
  | clipboardWrite
  | windowRead
  | windowCapture
  | clipboardWriteFileReference
  | openPanelNavigate
  deriving DecidableEq

namespace SendTool

def rawValue : SendTool → String
  | .click => "click"
  | .hotkey => "hotkey"
  | .pressKey => "pressKey"
  | .clipboardWrite => "clipboardWrite"
  | .windowRead => "windowRead"
  | .windowCapture => "windowCapture"
  | .clipboardWriteFileReference => "clipboardWriteFileReference"
  | .openPanelNavigate => "openPanelNavigate"

def allCases : List SendTool :=
  [.click, .hotkey, .pressKey, .clipboardWrite, .windowRead, .windowCapture,
   .clipboardWriteFileReference, .openPanelNavigate]

theorem mem_allCases (tool : SendTool) : tool ∈ allCases := by
  cases tool <;> decide

end SendTool

structure SendFailure where
  code : SendFailureCode
  detail : String
  deriving DecidableEq

structure BoundedCapabilityManifest where
  allowedBundleIdentifiers : List String
  allowedTools : List SendTool

def BoundedCapabilityManifest.authorize (manifest : BoundedCapabilityManifest) (tool : SendTool)
    (bundleIdentifier : String) : Except SendFailure Unit :=
  if bundleIdentifier ∈ manifest.allowedBundleIdentifiers ∧ tool ∈ manifest.allowedTools then .ok ()
  else .error ⟨.manifestViolation,
    tool.rawValue ++ " is outside the bounded manifest for " ++ bundleIdentifier⟩

def BoundedCapabilityManifest.weChatOnly : BoundedCapabilityManifest :=
  ⟨["com.tencent.xinWeChat"], SendTool.allCases⟩

inductive Anchor where
  | searchBox
  | firstResultRow
  | composeBox
  | attachControl
  | confirmSendButton
  deriving DecidableEq

inductive Region where
  | search
  | title
  | compose
  | newestOutgoing
  | composeAttachment
  | confirmSheet
  deriving DecidableEq

/-- The methods of perception and effector that may throw. -/
inductive SkillAction where
  | windowFrame
  | recognizeText (region : Region) (frame : WindowFrame)
  | regionFingerprint (region : Region) (frame : WindowFrame)
  | click (anchor : Anchor) (frame : WindowFrame)
  | press (key : SendKey)
  | writeClipboard (text : String)
  | writeClipboardFileReference (path : String)

abbrev SkillAction.Value : SkillAction → Type
  | .windowFrame => WindowFrame
  | .recognizeText _ _ => RecognizedRegionText
  | .regionFingerprint _ _ => String
  | _ => Unit

/-- What the skill asks of its clock, its perception and its effector. -/
inductive SkillCall where
  | clock
  | captureCount
  | targetWindowCount
  | restoreClipboard
  | humanActivityObserved
  | settle (milliseconds : ℕ)
  | perform (action : SkillAction)

abbrev SkillAnswer : SkillCall → Type
  | .clock => ℕ
  | .captureCount => ℕ
  | .targetWindowCount => ℤ
  | .restoreClipboard => Unit
  | .humanActivityObserved => Bool
  | .settle _ => Unit
  | .perform action => Except SendFailure action.Value

structure HelperGateEvidence where
  titleConfidencePartsPerMillion : ℕ
  titleMatched : Bool
  searchKeyEchoed : Bool
  composeMatched : Bool
  attachmentNameMatched : Bool
  attachmentStaged : Bool
  attachmentRegionChanged : Bool
  confirmationSheetConfirmed : Bool
  composeCleared : Bool
  newestOutgoingMatched : Bool
  ambiguousSearchResult : Bool
  humanActivityObserved : Bool
  windowFrameDigest : String
  captureCount : ℕ
  elapsedMilliseconds : ℕ

def HelperGateEvidence.initial : HelperGateEvidence :=
  ⟨0, false, false, false, false, false, false, false, false, false, false, false,
    .ofList (List.replicate 64 '0'), 0, 0⟩

/-- The variables that outlive a throw. -/
structure SkillState where
  evidence : HelperGateEvidence
  stage : SendStage
  attempted : Bool
  confirmation : VisualConfirmation
  attachmentBaseline : String

def SkillState.initial : SkillState := ⟨.initial, .precheck, false, .notAttempted, ""⟩

abbrev Skill (β : Type) := Script SkillAnswer SendFailure SkillState β

structure SendPacing where
  afterClickMilliseconds : ℕ
  afterKeyMilliseconds : ℕ
  afterPasteMilliseconds : ℕ
  afterSearchMilliseconds : ℕ
  afterReturnMilliseconds : ℕ

/-- An outcome with the evidence it carries. -/
structure HelperReport where
  outcome : HelperSendOutcome
  evidence : HelperGateEvidence
  observedAtUnixNanoseconds : ℕ

/-- Digits of the full-width forms count as hexadecimal ones too. -/
def isHexDigit (c : Char) : Bool :=
  let code := c.toNat
  c.isDigit || (0x41 ≤ code && code ≤ 0x46) || (0x61 ≤ code && code ≤ 0x66) ||
    (0xff10 ≤ code && code ≤ 0xff19) || (0xff21 ≤ code && code ≤ 0xff26) ||
    (0xff41 ≤ code && code ≤ 0xff46)

def isSha256Hex (value : String) : Bool := value.length == 64 && value.toList.all isHexDigit

theorem isSha256Hex_replicate {c : Char} (h : isHexDigit c = true) :
    isSha256Hex (String.ofList (List.replicate 64 c)) = true := by
  rw [isSha256Hex, String.length_ofList, List.length_replicate, String.toList_ofList,
    Bool.and_eq_true, List.all_eq_true]
  refine ⟨rfl, ?_⟩
  intro d hd
  rw [List.eq_of_mem_replicate hd, h]

theorem isHexDigit_of_ascii {c : Char} (hascii : isAsciiHexDigit c = true) :
    isHexDigit c = true := by
  simp only [isAsciiHexDigit, Bool.or_eq_true, Bool.and_eq_true, decide_eq_true_eq, Char.le_def,
    UInt32.le_iff_toNat_le] at hascii
  simp only [isHexDigit, Char.isDigit, ge_iff_le, Bool.or_eq_true, Bool.and_eq_true,
    decide_eq_true_eq, UInt32.le_iff_toNat_le]
  change (48 ≤ c.val.toNat ∧ c.val.toNat ≤ 57 ∨ 97 ≤ c.val.toNat ∧ c.val.toNat ≤ 102) ∨
    65 ≤ c.val.toNat ∧ c.val.toNat ≤ 70 at hascii
  change ((((48 ≤ c.val.toNat ∧ c.val.toNat ≤ 57 ∨ _) ∨ _) ∨ _) ∨ _) ∨ _
  have hcode : c.toNat = c.val.toNat := rfl
  omega

theorem isSha256Hex_hexDigest (message : List UInt8) :
    isSha256Hex (Sha256.hexDigest message) = true := by
  have hdigits := isSha256_hexDigest message
  rw [isSha256, Bool.and_eq_true, List.all_eq_true] at hdigits
  rw [isSha256Hex, length_hexDigest, beq_self_eq_true, Bool.true_and, List.all_eq_true]
  exact fun c hc => isHexDigit_of_ascii (hdigits.2 c hc)

section Validation

variable (swift : SwiftText)

def ActionAttachment.helperValidate (attachment : ActionAttachment) : Except SendFailure Unit :=
  let name := attachment.displayFileName
  if name != "" && name.utf8ByteSize ≤ maximumDisplayFileNameBytes && !swift.contains name "/" &&
      !swift.contains name "\x00" && !swift.equivalent name "." && !swift.equivalent name ".." &&
      isSha256Hex attachment.sha256 && 0 < attachment.byteCount &&
      attachment.byteCount ≤ maximumAttachmentBytes && attachment.uniformTypeIdentifier != "" &&
      swift.hasPrefix attachment.stagingDirectory "/" &&
      !swift.contains attachment.stagingDirectory "/.." &&
      swift.equivalent attachment.stagedPath (attachment.stagingDirectory ++ "/" ++ name) then
    .ok ()
  else .error ⟨.attachmentInvalid, "the staged attachment is not self-consistent"⟩

namespace ActionCapabilityEnvelope

def structurallyValid (capability : ActionCapabilityEnvelope) : Bool :=
  capability.formatVersion == sendContractVersion &&
    [capability.capabilityId, capability.actionId, capability.draftId, capability.approvalId,
      capability.idempotencyKey, capability.bodySha256, capability.normalizedBodySha256,
      capability.calibrationProfileSha256].all isSha256Hex &&
    capability.accountId != "" && capability.conversationId != "" &&
    capability.clientBuildProfileId != "" && capability.calibrationProfileId != "" &&
    capability.searchKey.utf8ByteSize ≤ maximumSearchKeyBytes &&
    capability.addressingMode.typesBeforeRecipientGate != (capability.searchKey == "") &&
    capability.expectedTitle != "" &&
    capability.expectedTitle.utf8ByteSize ≤ maximumExpectedTitleBytes &&
    capability.body.utf8ByteSize ≤ maximumSendBodyBytes &&
    capability.issuedAtUnixNanoseconds < capability.validUntilUnixNanoseconds &&
    swift.equivalent (Sha256.hexDigest (utf8 capability.body)) capability.bodySha256 &&
    swift.equivalent (swift.normalizedSha256 capability.body) capability.normalizedBodySha256 &&
    capability.computedBinding.any (swift.equivalent · capability.bindingSha256) &&
    (!capability.permitSend || capability.rolloutStage.permitsReturn)

theorem any_equivalent_of_computedBinding {capability : ActionCapabilityEnvelope}
    (h : capability.computedBinding = some capability.bindingSha256) :
    capability.computedBinding.any (swift.equivalent · capability.bindingSha256) = true := by
  rw [h]
  exact swift.equivalent_refl _

/-- The helper trusts nothing it is handed. -/
def helperValidate (capability : ActionCapabilityEnvelope) (now : ℕ) : Except SendFailure Unit :=
  if !capability.structurallyValid swift then
    .error ⟨.capabilityMismatch, "the capability envelope is not self-consistent"⟩
  else
    let payload : Except SendFailure Unit :=
      match capability.capability.carriesAttachment, capability.attachment,
          capability.body == "" with
      | false, none, false => .ok ()
      | true, some attachment, true => attachment.helperValidate swift
      | _, _, _ => .error ⟨.capabilityMismatch, "the payload is neither text nor an attachment"⟩
    match payload with
    | .error failure => .error failure
    | .ok () =>
      if capability.issuedAtUnixNanoseconds ≤ now ∧ now < capability.validUntilUnixNanoseconds then
        .ok ()
      else .error ⟨.capabilityExpired, "the capability is outside its validity window"⟩

end ActionCapabilityEnvelope

end Validation

structure MechanicalSendSkill where
  swift : SwiftText
  profile : CalibrationProfileBody
  manifest : BoundedCapabilityManifest
  targetBundleIdentifier : String
  pacing : SendPacing
  helperVersion : String
  engineVersion : String

namespace MechanicalSendSkill

def perform (action : SkillAction) : Skill action.Value := do
  let answer ← Script.call (SkillCall.perform action)
  Script.ofExcept answer

def click (anchor : Anchor) (frame : WindowFrame) : Skill Unit := perform (.click anchor frame)

def press (key : SendKey) : Skill Unit := perform (.press key)

def writeClipboard (text : String) : Skill Unit := perform (.writeClipboard text)

def settle (milliseconds : ℕ) : Skill Unit := Script.call (SkillCall.settle milliseconds)

def restoreClipboard : Skill Unit := Script.call SkillCall.restoreClipboard

def humanActivityObserved : Skill Bool := Script.call SkillCall.humanActivityObserved

def record (change : HelperGateEvidence → HelperGateEvidence) : Skill Unit :=
  Script.modify fun state => { state with evidence := change state.evidence }

def enter (stage : SendStage) : Skill Unit := Script.modify fun state => { state with stage }

def check (condition : Bool) (code : SendFailureCode) (detail : String) : Skill Unit :=
  if condition then pure () else Script.throw ⟨code, detail⟩

variable (skill : MechanicalSendSkill) (capability : ActionCapabilityEnvelope)

def authorize (tool : SendTool) : Skill Unit :=
  Script.ofExcept (skill.manifest.authorize tool skill.targetBundleIdentifier)

def recognize (region : Region) (frame : WindowFrame) : Skill RecognizedRegionText := do
  skill.authorize .windowCapture
  perform (.recognizeText region frame)

def fingerprint (region : Region) (frame : WindowFrame) : Skill String := do
  skill.authorize .windowCapture
  perform (.regionFingerprint region frame)

def requireAttachmentRegions : Skill CalibrationAttachments :=
  match skill.profile.attachments with
  | some attachments => pure attachments
  | none => Script.throw
      ⟨.profileInvalid, "the active calibration profile has no attachment section"⟩

/-- Selecting all and deleting are made nowhere else. -/
def clearCompose (frame : WindowFrame) : Skill Unit := do
  skill.authorize .click
  click .composeBox frame
  settle skill.pacing.afterClickMilliseconds
  skill.authorize .hotkey
  press .selectAll
  press .delete
  restoreClipboard

def clearComposeIfFocusProven (frame : WindowFrame) (focusProven : Bool) : Skill Unit :=
  if focusProven then skill.clearCompose frame else restoreClipboard

/-- Real user activity always wins. -/
def yieldToHuman (clearComposeIn : Option WindowFrame) : Skill Unit := do
  let observed ← humanActivityObserved
  if observed then
    record fun evidence => { evidence with humanActivityObserved := true }
    match clearComposeIn with
    | some frame => (skill.clearCompose frame).ignore
    | none => pure ()
    Script.throw ⟨.humanCollision, "real user activity was observed on the client"⟩
  else pure ()

def focusAndPaste (text : String) (anchor : Anchor) (frame : WindowFrame) : Skill Unit := do
  let observed ← humanActivityObserved
  check (!observed) .humanCollision "user activity observed before taking focus"
  skill.authorize .click
  click anchor frame
  settle skill.pacing.afterClickMilliseconds
  skill.authorize .clipboardWrite
  writeClipboard text
  skill.authorize .hotkey
  press .paste
  settle skill.pacing.afterPasteMilliseconds

/-- Opens the file panel and goes to the staged path; the panel is confirmed next. -/
def navigatePanel (attachment : ActionAttachment) (frame : WindowFrame) : Skill Unit := do
  let observed ← humanActivityObserved
  check (!observed) .humanCollision "user activity observed before taking focus"
  let windowsBefore ← Script.call SkillCall.targetWindowCount
  skill.authorize .click
  click .attachControl frame
  settle skill.pacing.afterSearchMilliseconds
  let windows ← Script.call SkillCall.targetWindowCount
  if windowsBefore < windows then
    skill.authorize .openPanelNavigate
    press .goToFolder
    settle skill.pacing.afterKeyMilliseconds
    skill.authorize .clipboardWrite
    writeClipboard attachment.stagedPath
    press .paste
    settle skill.pacing.afterKeyMilliseconds
  else
    skill.authorize .pressKey
    (press .escape).ignore
    Script.throw ⟨.attachPanelNotPresented, "the attach control did not present a file panel"⟩

def stageAttachmentThroughPanel (attachment : ActionAttachment) (frame : WindowFrame) :
    Skill Unit := do
  let _ ← skill.requireAttachmentRegions
  skill.navigatePanel attachment frame
  press .returnKey
  settle skill.pacing.afterSearchMilliseconds
  press .returnKey
  settle skill.pacing.afterPasteMilliseconds
  record fun evidence => { evidence with attachmentStaged := true }

def stageAttachment (attachment : ActionAttachment) (frame : WindowFrame) : Skill Unit := do
  let attachments ← skill.requireAttachmentRegions
  if attachments.composeAcceptsPastedFile then
    let observed ← humanActivityObserved
    check (!observed) .humanCollision "user activity observed before pasting"
    skill.authorize .click
    click .composeBox frame
    settle skill.pacing.afterClickMilliseconds
    skill.authorize .clipboardWriteFileReference
    perform (.writeClipboardFileReference attachment.stagedPath)
    skill.authorize .hotkey
    press .paste
    settle skill.pacing.afterPasteMilliseconds
  else skill.stageAttachmentThroughPanel attachment frame

def precheck (started : ℕ) : Skill Unit := do
  Script.ofExcept (capability.helperValidate skill.swift started)
  check (skill.swift.equivalent capability.calibrationProfileId skill.profile.profileId)
    .calibrationDrift "the capability names a different calibration profile"
  SendTool.allCases.forM skill.authorize

def calibrate : Skill WindowFrame := do
  enter .calibrate
  skill.authorize .windowRead
  let frame ← perform .windowFrame
  record fun evidence => { evidence with windowFrameDigest := frame.digest }
  check frame.isPlausibleMainWindow .windowNotFound
    "the located window is too small to be the chat window"
  pure frame

/-- Types the search key and opens the first result, unless nothing is to be typed. -/
def address (frame : WindowFrame) : Skill Unit :=
  if capability.addressingMode.typesBeforeRecipientGate then do
    enter .address
    skill.yieldToHuman none
    skill.focusAndPaste capability.searchKey .searchBox frame
    settle skill.pacing.afterSearchMilliseconds
    let echoed ← skill.recognize .search frame
    let searchKeyEchoed := skill.swift.echoes echoed.text capability.searchKey
    record fun evidence => { evidence with searchKeyEchoed }
    check searchKeyEchoed .addressingFocusFailed
      "the search field did not echo the search key, so the click missed its target"
    skill.yieldToHuman none
    skill.authorize .click
    click .firstResultRow frame
    settle skill.pacing.afterClickMilliseconds
  else pure ()

/-- The title is the approved one, read alone and with enough confidence. -/
def titlePasses (title : RecognizedRegionText) : Bool :=
  skill.swift.matches title.text capability.expectedTitle && title.candidateCount ≤ 1 &&
    skill.profile.selftest.minimumTitleConfidencePartsPerMillion ≤ title.confidencePartsPerMillion

def recipientVerify (frame : WindowFrame) : Skill Unit := do
  enter .recipientVerify
  skill.yieldToHuman none
  let title ← skill.recognize .title frame
  record fun evidence => { evidence with
    titleConfidencePartsPerMillion := title.confidencePartsPerMillion
    ambiguousSearchResult := 1 < title.candidateCount
    titleMatched := skill.swift.matches title.text capability.expectedTitle }
  check (skill.titlePasses capability title) .recipientVerifyFailed
    "the opened conversation title did not match the approved recipient"

def compose (frame : WindowFrame) : Skill Unit := do
  enter .compose
  let existing ← skill.recognize .compose frame
  check (skill.swift.normalized existing.text == "") .composeNotEmpty
    "the compose box already holds unsent text"
  match capability.attachment with
  | some attachment =>
    let _ ← skill.requireAttachmentRegions
    let baseline ← skill.fingerprint .composeAttachment frame
    Script.modify fun state => { state with attachmentBaseline := baseline }
    skill.stageAttachment attachment frame
  | none => skill.focusAndPaste capability.body .composeBox frame

/-- An image shows no name, so that the region changed is all there is to see. -/
def contentVerifyAttachment (attachment : ActionAttachment) (frame : WindowFrame) : Skill Unit := do
  let _ ← skill.requireAttachmentRegions
  let after ← skill.fingerprint .composeAttachment frame
  let state ← Script.get
  let changed := !skill.swift.equivalent after state.attachmentBaseline
  record fun evidence => { evidence with
    attachmentRegionChanged := changed, attachmentStaged := changed }
  if capability.capability = .imageSend then
    record fun evidence => { evidence with
      attachmentNameMatched := false, composeMatched := changed }
    if changed then pure ()
    else
      skill.clearComposeIfFocusProven frame false
      Script.throw
        ⟨.attachmentVerifyFailed, "the compose area did not change, so no image was staged"⟩
  else
    let staged ← skill.recognize .composeAttachment frame
    let named := skill.swift.echoes staged.text attachment.displayFileName
    record fun evidence => { evidence with attachmentNameMatched := named, composeMatched := named }
    if changed && named then pure ()
    else
      skill.clearComposeIfFocusProven frame changed
      Script.throw ⟨.attachmentVerifyFailed,
        "the staged attachment's name was not read back from the compose area"⟩

def contentVerify (frame : WindowFrame) : Skill Unit := do
  enter .contentVerify
  match capability.attachment with
  | some attachment => skill.contentVerifyAttachment capability attachment frame
  | none =>
    let composed ← skill.recognize .compose frame
    let composeMatched := skill.swift.matches composed.text capability.body
    record fun evidence => { evidence with composeMatched }
    if composeMatched then pure ()
    else
      skill.clearCompose frame
      Script.throw ⟨.contentVerifyFailed, "the composed text did not match the approved body"⟩

/-- A capability that forbids sending never produces an attempted outcome. -/
def outcome (stage : SendStage) (attempted : Bool) (confirmation : VisualConfirmation)
    (failure : Option SendFailureCode) : Skill HelperReport := do
  let state ← Script.get
  let observedAtUnixNanoseconds ← Script.call SkillCall.clock
  let attempted := attempted && capability.permitSend
  pure
    { outcome :=
        { formatVersion := sendContractVersion
          capabilityId := capability.capabilityId
          capabilityBindingSha256 := capability.bindingSha256
          helperVersion := skill.helperVersion
          engineVersion := skill.engineVersion
          calibrationProfileId := skill.profile.profileId
          stageReached := stage
          attempted
          visualConfirmation := if attempted then confirmation else .notAttempted
          failure
          titleConfidencePartsPerMillion := state.evidence.titleConfidencePartsPerMillion }
      evidence := state.evidence
      observedAtUnixNanoseconds }

/-- The evidence that is taken at every exit. -/
def measure (started : ℕ) : Skill Unit := do
  let captureCount ← Script.call SkillCall.captureCount
  let now ← Script.call SkillCall.clock
  record fun evidence => { evidence with
    captureCount, elapsedMilliseconds := (now - started) / 1000000 }

/-- The dry run stops here, with the compose box cleared. -/
def finishDryRun (started : ℕ) (frame : WindowFrame) : Skill HelperReport := do
  skill.clearCompose frame
  measure started
  skill.outcome capability .contentVerify false .notAttempted none

def sendVerify (started : ℕ) (frame : WindowFrame) : Skill HelperReport := do
  settle skill.pacing.afterReturnMilliseconds
  enter .sendVerify
  let afterCompose ← skill.recognize .compose frame
  let composeCleared := skill.swift.normalized afterCompose.text == ""
  record fun evidence => { evidence with composeCleared }
  let bubble ← skill.recognize .newestOutgoing frame
  let newestOutgoingMatched :=
    match capability.attachment with
    | some attachment => skill.swift.echoes bubble.text attachment.displayFileName
    | none => skill.swift.contains (skill.swift.normalized bubble.text)
        (skill.swift.normalized capability.body)
  record fun evidence => { evidence with newestOutgoingMatched }
  let confirmed := composeCleared && newestOutgoingMatched
  let confirmation := if confirmed then VisualConfirmation.confirmed else .unconfirmed
  Script.modify fun state => { state with confirmation }
  restoreClipboard
  measure started
  skill.outcome capability .sendVerify true confirmation
    (if confirmed then none else some .sendUnconfirmed)

/-- A sheet must name the same file before it is confirmed. -/
def confirmSheet (attachment : ActionAttachment) (started : ℕ) (frame : WindowFrame) :
    Skill HelperReport := do
  settle skill.pacing.afterClickMilliseconds
  let sheet ← skill.recognize .confirmSheet frame
  if skill.swift.echoes sheet.text attachment.displayFileName then
    skill.authorize .click
    click .confirmSendButton frame
    record fun evidence => { evidence with confirmationSheetConfirmed := true }
    skill.sendVerify capability started frame
  else
    restoreClipboard
    measure started
    skill.outcome capability .sendVerify true .unconfirmed (some .attachmentVerifyFailed)

/-- Some builds raise a sheet before an attachment goes out. -/
def confirmAndVerify (started : ℕ) (frame : WindowFrame) : Skill HelperReport :=
  match capability.attachment, skill.profile.attachments with
  | some attachment, some attachments =>
    if attachments.presentsConfirmationSheet then
      skill.confirmSheet capability attachment started frame
    else skill.sendVerify capability started frame
  | _, _ => skill.sendVerify capability started frame

/-- What follows once Return was pressed. -/
def afterReturn (started : ℕ) (frame : WindowFrame) : Skill HelperReport := do
  Script.modify fun state => { state with attempted := true }
  skill.confirmAndVerify capability started frame

def send (started : ℕ) (frame : WindowFrame) : Skill HelperReport := do
  enter .send
  skill.yieldToHuman (some frame)
  skill.authorize .pressKey
  press .returnKey
  skill.afterReturn capability started frame

/-- Every gate, up to the point where the message is composed and verified. -/
def prepare (started : ℕ) : Skill WindowFrame := do
  skill.precheck capability started
  let frame ← skill.calibrate
  skill.address capability frame
  skill.recipientVerify capability frame
  skill.compose capability frame
  skill.contentVerify capability frame
  pure frame

def attempt (started : ℕ) : Skill HelperReport := do
  let frame ← skill.prepare capability started
  if capability.permitSend then skill.send capability started frame
  else skill.finishDryRun capability started frame

/-- Every refusal becomes an outcome with its code. -/
def refuse (started : ℕ) (failure : SendFailure) : Skill HelperReport := do
  measure started
  restoreClipboard
  let state ← Script.get
  skill.outcome capability state.stage state.attempted
    (if state.attempted then .unconfirmed else .notAttempted) (some failure.code)

def execute : Skill HelperReport := do
  let started ← Script.call SkillCall.clock
  (skill.attempt capability started).recover (skill.refuse capability started)

end MechanicalSendSkill

end GreenBubbles.Send
