import GreenBubbles.Send.Adapter

/-! # Staged attachments

One `execute` call next to the `open_outbox` calls of other processes. An open
outbox is followed by a sweep of the staging root, which keeps the directories
the outbox named when the sweep read it and visits the others one by one.
-/
namespace GreenBubbles.Send

open Library Library.Bytes
open Connector (ActionDraft DraftAttachment)
open Outbox (ActionCapability Fault Request SendCompletionKind SendFailureCode SendOutboxState)

/-- One reviewed attachment type. -/
structure ReviewedType where
  suffix : String
  uniformTypeIdentifier : String
  image : Bool

def reviewedTypes : List ReviewedType :=
  [⟨"png", "public.png", true⟩, ⟨"jpg", "public.jpeg", true⟩, ⟨"jpeg", "public.jpeg", true⟩,
   ⟨"gif", "com.compuserve.gif", true⟩, ⟨"heic", "public.heic", true⟩,
   ⟨"webp", "org.webmproject.webp", true⟩, ⟨"tiff", "public.tiff", true⟩,
   ⟨"bmp", "com.microsoft.bmp", true⟩, ⟨"pdf", "com.adobe.pdf", false⟩,
   ⟨"txt", "public.plain-text", false⟩, ⟨"md", "net.daringfireball.markdown", false⟩,
   ⟨"csv", "public.comma-separated-values-text", false⟩, ⟨"json", "public.json", false⟩,
   ⟨"log", "public.plain-text", false⟩, ⟨"rtf", "public.rtf", false⟩,
   ⟨"zip", "public.zip-archive", false⟩,
   ⟨"docx", "org.openxmlformats.wordprocessingml.document", false⟩,
   ⟨"xlsx", "org.openxmlformats.spreadsheetml.sheet", false⟩,
   ⟨"pptx", "org.openxmlformats.presentationml.presentation", false⟩]

/-- What follows the last dot decides. -/
def reviewedType (displayFileName : String) : Option ReviewedType :=
  let name := displayFileName.toList
  if '.' ∈ name then
    let suffix := .ofList ((name.reverse.takeWhile (· ≠ '.')).reverse.map Char.toLower)
    reviewedTypes.find? (·.suffix = suffix)
  else none

def reviewedUniformTypeIdentifier (capability : ActionCapability) (displayFileName : String) :
    Except SendFailureCode String :=
  match reviewedType displayFileName with
  | none => .error .unsupportedAttachmentType
  | some reviewed =>
    match capability with
    | .imageSend =>
      if reviewed.image then .ok reviewed.uniformTypeIdentifier
      else .error .unsupportedAttachmentType
    | .fileSend => .ok reviewed.uniformTypeIdentifier
    | _ => .error .attachmentInvalid

def stagingFailure (code : SendFailureCode) : RestoreError :=
  .integrity ("attachment staging refused the request: \"" ++ code.wireName ++ "\" (" ++
    code.operatorAction ++ ")")

/-- What the file system gives a staging: the fresh directory, the length of the owner's file
with the bytes then read from it, and what the copy reads as if it is still the file written. -/
structure StagingInput where
  directory : String
  source : Option (ℕ × List UInt8)
  reread : Option (List UInt8)

/-- The copy is hashed twice and must be what the draft approved. -/
def stageAttachment (input : StagingInput) (expected : DraftAttachment)
    (capability : ActionCapability) : Except RestoreError StagedAttachment :=
  let name := expected.displayFileName
  if name = "" ∨ maximumDisplayFileNameBytes < name.utf8ByteSize ∨ '/' ∈ name.toList ∨
      '\x00' ∈ name.toList ∨ name = "." ∨ name = ".." then
    .error (stagingFailure .attachmentInvalid)
  else
    match reviewedUniformTypeIdentifier capability name, input.source with
    | .error code, _ => .error (stagingFailure code)
    | .ok _, none => .error (.integrity
        "an attachment source must be a current-user regular file that only its owner can write")
    | .ok uniformTypeIdentifier, some (length, bytes) =>
      if length = 0 ∨ maximumAttachmentBytes < length ∨ maximumAttachmentBytes < bytes.length then
        .error (stagingFailure .attachmentInvalid)
      else
        match input.reread with
        | none => .error (stagingFailure .attachmentStagingFailed)
        | some copy =>
          let sha256 := Sha256.hexDigest copy
          if sha256 ≠ Sha256.hexDigest bytes ∨ copy.length ≠ bytes.length then
            .error (stagingFailure .attachmentStagingFailed)
          else if sha256 ≠ expected.sha256 ∨ expected.byteCount.any (· ≠ bytes.length) then
            .error (stagingFailure .attachmentDigestMismatch)
          else .ok
            { attachment :=
                { stagingDirectory := input.directory
                  stagedPath := input.directory ++ "/" ++ name
                  displayFileName := name
                  byteCount := bytes.length
                  sha256
                  uniformTypeIdentifier }
              bytesPreservedInTransit := preservesBytes capability }

theorem stageAttachment_ok {input : StagingInput} {expected : DraftAttachment}
    {capability : ActionCapability} {staged : StagedAttachment}
    (h : stageAttachment input expected capability = .ok staged) :
    staged.attachment.stagingDirectory = input.directory ∧
      staged.attachment.sha256 = expected.sha256 := by
  unfold stageAttachment at h
  dsimp only at h
  split_ifs at h with hname
  split at h
  · cases h
  · cases h
  · split_ifs at h with hlength
    split at h
    · cases h
    · split_ifs at h with hcopy happroved
      cases h
      exact ⟨rfl, not_not.mp fun hne => happroved (.inl hne)⟩

/-- A minted capability names the staged copy. -/
theorem SendAdapterConfig.mintCapability_attachment {config : SendAdapterConfig}
    {draft : ActionDraft} {approvalId : String} {profile : CalibrationBinding}
    {staged : StagedAttachment} {permitSend : Bool} {now : ℕ}
    {capability : ActionCapabilityEnvelope}
    (h : config.mintCapability draft approvalId profile (some staged) permitSend now =
      .ok capability) : capability.attachment = some staged.attachment := by
  simp only [mintCapability, bind_ok] at h
  rcases h with ⟨attachment, hattachment, h⟩
  have hstaged : attachment = some staged.attachment := by
    unfold boundAttachment at hattachment
    cases hcarries : (draftCapability draft).carriesAttachment with
    | false => simp [hcarries] at hattachment
    | true =>
      simp only [hcarries] at hattachment
      split at hattachment
      · cases hattachment
      · split_ifs at hattachment
        exact (Except.ok.inj hattachment).symm
  split at h
  · cases h
  · rcases bind_ok.mp h with ⟨_, -, hcapability⟩
    rw [← Except.ok.inj hcapability, ← hstaged]
    rfl

/-- Without a staged copy a minted capability names none. -/
theorem SendAdapterConfig.mintCapability_plain {config : SendAdapterConfig} {draft : ActionDraft}
    {approvalId : String} {profile : CalibrationBinding} {permitSend : Bool} {now : ℕ}
    {capability : ActionCapabilityEnvelope}
    (h : config.mintCapability draft approvalId profile none permitSend now = .ok capability) :
    capability.attachment = none := by
  simp only [mintCapability, bind_ok] at h
  rcases h with ⟨attachment, hattachment, h⟩
  have hnone : attachment = none := by
    unfold boundAttachment at hattachment
    cases hcarries : (draftCapability draft).carriesAttachment <;> simp [hcarries] at hattachment
    exact hattachment.symm
  split at h
  · cases h
  · rcases bind_ok.mp h with ⟨_, -, hcapability⟩
    rw [← Except.ok.inj hcapability, ← hnone]
    rfl

/-- The staging directories of the unresolved entries. -/
def live (state : SendOutboxState) : List String :=
  state.unresolved.filterMap (·.stagingDirectory)

/-- A sweep under way: what it keeps, what it listed, what it has still to visit and what was
gone after a visit. -/
structure Sweep where
  keep : List String
  listed : List String
  pending : List String
  removed : List String

/-- What is observed, newest first: whether the copy was there as the helper was called, whether
the end of the call left a copy nothing refers to, and what a finished sweep left. -/
inductive StagingObservation where
  | dispatched (present : Bool)
  | ended (left : Bool)
  | swept (left : List String)

structure StagingWorld where
  world : World
  /-- The staging directories with the digests of their copies. -/
  copies : List (String × String)
  /-- The digest the draft of the call approved. -/
  approved : String
  sweeps : ℕ → Option Sweep
  observations : List StagingObservation

/-- The call that is followed and what happens next to it. A flag `removed` says whether the
file system lets a directory be removed. -/
inductive StagingEvent where
  | executed (draft : ActionDraft) (approvalId : String) (profile : CalibrationBinding)
      (input : StagingInput) (report : SendPrecheckReport) (now : ℕ) (removed : Bool)
  | reserved (fault : Fault)
  | marked (fault : Fault)
  | unaudited
  | called (spawned : Bool)
  | helperBegan (now : ℕ) (ready : Bool)
  | helperPressed
  | helperAnswered (outcome : HelperSendOutcome)
  | returned (result : Except SendFailureCode HelperSendOutcome)
  | completed (elapsed : ℕ) (fault : Fault) (removed : Bool)
  | opened (process now : ℕ) (fault : Fault)
  | surveyed (process : ℕ)
  | visited (process : ℕ) (directory : String) (removed : Bool)
  | finished (process : ℕ)
  | crashed (process : ℕ)

/-- The staging directory of a call that is under way. -/
def Attempt.underWay (attempt : Attempt) : Option String :=
  match attempt.phase with
  | .over => none
  | _ => attempt.capability.attachment.map (·.stagingDirectory)

def World.underWay (world : World) (caller : ℕ) : Option String :=
  (world.attempts caller).bind Attempt.underWay

namespace StagingWorld

variable (adapter : SendAdapter) (documentBytes : SendOutboxState → ℕ) (caller : ℕ)
  (staging : StagingWorld)

def start (world : World) (copies : List (String × String)) : StagingWorld :=
  ⟨world, copies, "", fun _ => none, []⟩

def holds (directory : String) : Bool := staging.copies.any (·.1 = directory)

def observe (observation : StagingObservation) : StagingWorld :=
  { staging with observations := observation :: staging.observations }

def discard (directory : String) (removed : Bool) : StagingWorld :=
  if removed then { staging with copies := staging.copies.filter (·.1 ≠ directory) } else staging

/-- Nothing refers to the copy and it is still there. -/
def leaves (directory : String) : Bool :=
  staging.holds directory && !(live staging.world.outbox.current).contains directory

/-- The end of the call is observed, unless it goes on. -/
def followed (next : StagingWorld) : StagingWorld :=
  match staging.world.underWay caller, next.world.underWay caller with
  | some directory, none => next.observe (.ended (next.leaves directory))
  | _, _ => next

/-- `execute` up to its capability. A copy no capability is minted for is discarded. -/
def executed (draft : ActionDraft) (approvalId : String) (profile : CalibrationBinding)
    (input : StagingInput) (report : SendPrecheckReport) (now : ℕ) (removed : Bool) :
    StagingWorld :=
  match staging.world.attempts caller, staging.world.outbox.processes.lookup caller with
  | none, some _ =>
    if !report.permitted then staging
    else if !(SendAdapterConfig.draftCapability draft).carriesAttachment then
      { staging with
        world := Send.executed adapter staging.world caller draft approvalId profile none report now }
    else
      match draft.attachments, staging.holds input.directory with
      | expected :: _, false =>
        match stageAttachment input expected (SendAdapterConfig.draftCapability draft) with
        | .error _ => staging
        | .ok staged =>
          let next : StagingWorld :=
            { staging with
              world := Send.executed adapter staging.world caller draft approvalId profile
                (some staged) report now
              copies := (input.directory, staged.attachment.sha256) :: staging.copies
              approved := expected.sha256 }
          if (next.world.attempts caller).isSome then next
          else
            let discarded := next.discard input.directory removed
            discarded.observe (.ended (discarded.leaves input.directory))
      | _, _ => staging
  | _, _ => staging

def reserved (fault : Fault) : StagingWorld :=
  staging.followed caller
    { staging with world := Send.reserved adapter documentBytes staging.world caller fault }

def marked (fault : Fault) : StagingWorld :=
  staging.followed caller
    { staging with world := Send.marked documentBytes staging.world caller fault }

/-- An append to the audit log fails, before the attempt is recorded or right after. -/
def unaudited : StagingWorld :=
  match staging.world.attempts caller with
  | some ⟨capability, .reserved, job⟩ | some ⟨capability, .ready, job⟩ =>
    staging.followed caller
      { staging with world := staging.world.setAttempt caller (some ⟨capability, .over, job⟩) }
  | _ => staging

/-- Whether the copy is there as the helper is called. -/
def called (spawned : Bool) : StagingWorld :=
  let next := { staging with world := Send.called staging.world caller spawned }
  match staging.world.attempts caller with
  | some ⟨capability, .ready, .idle⟩ =>
    match capability.attachment, spawned with
    | some attachment, true => next.observe (.dispatched
        (staging.copies.contains (attachment.stagingDirectory, staging.approved)))
    | _, _ => next
  | _ => next

/-- A terminal outcome retires the staged copy. -/
def completed (elapsed : ℕ) (fault : Fault) (removed : Bool) : StagingWorld :=
  match staging.world.attempts caller with
  | some ⟨capability, .answered result, _⟩ =>
    let next :=
      { staging with world := Send.completed adapter documentBytes staging.world caller elapsed fault }
    let record := settleDispatch capability result
    let request := Request.complete capability.idempotencyKey record
      adapter.config.circuitBreakerFailureThreshold
      (adapter.config.circuitBreakerCooldownSeconds |> SendAdapterConfig.secondsToNanoseconds)
    let settledAt := saturatingAdd 128 capability.issuedAtUnixNanoseconds elapsed
    match record.outcome, granted documentBytes staging.world caller request settledAt fault,
        capability.attachment with
    | .completed _, true, some attachment =>
      staging.followed caller (next.discard attachment.stagingDirectory removed)
    | _, _, _ => staging.followed caller next
  | _ => staging

/-- What the sweep keeps is read from the outbox, before the root is listed. -/
def surveyed (process : ℕ) : StagingWorld :=
  match staging.world.outbox.processes.lookup process with
  | none => staging
  | some _ =>
    let listed := staging.copies.map Prod.fst
    { staging with
      sweeps := Function.update staging.sweeps process
        (some ⟨live staging.world.outbox.current, listed, listed, []⟩) }

def visited (process : ℕ) (directory : String) (removed : Bool) : StagingWorld :=
  match staging.sweeps process with
  | none => staging
  | some sweep =>
    if sweep.pending.contains directory then
      let next :=
        if sweep.keep.contains directory then staging else staging.discard directory removed
      { next with
        sweeps := Function.update staging.sweeps process
          (some { sweep with
            pending := sweep.pending.filter (· ≠ directory)
            removed :=
              if next.holds directory then sweep.removed else directory :: sweep.removed }) }
    else staging

def finished (process : ℕ) : StagingWorld :=
  match staging.sweeps process with
  | some ⟨keep, listed, [], removed⟩ =>
    { staging.observe (.swept (listed.filter fun directory =>
        !keep.contains directory && !removed.contains directory)) with
      sweeps := Function.update staging.sweeps process none }
  | _ => staging

def step : StagingEvent → StagingWorld
  | .executed draft approvalId profile input report now removed =>
    staging.executed adapter caller draft approvalId profile input report now removed
  | .reserved fault => staging.reserved adapter documentBytes caller fault
  | .marked fault => staging.marked documentBytes caller fault
  | .unaudited => staging.unaudited caller
  | .called spawned => staging.called caller spawned
  | .helperBegan now ready =>
    { staging with world := Send.helperBegan staging.world caller now ready }
  | .helperPressed => { staging with world := Send.helperPressed staging.world caller }
  | .helperAnswered outcome =>
    { staging with world := Send.helperAnswered staging.world caller outcome }
  | .returned result => { staging with world := Send.returned staging.world caller result }
  | .completed elapsed fault removed =>
    staging.completed adapter documentBytes caller elapsed fault removed
  | .opened process now fault =>
    { staging with
      world := Send.step adapter documentBytes staging.world (.opened process now fault) }
  | .surveyed process => staging.surveyed process
  | .visited process directory removed => staging.visited process directory removed
  | .finished process => staging.finished process
  | .crashed process =>
    { staging with
      world := Send.crashed documentBytes staging.world process
      sweeps := Function.update staging.sweeps process none }

end StagingWorld

end GreenBubbles.Send
