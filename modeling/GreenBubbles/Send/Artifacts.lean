import GreenBubbles.Library.Framing
import GreenBubbles.Send.Profile

/-! # Bytes and documents determine each other

The three documents that are bound or signed share one framing under three
domains. Equal bytes come from documents of one kind that agree in every framed
field, which leaves out only the body of a capability and its own binding.
-/
namespace GreenBubbles.Send

open Library Library.Bytes Library.Framing
open Connector (actionCapabilityName)
open Outbox (ActionCapability SendFailureCode SendRolloutStage)

theorem capabilityDomain_clean : (0 : UInt8) ∉ utf8 actionCapabilityDomain :=
  zero_notMem_utf8 (by simp [actionCapabilityDomain])

theorem zero_notMem_decimal (n : ℕ) : (0 : UInt8) ∉ utf8 (toString n) := by
  intro hmem
  rw [Nat.toString_eq_repr, Nat.repr_eq_ofList_toDigits, utf8_ofList, List.mem_flatMap] at hmem
  obtain ⟨c, hc, hbyte⟩ := hmem
  exact absurd (printable_utf8EncodeChar (Json.printable_digit hc) hbyte) (by decide)

theorem canonicalBytes_eq_some {domain : String} {fields : List String} {bytes : List UInt8} :
    canonicalBytes domain fields = some bytes ↔
      (∀ field ∈ domain :: fields, (0 : UInt8) ∉ utf8 field) ∧
        bytes = terminated 0 ((domain :: fields).map utf8) := by
  rw [canonicalBytes]
  by_cases h : (domain :: fields).any fun field => (utf8 field).contains 0
  · rw [if_pos h]
    simp only [reduceCtorEq, false_iff, not_and]
    intro hnone
    rcases List.any_eq_true.mp h with ⟨field, hfield, hzero⟩
    exact absurd (List.contains_iff_mem.mp hzero) (hnone field hfield)
  · rw [if_neg h, Option.some.injEq, terminated, List.flatMap_map, eq_comm]
    have hall : ∀ field ∈ domain :: fields, (0 : UInt8) ∉ utf8 field := by
      intro field hfield hzero
      exact h (List.any_eq_true.mpr ⟨field, hfield, List.contains_iff_mem.mpr hzero⟩)
    exact (and_iff_right hall).symm

theorem canonicalBytes_eq_none {domain : String} {fields : List String} :
    canonicalBytes domain fields = none ↔ ∃ field ∈ domain :: fields, (0 : UInt8) ∈ utf8 field := by
  rw [canonicalBytes]
  by_cases h : (domain :: fields).any fun field => (utf8 field).contains 0
  · rw [if_pos h, List.any_eq_true] at *
    simpa only [true_iff, List.contains_iff_mem] using h
  · rw [if_neg h, List.any_eq_true] at *
    simpa only [reduceCtorEq, false_iff, List.contains_iff_mem] using h

/-- Equal bytes frame one domain and the same fields. -/
theorem canonicalBytes_inj {domain domain' : String} {fields fields' : List String}
    {bytes : List UInt8} (h : canonicalBytes domain fields = some bytes)
    (h' : canonicalBytes domain' fields' = some bytes) : domain = domain' ∧ fields = fields' := by
  rcases canonicalBytes_eq_some.mp h with ⟨hclean, rfl⟩
  rcases canonicalBytes_eq_some.mp h' with ⟨hclean', hbytes⟩
  have hfields := terminated_inj (List.forall_mem_map.mpr hclean)
    (List.forall_mem_map.mpr hclean') hbytes
  have hlist := List.map_injective_iff.mpr utf8_injective hfields
  exact List.cons.inj hlist

theorem flagText_inj {flag flag' : Bool} : flagText flag = flagText flag' ↔ flag = flag' := by
  cases flag <;> cases flag' <;> simp [flagText]

theorem actionCapabilityName_inj {capability capability' : ActionCapability} :
    actionCapabilityName capability = actionCapabilityName capability' ↔
      capability = capability' := by
  cases capability <;> cases capability' <;> simp [actionCapabilityName]

theorem addressingMode_inj {mode mode' : SendAddressingMode} :
    mode.canonicalName = mode'.canonicalName ↔ mode = mode' := by
  cases mode <;> cases mode' <;> simp [SendAddressingMode.canonicalName]

theorem rolloutStageName_inj {stage stage' : SendRolloutStage} :
    rolloutStageName stage = rolloutStageName stage' ↔ stage = stage' := by
  cases stage <;> cases stage' <;> simp [rolloutStageName]

theorem compatibilityState_inj {state state' : CompatibilityState} :
    state.canonicalName = state'.canonicalName ↔ state = state' := by
  cases state <;> cases state' <;> simp [CompatibilityState.canonicalName]

/-- An optional section behind its flag, in front of a tail that does not grow. -/
theorem section_inj {α : Type*} {fields : α → List String} (hfields : Function.Injective fields)
    {value value' : Option α} {tail tail' : List String} (hflag : value.isSome = value'.isSome)
    (h : (value.map fields).getD [] ++ tail = (value'.map fields).getD [] ++ tail')
    (htail : tail.length = tail'.length) :
    value = value' ∧ tail = tail' := by
  rcases List.append_inj' h htail with ⟨hsection, hrest⟩
  refine ⟨?_, hrest⟩
  cases value with
  | none =>
    cases value' with
    | none => rfl
    | some _ => simp at hflag
  | some _ =>
    cases value' with
    | none => simp at hflag
    | some _ => rw [hfields hsection]

namespace ActionCapabilityEnvelope

def boundFields (capability : ActionCapabilityEnvelope) : List String :=
  [toString capability.formatVersion, capability.capabilityId, capability.actionId,
   capability.draftId, capability.approvalId, capability.idempotencyKey, capability.accountId,
   capability.conversationId, actionCapabilityName capability.capability,
   capability.addressingMode.canonicalName, capability.searchKey, capability.expectedTitle,
   capability.bodySha256, capability.normalizedBodySha256, capability.clientBuildProfileId,
   capability.calibrationProfileId, capability.calibrationProfileSha256,
   flagText capability.attachment.isSome] ++
  (capability.attachment.map attachmentFields).getD [] ++
  [rolloutStageName capability.rolloutStage, flagText capability.permitSend,
   toString capability.issuedAtUnixNanoseconds, toString capability.validUntilUnixNanoseconds]

theorem bindingBytes_eq (capability : ActionCapabilityEnvelope) :
    capability.bindingBytes = canonicalBytes actionCapabilityDomain capability.boundFields := rfl

theorem bindingBytes_isSome {capability : ActionCapabilityEnvelope}
    (h : ∀ field ∈ capability.boundFields, (0 : UInt8) ∉ utf8 field) :
    capability.bindingBytes.isSome = true := by
  rw [bindingBytes_eq, Option.isSome_iff_exists]
  exact ⟨_, canonicalBytes_eq_some.mpr ⟨List.forall_mem_cons.mpr ⟨capabilityDomain_clean, h⟩, rfl⟩⟩

/-- What the binding bytes leave out is emptied. -/
def bound (capability : ActionCapabilityEnvelope) : ActionCapabilityEnvelope :=
  { capability with body := "", bindingSha256 := "" }

theorem attachmentFields_injective : Function.Injective attachmentFields := by
  intro attachment attachment' h
  simp only [attachmentFields, List.cons.injEq, decimal_inj, and_true] at h
  exact ActionAttachment.ext h.1 h.2.1 h.2.2.1 h.2.2.2.1 h.2.2.2.2.1 h.2.2.2.2.2

theorem bound_eq_of_boundFields {capability capability' : ActionCapabilityEnvelope}
    (h : capability.boundFields = capability'.boundFields) :
    capability.bound = capability'.bound := by
  simp only [boundFields, List.append_assoc] at h
  rcases List.append_inj h rfl with ⟨hhead, hrest⟩
  simp only [List.cons.injEq, decimal_inj, actionCapabilityName_inj, addressingMode_inj,
    flagText_inj, and_true] at hhead
  rcases section_inj attachmentFields_injective
    hhead.2.2.2.2.2.2.2.2.2.2.2.2.2.2.2.2.2 hrest rfl with ⟨hattachment, htail⟩
  simp only [List.cons.injEq, rolloutStageName_inj, flagText_inj, decimal_inj, and_true] at htail
  simp only [bound, hhead, hattachment, htail]

end ActionCapabilityEnvelope

theorem pushPoint_inj {name : String} {point point' : WindowRelativePoint} :
    pushPoint name point = pushPoint name point' ↔ point = point' := by
  simp [pushPoint, WindowRelativePoint.ext_iff]

theorem pushRect_inj {name : String} {rect rect' : WindowRelativeRect} :
    pushRect name rect = pushRect name rect' ↔ rect = rect' := by
  simp [pushRect, WindowRelativeRect.ext_iff]

theorem CalibrationAttachments.signedFields_injective :
    Function.Injective CalibrationAttachments.signedFields := by
  intro attachments attachments' h
  simp only [signedFields, List.append_assoc] at h
  rcases List.append_inj h rfl with ⟨hcontrol, h⟩
  rcases List.append_inj h rfl with ⟨hconfirm, h⟩
  rcases List.append_inj h rfl with ⟨hcompose, h⟩
  rcases List.append_inj h rfl with ⟨hsheet, hflags⟩
  simp only [List.cons.injEq, flagText_inj, and_true] at hflags
  exact CalibrationAttachments.ext (pushPoint_inj.mp hcontrol) (pushPoint_inj.mp hconfirm)
    (pushRect_inj.mp hcompose) (pushRect_inj.mp hsheet) hflags.1 hflags.2

theorem CalibrationProfileBody.signedFields_injective :
    Function.Injective CalibrationProfileBody.signedFields := by
  intro body body' h
  simp only [signedFields, List.append_assoc] at h
  rcases List.append_inj h rfl with ⟨hidentity, h⟩
  rcases List.append_inj h rfl with ⟨hsearchBox, h⟩
  rcases List.append_inj h rfl with ⟨hresultRow, h⟩
  rcases List.append_inj h rfl with ⟨hcomposeBox, h⟩
  rcases List.append_inj h rfl with ⟨hsearch, h⟩
  rcases List.append_inj h rfl with ⟨htitle, h⟩
  rcases List.append_inj h rfl with ⟨hcompose, h⟩
  rcases List.append_inj h rfl with ⟨hnewest, h⟩
  rcases List.append_inj h rfl with ⟨hselftest, h⟩
  simp only [List.cons.injEq, decimal_inj, flagText_inj, true_and, and_true] at hidentity hselftest
  rcases section_inj CalibrationAttachments.signedFields_injective hselftest.2.2 h rfl with
    ⟨hattachments, htimes⟩
  simp only [List.cons.injEq, decimal_inj, and_true] at htimes
  rcases hidentity with ⟨hschema, hprofile, hbundle, hversion, hbuild, hclient, hmajor⟩
  exact CalibrationProfileBody.ext hschema hprofile hbundle hversion hbuild hclient hmajor
    (CalibrationAnchors.ext (pushPoint_inj.mp hsearchBox) (pushPoint_inj.mp hresultRow)
      (pushPoint_inj.mp hcomposeBox))
    (CalibrationOcrRegions.ext (pushRect_inj.mp hsearch) (pushRect_inj.mp htitle)
      (pushRect_inj.mp hcompose) (pushRect_inj.mp hnewest))
    (CalibrationSelfTest.ext hselftest.1 hselftest.2.1) hattachments htimes.1 htimes.2

theorem CompatibilityEntry.signedFields_injective :
    Function.Injective CompatibilityEntry.signedFields := by
  intro entry entry' h
  simp only [signedFields, List.cons.injEq, decimal_inj, compatibilityState_inj, and_true] at h
  rcases h with ⟨hmacos, hmajor, hwechat, hclient, hstate, hprofile, hnote⟩
  exact CompatibilityEntry.ext hmacos hmajor hwechat hclient hstate hprofile hnote

theorem CompatibilityMatrixBody.signedFields_injective :
    Function.Injective CompatibilityMatrixBody.signedFields := by
  intro body body' h
  simp only [signedFields] at h
  rcases List.append_inj h rfl with ⟨hhead, hentries⟩
  have hlength : ∀ entry : CompatibilityEntry, entry.signedFields.length = 6 + 1 := fun _ => rfl
  have hsame := flatMap_injective CompatibilityEntry.signedFields_injective hlength hentries
  simp only [List.cons.injEq, decimal_inj, flagText_inj, and_true] at hhead
  rcases hhead with ⟨hschema, hmatrix, hissued, hexpires, hswitch, -⟩
  exact CompatibilityMatrixBody.ext hschema hmatrix hissued hexpires hswitch hsame

/-- A document that is bound or signed. -/
inductive SendArtifact where
  | capability (envelope : ActionCapabilityEnvelope)
  | calibrationProfile (body : CalibrationProfileBody)
  | compatibilityMatrix (body : CompatibilityMatrixBody)

namespace SendArtifact

def domain : SendArtifact → String
  | .capability _ => actionCapabilityDomain
  | .calibrationProfile _ => calibrationProfileDomain
  | .compatibilityMatrix _ => compatibilityMatrixDomain

def fields : SendArtifact → List String
  | .capability envelope => envelope.boundFields
  | .calibrationProfile body => body.signedFields
  | .compatibilityMatrix body => body.signedFields

def signingBytes : SendArtifact → Option (List UInt8)
  | .capability envelope => envelope.bindingBytes
  | .calibrationProfile body => calibrationProfileSigningBytes body
  | .compatibilityMatrix body => compatibilityMatrixSigningBytes body

theorem signingBytes_eq (artifact : SendArtifact) :
    artifact.signingBytes = canonicalBytes artifact.domain artifact.fields := by
  cases artifact <;> rfl

/-- What the bytes of an artifact stand for. -/
def bound : SendArtifact → SendArtifact
  | .capability envelope => .capability envelope.bound
  | artifact => artifact

theorem profileDomain_ne : calibrationProfileDomain ≠ actionCapabilityDomain := by decide

theorem matrixDomain_ne : compatibilityMatrixDomain ≠ actionCapabilityDomain ∧
    compatibilityMatrixDomain ≠ calibrationProfileDomain := by decide

theorem domain_clean (artifact : SendArtifact) : (0 : UInt8) ∉ utf8 artifact.domain := by
  cases artifact with
  | capability _ => exact capabilityDomain_clean
  | calibrationProfile _ =>
    exact zero_notMem_utf8 (by simp [domain, calibrationProfileDomain])
  | compatibilityMatrix _ =>
    exact zero_notMem_utf8 (by simp [domain, compatibilityMatrixDomain])

/-- No bytes are made of an artifact exactly when one of its fields holds a NUL. -/
theorem signingBytes_eq_none {artifact : SendArtifact} :
    artifact.signingBytes = none ↔ ∃ field ∈ artifact.fields, (0 : UInt8) ∈ utf8 field := by
  rw [signingBytes_eq, canonicalBytes_eq_none, List.exists_mem_cons_iff]
  exact or_iff_right artifact.domain_clean

theorem bound_of_signingBytes {artifact artifact' : SendArtifact} {bytes : List UInt8}
    (h : artifact.signingBytes = some bytes) (h' : artifact'.signingBytes = some bytes) :
    artifact.bound = artifact'.bound := by
  rw [signingBytes_eq] at h h'
  rcases canonicalBytes_inj h h' with ⟨hdomain, hfields⟩
  cases artifact with
  | capability envelope =>
    cases artifact' with
    | capability envelope' =>
      exact congrArg capability (ActionCapabilityEnvelope.bound_eq_of_boundFields hfields)
    | calibrationProfile _ => exact absurd hdomain profileDomain_ne.symm
    | compatibilityMatrix _ => exact absurd hdomain matrixDomain_ne.1.symm
  | calibrationProfile body =>
    cases artifact' with
    | capability _ => exact absurd hdomain profileDomain_ne
    | calibrationProfile body' =>
      exact congrArg calibrationProfile (CalibrationProfileBody.signedFields_injective hfields)
    | compatibilityMatrix _ => exact absurd hdomain matrixDomain_ne.2.symm
  | compatibilityMatrix body =>
    cases artifact' with
    | capability _ => exact absurd hdomain matrixDomain_ne.1
    | calibrationProfile _ => exact absurd hdomain matrixDomain_ne.2
    | compatibilityMatrix body' =>
      exact congrArg compatibilityMatrix (CompatibilityMatrixBody.signedFields_injective hfields)

end SendArtifact

/-- Two inputs the digest tells apart. -/
def NoCollision (bytes bytes' : List UInt8) : Prop :=
  Sha256.hexDigest bytes = Sha256.hexDigest bytes' → bytes = bytes'

namespace ActionCapabilityEnvelope

/-- What a validated envelope says about its digests. -/
theorem digests_of_validate {capability : ActionCapabilityEnvelope} {now : ℕ}
    (h : capability.validate now = .ok ()) :
    Sha256.hexDigest (utf8 capability.body) = capability.bodySha256 ∧
      capability.computedBinding = some capability.bindingSha256 := by
  have hvalid : capability.structureValid = true := by
    by_contra hinvalid
    rw [Bool.not_eq_true] at hinvalid
    simp [validate, hinvalid, bind, Except.bind] at h
  simp only [structureValid, Bool.and_eq_true, beq_iff_eq] at hvalid
  exact ⟨hvalid.1.1.1.2, hvalid.1.2⟩

/-- Two envelopes that both validate and are bound by one digest are one. -/
theorem eq_of_binding {capability capability' : ActionCapabilityEnvelope} {now now' : ℕ}
    (h : capability.validate now = .ok ()) (h' : capability'.validate now' = .ok ())
    (hbinding : capability.bindingSha256 = capability'.bindingSha256)
    (hbytes : ∀ bytes bytes', capability.bindingBytes = some bytes →
      capability'.bindingBytes = some bytes' → NoCollision bytes bytes')
    (hbody : NoCollision (utf8 capability.body) (utf8 capability'.body)) :
    capability = capability' := by
  rcases digests_of_validate h with ⟨hdigest, hcomputed⟩
  rcases digests_of_validate h' with ⟨hdigest', hcomputed'⟩
  rcases Option.map_eq_some_iff.mp hcomputed with ⟨bytes, hsome, hhash⟩
  rcases Option.map_eq_some_iff.mp hcomputed' with ⟨bytes', hsome', hhash'⟩
  have hsame : bytes = bytes' := by
    apply hbytes bytes bytes' hsome hsome'
    rw [hhash, hhash', hbinding]
  have hbound : capability.bound = capability'.bound := by
    subst hsame
    rw [bindingBytes_eq] at hsome hsome'
    exact bound_eq_of_boundFields (canonicalBytes_inj hsome hsome').2
  simp only [bound, ActionCapabilityEnvelope.mk.injEq, true_and, and_true] at hbound
  have hbodySha : capability.bodySha256 = capability'.bodySha256 := by
    simp only [hbound]
  have hbodies : capability.body = capability'.body := by
    apply utf8_injective
    apply hbody
    rw [hdigest, hdigest', hbodySha]
  apply ActionCapabilityEnvelope.ext <;> simp only [hbound, hbodies, hbinding]

end ActionCapabilityEnvelope

section Ideal

variable {verify : List UInt8 → String → Bool}
  (hideal : ∀ signature message message', verify message signature = true →
    verify message' signature = true → message = message')
include hideal

/-- The bytes of an artifact hold all its fields or do not exist, equal bytes and
shared signatures come from artifacts that agree in all they frame, and envelopes
that validate under one binding are equal. -/
theorem sendArtifacts_determined (artifact artifact' : SendArtifact) :
    (artifact.signingBytes = none ↔ ∃ field ∈ artifact.fields, (0 : UInt8) ∈ utf8 field) ∧
    (∀ bytes, artifact.signingBytes = some bytes →
      bytes = terminated 0 ((artifact.domain :: artifact.fields).map utf8) ∧
      (artifact'.signingBytes = some bytes → artifact.bound = artifact'.bound)) ∧
    (∀ bytes bytes' signature, artifact.signingBytes = some bytes →
      artifact'.signingBytes = some bytes' → verify bytes signature = true →
      verify bytes' signature = true → artifact.bound = artifact'.bound) ∧
    (∀ capability capability' now now', artifact = .capability capability →
      artifact' = .capability capability' → capability.validate now = .ok () →
      capability'.validate now' = .ok () →
      capability.bindingSha256 = capability'.bindingSha256 →
      (∀ bytes bytes', artifact.signingBytes = some bytes →
        artifact'.signingBytes = some bytes' → NoCollision bytes bytes') →
      NoCollision (utf8 capability.body) (utf8 capability'.body) → capability = capability') := by
  refine ⟨SendArtifact.signingBytes_eq_none, ?_, ?_, ?_⟩
  · intro bytes h
    refine ⟨?_, SendArtifact.bound_of_signingBytes h⟩
    rw [SendArtifact.signingBytes_eq] at h
    exact (canonicalBytes_eq_some.mp h).2
  · intro bytes bytes' signature h h' hverified hverified'
    rw [hideal signature bytes bytes' hverified hverified'] at h
    exact SendArtifact.bound_of_signingBytes h h'
  · rintro capability capability' now now' rfl rfl h h' hbinding hbytes hbody
    exact ActionCapabilityEnvelope.eq_of_binding h h' hbinding hbytes hbody

end Ideal

def blankCapability (body : String) : ActionCapabilityEnvelope :=
  ⟨1, "", "", "", "", "", "", "", .textSend, .search, "", "", body, "", "", "", "", "", none, .dryRun,
    false, 0, 0, ""⟩

/-- The body of an envelope is not among the bytes it is bound by. -/
theorem body_not_framed : ∃ bytes,
    SendArtifact.signingBytes (.capability (blankCapability "one")) = some bytes ∧
      SendArtifact.signingBytes (.capability (blankCapability "two")) = some bytes ∧
      (blankCapability "one").body ≠ (blankCapability "two").body := by
  have hbytes : (blankCapability "one").bindingBytes.isSome := by decide +kernel
  rcases Option.isSome_iff_exists.mp hbytes with ⟨bytes, h⟩
  exact ⟨bytes, h, h, by decide⟩

def sampleMatrix : CompatibilityMatrixBody :=
  ⟨1, "matrix", 0, 1, false,
    [⟨"24A335", 15, "34371", "profile", .supported, "calibration", ""⟩]⟩

/-- A key that has signed one document. -/
def sampleVerify (message : List UInt8) (signature : String) : Bool :=
  compatibilityMatrixSigningBytes sampleMatrix == some message && signature == "signature"

theorem sampleVerify_ideal : ∀ signature message message',
    sampleVerify message signature = true → sampleVerify message' signature = true →
      message = message' := by
  intro signature message message' h h'
  simp only [sampleVerify, Bool.and_eq_true, beq_iff_eq] at h h'
  exact Option.some.inj (h.1.symm.trans h'.1)

theorem sampleMatrix_determined :
    ((SendArtifact.compatibilityMatrix sampleMatrix).signingBytes = none ↔
      ∃ field ∈ (SendArtifact.compatibilityMatrix sampleMatrix).fields,
        (0 : UInt8) ∈ utf8 field) ∧
    ∀ bytes bytes', (SendArtifact.compatibilityMatrix sampleMatrix).signingBytes = some bytes →
      (SendArtifact.capability (blankCapability "one")).signingBytes = some bytes' →
      sampleVerify bytes "signature" = true → sampleVerify bytes' "signature" = true →
      (SendArtifact.compatibilityMatrix sampleMatrix).bound =
        (SendArtifact.capability (blankCapability "one")).bound := by
  have h := sendArtifacts_determined sampleVerify_ideal (.compatibilityMatrix sampleMatrix)
    (.capability (blankCapability "one"))
  exact ⟨h.1, fun bytes bytes' => h.2.2.1 bytes bytes' "signature"⟩

end GreenBubbles.Send
