import GreenBubbles.Send.Capability

/-! # Signed send artifacts

The calibration profile and the compatibility matrix a release key signs, and
the fields their signing bytes frame. Both are data, as the capability is.
-/
namespace GreenBubbles.Send

open Library.Bytes
open Connector (actionCapabilityName)

def calibrationProfileSchemaVersion : ℕ := 1
def compatibilityMatrixSchemaVersion : ℕ := 1
def partsPerMillion : ℕ := 1000000

def calibrationProfileDomain : String := "greenbubbles.send.calibration-profile.v1"
def compatibilityMatrixDomain : String := "greenbubbles.send.compatibility-matrix.v1"

/-- A point inside a window, in parts per million of its size. -/
structure WindowRelativePoint where
  xPartsPerMillion : ℕ
  yPartsPerMillion : ℕ
  deriving DecidableEq

structure WindowRelativeRect where
  xPartsPerMillion : ℕ
  yPartsPerMillion : ℕ
  widthPartsPerMillion : ℕ
  heightPartsPerMillion : ℕ
  deriving DecidableEq

structure CalibrationAnchors where
  searchBox : WindowRelativePoint
  firstResultRow : WindowRelativePoint
  composeBox : WindowRelativePoint
  deriving DecidableEq

structure CalibrationOcrRegions where
  search : WindowRelativeRect
  title : WindowRelativeRect
  compose : WindowRelativeRect
  newestOutgoing : WindowRelativeRect
  deriving DecidableEq

structure CalibrationSelfTest where
  focusIndicator : String
  minimumTitleConfidencePartsPerMillion : ℕ
  deriving DecidableEq

/-- What an attachment send needs; a profile without it cannot stage one. -/
structure CalibrationAttachments where
  attachControl : WindowRelativePoint
  confirmSendButton : WindowRelativePoint
  composeAttachment : WindowRelativeRect
  confirmSheet : WindowRelativeRect
  presentsConfirmationSheet : Bool
  composeAcceptsPastedFile : Bool
  deriving DecidableEq

structure CalibrationProfileBody where
  schema : ℕ
  profileId : String
  wechatBundleIdentifier : String
  wechatMarketingVersion : String
  wechatBuild : String
  clientBuildProfileId : String
  macosMajor : ℕ
  anchors : CalibrationAnchors
  ocrRegions : CalibrationOcrRegions
  selftest : CalibrationSelfTest
  attachments : Option CalibrationAttachments
  issuedAtUnixSeconds : ℕ
  expiresAtUnixSeconds : ℕ
  deriving DecidableEq

inductive CompatibilityState where
  | supported
  | unverified
  | blocked
  deriving DecidableEq

def CompatibilityState.canonicalName : CompatibilityState → String
  | .supported => "supported"
  | .unverified => "unverified"
  | .blocked => "blocked"

structure CompatibilityEntry where
  macosBuild : String
  macosMajor : ℕ
  wechatBuild : String
  clientBuildProfileId : String
  state : CompatibilityState
  calibrationProfileId : String
  note : String
  deriving DecidableEq

structure CompatibilityMatrixBody where
  schema : ℕ
  matrixId : String
  issuedAtUnixSeconds : ℕ
  expiresAtUnixSeconds : ℕ
  globalKillSwitchEngaged : Bool
  entries : List CompatibilityEntry
  deriving DecidableEq

attribute [ext] WindowRelativePoint WindowRelativeRect CalibrationAnchors CalibrationOcrRegions
  CalibrationSelfTest CalibrationAttachments CalibrationProfileBody CompatibilityEntry
  CompatibilityMatrixBody ActionAttachment ActionCapabilityEnvelope

def pushPoint (name : String) (point : WindowRelativePoint) : List String :=
  [name, toString point.xPartsPerMillion, toString point.yPartsPerMillion]

def pushRect (name : String) (rect : WindowRelativeRect) : List String :=
  [name, toString rect.xPartsPerMillion, toString rect.yPartsPerMillion,
   toString rect.widthPartsPerMillion, toString rect.heightPartsPerMillion]

def CalibrationAttachments.signedFields (attachments : CalibrationAttachments) : List String :=
  pushPoint "anchor.attachControl" attachments.attachControl ++
  pushPoint "anchor.confirmSendButton" attachments.confirmSendButton ++
  pushRect "region.composeAttachment" attachments.composeAttachment ++
  pushRect "region.confirmSheet" attachments.confirmSheet ++
  [flagText attachments.presentsConfirmationSheet, flagText attachments.composeAcceptsPastedFile]

def CalibrationProfileBody.signedFields (body : CalibrationProfileBody) : List String :=
  [toString body.schema, body.profileId, body.wechatBundleIdentifier, body.wechatMarketingVersion,
   body.wechatBuild, body.clientBuildProfileId, toString body.macosMajor] ++
  pushPoint "anchor.searchBox" body.anchors.searchBox ++
  pushPoint "anchor.firstResultRow" body.anchors.firstResultRow ++
  pushPoint "anchor.composeBox" body.anchors.composeBox ++
  pushRect "region.search" body.ocrRegions.search ++
  pushRect "region.title" body.ocrRegions.title ++
  pushRect "region.compose" body.ocrRegions.compose ++
  pushRect "region.newestOutgoing" body.ocrRegions.newestOutgoing ++
  ["selftest.focusIndicator", body.selftest.focusIndicator,
   toString body.selftest.minimumTitleConfidencePartsPerMillion,
   flagText body.attachments.isSome] ++
  (body.attachments.map CalibrationAttachments.signedFields).getD [] ++
  [toString body.issuedAtUnixSeconds, toString body.expiresAtUnixSeconds]

/-- The exact bytes a release key signs for a calibration profile. -/
def calibrationProfileSigningBytes (body : CalibrationProfileBody) : Option (List UInt8) :=
  canonicalBytes calibrationProfileDomain body.signedFields

def CompatibilityEntry.signedFields (entry : CompatibilityEntry) : List String :=
  [entry.macosBuild, toString entry.macosMajor, entry.wechatBuild, entry.clientBuildProfileId,
   entry.state.canonicalName, entry.calibrationProfileId, entry.note]

def CompatibilityMatrixBody.signedFields (body : CompatibilityMatrixBody) : List String :=
  [toString body.schema, body.matrixId, toString body.issuedAtUnixSeconds,
   toString body.expiresAtUnixSeconds, flagText body.globalKillSwitchEngaged,
   toString body.entries.length] ++
  body.entries.flatMap CompatibilityEntry.signedFields

/-- The exact bytes a release key signs for a compatibility matrix. -/
def compatibilityMatrixSigningBytes (body : CompatibilityMatrixBody) : Option (List UInt8) :=
  canonicalBytes compatibilityMatrixDomain body.signedFields

end GreenBubbles.Send
