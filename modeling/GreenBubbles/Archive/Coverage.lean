import GreenBubbles.Archive.Records

/-! # Table coverage

What an archive says about the source tables it read: the message tables, the
complete table ledger and the tables of the cached surfaces.
-/
namespace GreenBubbles.Archive

open Std

inductive TableCoverageRole where
  | message
  | knownAuxiliary
  | other
  | unhandledMessageCandidate
  deriving DecidableEq

def TableCoverageRole.wireName : TableCoverageRole → String
  | .message => "message"
  | .knownAuxiliary => "knownAuxiliary"
  | .other => "other"
  | .unhandledMessageCandidate => "unhandledMessageCandidate"

inductive TableCoverageAvailability where
  | complete
  | partial_
  | unavailable
  deriving DecidableEq

structure TableSchemaCoverage where
  sourceSetId : String
  sourceLogicalPath : String
  sourceTableId : String
  sourceTableName : String
  columns : List String
  sourceRowCount : Option ℕ
  schemaFingerprint : Option String
  role : TableCoverageRole
  classificationReason : String
  availability : TableCoverageAvailability
  limitationCode : Option String
  deriving DecidableEq

structure MessageTableCoverage where
  sourceSetId : String
  sourceLogicalPath : String
  sourceTableId : String
  sourceTableName : String
  sourceRowCount : ℕ
  columns : List String
  schemaFingerprint : Option String
  deriving DecidableEq

structure RestorationCoverage where
  formatVersion : ℕ
  decoderName : String
  decoderVersion : String
  snapshotManifestFormatVersion : ℕ
  schemaProfileFingerprint : Option String
  messageTables : List MessageTableCoverage
  allTables : List TableSchemaCoverage
  logicalTypeCounts : ExtTreeMap String ℕ
  logicalSubTypeCounts : ExtTreeMap String ℕ
  unknownPayloadReasonCounts : ExtTreeMap String ℕ
  semanticGapReasonCounts : ExtTreeMap String ℕ
  deriving DecidableEq

inductive CachedSurfaceTableRole where
  | momentTimeline
  | momentInteraction
  | unsupportedCandidate
  | other
  deriving DecidableEq

structure CachedSurfaceTableCoverage where
  sourceSetId : String
  sourceLogicalPath : String
  sourceTableId : String
  sourceTableName : String
  columns : List String
  schemaFingerprint : Option String
  sourceRowCount : ℕ
  restoredRowCount : ℕ
  role : CachedSurfaceTableRole
  classificationReason : String
  availability : TableCoverageAvailability
  limitationCode : Option String
  deriving DecidableEq

/-- `omittedRowCount` counts source rows known while planning but omitted
because an optional table became unreadable. -/
structure CachedSurfaceCoverage where
  formatVersion : ℕ
  schemaProfileFingerprint : Option String
  observedAt : String
  sourceDatabasePresent : Bool
  momentCount : ℕ
  interactionCount : ℕ
  semanticGapCount : ℕ
  omittedRowCount : ℕ
  limitationCodes : List String
  tables : List CachedSurfaceTableCoverage
  deriving DecidableEq

structure CachedSurfaces where
  moments : List CanonicalCachedMoment
  interactions : List CanonicalCachedMomentInteraction
  coverage : CachedSurfaceCoverage
  deriving DecidableEq

end GreenBubbles.Archive
