import GreenBubbles.Archive.Report
import GreenBubbles.Library.Ordered

/-! # Schema evidence

The fingerprint of a table ledger and the checks a coverage document passes
before a merge reads it. The digest function is a parameter.
-/
namespace GreenBubbles.Archive

open Std Library.Ordered

def utf8 (value : String) : List UInt8 := value.toUTF8.toList

def littleEndian (width value : ℕ) : List UInt8 :=
  (List.range width).map fun index => UInt8.ofNat (value / 256 ^ index % 256)

/-- A field is hashed behind its length. -/
def hashField (value : List UInt8) : List UInt8 := littleEndian 8 value.length ++ value

/-- Logical path, table name and schema fingerprint of one table. -/
abbrev TableProfile := String × String × Option String

variable (sha256 : List UInt8 → String)

def schemaProfileFingerprint (tables : List TableProfile) : Option String :=
  if tables.any (fun table => table.2.2.isNone) then none
  else some (sha256 (hashField (utf8 "greenbubbles-schema-profile-v1") ++
    (sortBy id tables).flatMap fun table =>
      hashField (utf8 table.1) ++ hashField (utf8 table.2.1) ++
        hashField (utf8 (table.2.2.getD ""))))

def validateSchemaProfile (tables : List TableProfile) (observed : Option String)
    (required : Bool) : Except RestoreError Unit :=
  if tables.any (fun table => table.2.2.any (fun fingerprint => !isSha256 fingerprint)) ||
      observed.any (fun fingerprint => !isSha256 fingerprint) then
    .error (.integrity "schema coverage contains a malformed fingerprint")
  else
    let expected := schemaProfileFingerprint sha256 tables
    if required && (expected.isNone || observed.isNone) then
      .error (.integrity "current schema coverage is missing fingerprint evidence")
    else if observed.isSome && expected != observed then
      .error (.integrity "schema profile fingerprint does not match its table ledger")
    else .ok ()

def TableSchemaCoverage.profile (table : TableSchemaCoverage) : TableProfile :=
  (table.sourceLogicalPath, table.sourceTableName, table.schemaFingerprint)

def CachedSurfaceTableCoverage.profile (table : CachedSurfaceTableCoverage) : TableProfile :=
  (table.sourceLogicalPath, table.sourceTableName, table.schemaFingerprint)

def validateRestorationCoverageSchema (coverage : RestorationCoverage) :
    Except RestoreError Unit :=
  validateSchemaProfile sha256 (coverage.allTables.map (·.profile))
    coverage.schemaProfileFingerprint (decide (3 ≤ coverage.formatVersion))

def lacksText (value : Option String) : Bool := value.all String.isEmpty

def CachedSurfaceTableCoverage.restoresRows (table : CachedSurfaceTableCoverage) : Bool :=
  table.role == .momentTimeline || table.role == .momentInteraction

/-- The omission evidence of one cached table. -/
def validateCachedTable (table : CachedSurfaceTableCoverage) : Except RestoreError Unit :=
  if table.sourceRowCount < table.restoredRowCount then
    .error (.integrity "cached-surface table restores more rows than it observed")
  else
    match table.availability with
    | .complete =>
      if (table.restoresRows && table.sourceRowCount != table.restoredRowCount) ||
          table.limitationCode.isSome then
        .error (.integrity "complete cached-surface table has omission evidence")
      else .ok ()
    | .partial_ =>
      if lacksText table.limitationCode then
        .error (.integrity "partial cached-surface table lacks a limitation code")
      else .ok ()
    | .unavailable =>
      if table.restoredRowCount != 0 || lacksText table.limitationCode then
        .error (.integrity
          "unavailable cached-surface table has records or no limitation code")
      else .ok ()

def cachedRowsOmitted : String := "cachedSurfaceRowsOmitted"

def validateCachedCoverageSchema (coverage : CachedSurfaceCoverage) :
    Except RestoreError Unit := do
  coverage.tables.forM validateCachedTable
  let tableOmittedRowCount := coverage.tables.foldl (fun total table =>
    if table.restoresRows then
      saturatingAdd 64 total (table.sourceRowCount - table.restoredRowCount)
    else total) 0
  if coverage.omittedRowCount < tableOmittedRowCount ||
      coverage.limitationCodes.any String.isEmpty ||
      !decide (coverage.limitationCodes.Pairwise (· < ·)) ||
      decide (0 < coverage.omittedRowCount) !=
        coverage.limitationCodes.any (· == cachedRowsOmitted) then
    throw (.integrity "cached-surface omission evidence is inconsistent")
  let requiresCompleteProfile := decide (2 ≤ coverage.formatVersion) &&
    coverage.tables.all (fun table =>
      table.schemaFingerprint.isSome && table.availability == .complete)
  validateSchemaProfile sha256 (coverage.tables.map (·.profile))
    coverage.schemaProfileFingerprint requiresCompleteProfile

end GreenBubbles.Archive
