import GreenBubbles.Merge.Integrity

/-! # Auditing table coverage

The auditor's checks that tables lie in the included database coverage, that
the table ledger agrees with the report and that every source row is accounted
for as restored or rejected.
-/
namespace GreenBubbles.Audit

open Std Archive

def verifyDatabaseRecordCoverage (report : RestorationReport) (coverage : RestorationCoverage) :
    Except RestoreError Unit :=
  match report.databaseCoverage with
  | none => .ok ()
  | some databaseCoverage =>
    require (coverage.allTables.all fun table =>
        databaseCoverage.includedSourceSetIds.contains table.sourceSetId)
      "archive contains table records outside its included database coverage"

def isLowerHex (value : String) (expectedLength : ℕ) : Bool :=
  value.utf8ByteSize == expectedLength &&
    value.toList.all fun c => ('0' ≤ c && c ≤ '9') || ('a' ≤ c && c ≤ 'f')

abbrev TableIdentity := String × String × String

def tableIdentity (table : TableSchemaCoverage) : TableIdentity :=
  (table.sourceSetId, table.sourceLogicalPath, table.sourceTableId)

def messageTableIdentity (table : MessageTableCoverage) : TableIdentity :=
  (table.sourceSetId, table.sourceLogicalPath, table.sourceTableId)

def isUnavailable (table : TableSchemaCoverage) : Bool := table.availability == .unavailable

def namesItself (table : TableSchemaCoverage) : Bool :=
  !table.sourceSetId.isEmpty && !table.sourceLogicalPath.isEmpty &&
    !table.sourceTableId.isEmpty && !table.sourceTableName.isEmpty &&
    table.columns.all (fun column => !column.isEmpty) && decide table.columns.Nodup

def fingerprintComplete (table : TableSchemaCoverage) : Bool :=
  (isUnavailable table || table.schemaFingerprint.any (isLowerHex · 64)) &&
    (!isUnavailable table || !lacksText table.limitationCode)

/-- The row count a table must state from coverage format 4 on. -/
def verifyTableRowCount (formatVersion : ℕ) (table : TableSchemaCoverage) :
    Except RestoreError Unit :=
  if 4 ≤ formatVersion then
    if isUnavailable table then
      require table.sourceRowCount.isNone
        "unavailable coverage table claims a complete observed row count"
    else require table.sourceRowCount.isSome "coverage table lacks its observed row count"
  else .ok ()

/-- A message table must be unambiguous; its fingerprint is unwrapped. -/
def verifyTableRole (seen : List TableSchemaCoverage) (table : TableSchemaCoverage) :
    Except RestoreError Unit :=
  if table.role = .message then
    if !seen.all (fun other => other.role != .message ||
        (other.sourceSetId, other.sourceTableId) != (table.sourceSetId, table.sourceTableId)) then
      .error (.integrity "message coverage contains an ambiguous source-table identity")
    else if table.schemaFingerprint.isNone then
      .error (.panicked "called Option::unwrap() on a None value")
    else .ok ()
  else .ok ()

def verifyTable (formatVersion : ℕ) (seen : List TableSchemaCoverage)
    (table : TableSchemaCoverage) : Except RestoreError Unit := do
  require (namesItself table && seen.all fun other => tableIdentity other != tableIdentity table)
    "coverage contains a duplicate table identity"
  require (fingerprintComplete table) "coverage table lacks a complete schema fingerprint"
  verifyTableRowCount formatVersion table
  require (table.availability != .partial_ || !lacksText table.limitationCode)
    "partially readable coverage table lacks a limitation code"
  verifyTableRole seen table

def verifyTables (formatVersion : ℕ) (seen : List TableSchemaCoverage) :
    List TableSchemaCoverage → Except RestoreError Unit
  | [] => .ok ()
  | table :: tables => do
    verifyTable formatVersion seen table
    verifyTables formatVersion (table :: seen) tables

/-- What the ledger checks ask of one table on its own. -/
def wellDescribed (formatVersion : ℕ) (table : TableSchemaCoverage) : Bool :=
  namesItself table && fingerprintComplete table &&
    (decide (formatVersion < 4) || table.sourceRowCount.isSome == !isUnavailable table) &&
    (table.availability != .partial_ || !lacksText table.limitationCode) &&
    (table.role != .message || table.schemaFingerprint.isSome)

/-- What they ask of two tables. -/
def Distinct (left right : TableSchemaCoverage) : Prop :=
  tableIdentity left ≠ tableIdentity right ∧
    (left.role = .message → right.role = .message →
      (left.sourceSetId, left.sourceTableId) ≠ (right.sourceSetId, right.sourceTableId))

theorem verifyTableRowCount_ok {formatVersion : ℕ} {table : TableSchemaCoverage} :
    verifyTableRowCount formatVersion table = .ok () ↔
      (decide (formatVersion < 4) || table.sourceRowCount.isSome == !isUnavailable table) = true := by
  unfold verifyTableRowCount
  by_cases hversion : 4 ≤ formatVersion
  · have hold : ¬formatVersion < 4 := by omega
    cases hunavailable : isUnavailable table <;> cases table.sourceRowCount <;>
      simp [hversion, hold]
  · simp [hversion, Nat.lt_of_not_le hversion]

theorem verifyTableRole_ok {seen : List TableSchemaCoverage} {table : TableSchemaCoverage} :
    verifyTableRole seen table = .ok () ↔
      (table.role != .message || table.schemaFingerprint.isSome) = true ∧
        ∀ other ∈ seen, other.role = .message → table.role = .message →
          (other.sourceSetId, other.sourceTableId) ≠ (table.sourceSetId, table.sourceTableId) := by
  unfold verifyTableRole
  by_cases hrole : table.role = .message
  · rw [if_pos hrole]
    split_ifs with hseen hfingerprint
    · simp only [Bool.not_eq_true', List.all_eq_false] at hseen
      obtain ⟨other, hother, hclash⟩ := hseen
      simp only [false_iff]
      rintro ⟨_, hdistinct⟩
      apply hclash
      by_cases hmessage : other.role = .message
      · simpa [hmessage] using hdistinct other hother hmessage hrole
      · simp [hmessage]
    · simp [hrole, Option.isNone_iff_eq_none.mp hfingerprint]
    · simp only [Bool.not_eq_true', Bool.not_eq_false, List.all_eq_true, Bool.or_eq_true,
        bne_iff_ne] at hseen
      simp only [true_iff]
      refine ⟨?_, fun other hother hmessage _ => ?_⟩
      · cases hfound : table.schemaFingerprint with
        | none => simp [hfound] at hfingerprint
        | some _ => simp
      · exact (hseen other hother).resolve_left (not_not_intro hmessage)
  · simp [hrole]

theorem verifyTable_ok {formatVersion : ℕ} {seen : List TableSchemaCoverage}
    {table : TableSchemaCoverage} :
    verifyTable formatVersion seen table = .ok () ↔
      wellDescribed formatVersion table = true ∧ ∀ other ∈ seen, Distinct other table := by
  unfold verifyTable
  simp only [check_bind_ok, require_ok, verifyTableRowCount_ok, verifyTableRole_ok,
    wellDescribed, Bool.and_eq_true, List.all_eq_true, bne_iff_ne, Distinct]
  constructor
  · rintro ⟨⟨hnames, hidentity⟩, hcomplete, hrows, hpartial, hrole, hsource⟩
    exact ⟨⟨⟨⟨⟨hnames, hcomplete⟩, hrows⟩, hpartial⟩, hrole⟩,
      fun other hother => ⟨hidentity other hother, hsource other hother⟩⟩
  · rintro ⟨⟨⟨⟨⟨hnames, hcomplete⟩, hrows⟩, hpartial⟩, hrole⟩, hdistinct⟩
    exact ⟨⟨hnames, fun other hother => (hdistinct other hother).1⟩, hcomplete, hrows, hpartial,
      hrole, fun other hother => (hdistinct other hother).2⟩

theorem verifyTables_ok {formatVersion : ℕ} {seen tables : List TableSchemaCoverage} :
    verifyTables formatVersion seen tables = .ok () ↔
      (∀ table ∈ tables, wellDescribed formatVersion table = true) ∧
        (∀ table ∈ tables, ∀ other ∈ seen, Distinct other table) ∧ tables.Pairwise Distinct := by
  induction tables generalizing seen with
  | nil => simp [verifyTables]
  | cons table tables ih =>
    simp only [verifyTables, check_bind_ok, verifyTable_ok, ih, List.forall_mem_cons,
      List.pairwise_cons]
    constructor
    · rintro ⟨⟨hdescribed, hseen⟩, hrest, hlater, hpairs⟩
      exact ⟨⟨hdescribed, hrest⟩, ⟨hseen, fun other hother => (hlater other hother).2⟩,
        fun other hother => (hlater other hother).1, hpairs⟩
    · rintro ⟨⟨hdescribed, hrest⟩, ⟨hseen, hlater⟩, hhere, hpairs⟩
      exact ⟨⟨hdescribed, hseen⟩, hrest,
        fun other hother => ⟨hhere other hother, hlater other hother⟩, hpairs⟩

def observedTableRows (tables : List TableSchemaCoverage) : ℕ :=
  tables.foldl (fun total table =>
    if isUnavailable table then total
    else saturatingAdd 64 total (table.sourceRowCount.getD 0)) 0

/-- A partially readable table of any role is a gap, a candidate always is. -/
def isCandidateGap (table : TableSchemaCoverage) : Bool :=
  table.availability == .partial_ || table.role == .unhandledMessageCandidate

def completes (formatVersion : ℕ) (table : MessageTableCoverage)
    (complete : TableSchemaCoverage) : Bool :=
  complete.sourceTableName == table.sourceTableName && complete.columns == table.columns &&
    complete.schemaFingerprint == table.schemaFingerprint &&
    (decide (formatVersion < 4) || complete.sourceRowCount == some table.sourceRowCount)

def verifyMessageTable (coverage : RestorationCoverage) (table : MessageTableCoverage) :
    Except RestoreError Unit :=
  match coverage.allTables.find? (tableIdentity · == messageTableIdentity table) with
  | none => .error (.integrity "message table is absent from complete coverage")
  | some complete =>
    require (completes coverage.formatVersion table complete)
      "message-table provenance disagrees with complete coverage"

def messageRoleTables (tables : List TableSchemaCoverage) : List TableSchemaCoverage :=
  tables.filter (·.role = .message)

/-- The message tables are exactly the tables in the role of one. -/
def messageTablesMatch (coverage : RestorationCoverage) : Bool :=
  let covered := coverage.messageTables.map messageTableIdentity
  let roles := (messageRoleTables coverage.allTables).map tableIdentity
  decide covered.Nodup && covered.all (roles.contains ·) && roles.all (covered.contains ·)

variable (sha256 : List UInt8 → String)

def verifyCoverage (coverage : RestorationCoverage) (report : RestorationReport) :
    Except RestoreError Unit := do
  verifyTables coverage.formatVersion [] coverage.allTables
  require (messageTablesMatch coverage)
    "message-table coverage does not match the complete table ledger"
  coverage.messageTables.forM (verifyMessageTable coverage)
  require (wrappingSum 64 (coverage.messageTables.map (·.sourceRowCount)) ==
        report.integrity.sourceRowCount &&
      coverage.messageTables.length == report.integrity.messageTableCount &&
      coverage.allTables.countP isCandidateGap == report.integrity.messageCandidateGapCount &&
      Merge.countKeys ((messageRoleTables coverage.allTables).map
        (·.schemaFingerprint.getD "")) == report.integrity.messageSchemaCounts)
    "coverage counts do not match restoration integrity"
  require (decide (coverage.formatVersion < 4) ||
      (observedTableRows coverage.allTables == report.integrity.observedTableRowCount &&
        Merge.countKeys (coverage.allTables.map (·.role.wireName)) ==
          report.integrity.tableRoleCounts &&
        Merge.countKeys (coverage.allTables.map (·.classificationReason)) ==
          report.integrity.tableClassificationReasonCounts))
    "complete table-ledger counts do not match restoration integrity"
  require (coverage.schemaProfileFingerprint ==
      schemaProfileFingerprint sha256 (coverage.allTables.map (·.profile)))
    "coverage schema-profile fingerprint is inconsistent"

abbrev SourceTable := String × String

def messageSource (message : CanonicalMessage) : SourceTable :=
  (message.sourceSetId, message.sourceTableId)

def rejectionSource (row : RejectedRow) : SourceTable := (row.sourceSetId, row.sourceTableId)

def messageTableSource (table : MessageTableCoverage) : SourceTable :=
  (table.sourceSetId, table.sourceTableId)

/-- Restored and rejected rows of one source table. -/
def accountedRows (messages : List CanonicalMessage) (rejections : List RejectedRow)
    (table : SourceTable) : ℕ :=
  messages.countP (messageSource · = table) + rejections.countP (rejectionSource · = table)

def rejectsRestoredRow (messages : List CanonicalMessage) (row : RejectedRow) : Bool :=
  row.sourceRowId.any fun rowId => messages.any fun message =>
    messageSource message == rejectionSource row && message.sourceRowId == rowId

/-- The row count the last listed message table of a source states. -/
def expectedRows (tables : List MessageTableCoverage) (source : SourceTable) : Option ℕ :=
  (tables.reverse.find? (messageTableSource · == source)).map (·.sourceRowCount)

def verifySourceRowAccounting (coverage : RestorationCoverage) (messages : List CanonicalMessage)
    (rejections : List RejectedRow) : Except RestoreError Unit := do
  let covered := coverage.messageTables.map messageTableSource
  require ((messages.map messageSource ++ rejections.map rejectionSource).all
      (covered.contains ·))
    "a restored or rejected row belongs to an uncovered message table"
  require (covered.all fun source =>
      expectedRows coverage.messageTables source ==
        some (accountedRows messages rejections source))
    "per-table source row accounting does not match coverage"
  require (!rejections.any (rejectsRestoredRow messages))
    "one source row appears in both restored and rejected ledgers"

end GreenBubbles.Audit
