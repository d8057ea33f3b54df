import Mathlib.Data.List.Pairwise
import GreenBubbles.Audit.Coverage
import GreenBubbles.Merge.Freshness

/-! # Accounting of a merged archive

Which ledgers of the two inputs let the merged archive pass the auditor's
coverage and row-accounting checks.
-/
namespace GreenBubbles.Audit

open Std Archive Merge Library.Ordered

section Tables

/-- Table ledgers whose message tables are all described and all listed. -/
structure TablesSound (formatVersion : ℕ) (messageTables : List MessageTableCoverage)
    (tables : List TableSchemaCoverage) : Prop where
  described : ∀ table ∈ tables, wellDescribed formatVersion table = true
  completed : ∀ table ∈ messageTables, ∃ complete ∈ tables, complete.role = .message ∧
    tableIdentity complete = messageTableIdentity table ∧
    completes formatVersion table complete = true
  listed : ∀ complete ∈ tables, complete.role = .message →
    ∃ table ∈ messageTables, messageTableIdentity table = tableIdentity complete

theorem TablesSound.congr {formatVersion : ℕ} {messageTables messageTables' : List MessageTableCoverage}
    {tables tables' : List TableSchemaCoverage} (h : TablesSound formatVersion messageTables tables)
    (hmessage : ∀ table, table ∈ messageTables ↔ table ∈ messageTables')
    (htables : ∀ table, table ∈ tables ↔ table ∈ tables') :
    TablesSound formatVersion messageTables' tables' := by
  refine ⟨?_, ?_, ?_⟩
  · intro table htable
    exact h.described table ((htables table).mpr htable)
  · intro table htable
    obtain ⟨complete, hcomplete, hrest⟩ := h.completed table ((hmessage table).mpr htable)
    exact ⟨complete, (htables complete).mp hcomplete, hrest⟩
  · intro complete hcomplete hrole
    obtain ⟨table, htable, hsame⟩ := h.listed complete ((htables complete).mpr hcomplete) hrole
    exact ⟨table, (hmessage table).mp htable, hsame⟩

variable {tables : List TableSchemaCoverage}

instance : Std.Symm Distinct where
  symm _ _ h := ⟨h.1.symm, fun hright hleft => (h.2 hleft hright).symm⟩

theorem pairwise_distinct (h : (tables.map tableKey).Nodup) : tables.Pairwise Distinct := by
  rw [List.Nodup, List.pairwise_map] at h
  apply h.imp
  intro left right hkeys
  constructor
  · intro hidentity
    simp only [tableIdentity, Prod.mk.injEq] at hidentity
    exact hkeys (Prod.ext hidentity.1 hidentity.2.2)
  · exact fun _ _ => hkeys

theorem nodup_tableIdentity (h : (tables.map tableKey).Nodup) :
    (tables.map tableIdentity).Nodup := by
  apply List.Nodup.of_map (fun identity : TableIdentity => (identity.1, identity.2.2))
  rw [List.map_map]
  exact h

theorem nodup_messageTableIdentity {messageTables : List MessageTableCoverage}
    (h : (messageTables.map messageTableKey).Nodup) :
    (messageTables.map messageTableIdentity).Nodup := by
  apply List.Nodup.of_map (fun identity : TableIdentity => (identity.1, identity.2.2))
  rw [List.map_map]
  exact h

theorem verifyMessageTable_ok {coverage : RestorationCoverage}
    (h : (coverage.allTables.map tableIdentity).Nodup) {table : MessageTableCoverage} :
    verifyMessageTable coverage table = .ok () ↔
      ∃ complete ∈ coverage.allTables, tableIdentity complete = messageTableIdentity table ∧
        completes coverage.formatVersion table complete = true := by
  unfold verifyMessageTable
  cases hfound : coverage.allTables.find? (tableIdentity · == messageTableIdentity table) with
  | none =>
    simp only [reduceCtorEq, false_iff]
    rintro ⟨complete, hcomplete, hidentity, _⟩
    simpa [hidentity] using List.find?_eq_none.mp hfound complete hcomplete
  | some complete =>
    obtain ⟨hcomplete, hidentity⟩ := (find?_key h).mp hfound
    simp only [require_ok]
    constructor
    · intro hcompletes
      exact ⟨complete, hcomplete, hidentity, hcompletes⟩
    · rintro ⟨other, hother, hsame, hcompletes⟩
      rw [(find?_key h).mpr ⟨hother, hsame⟩] at hfound
      obtain rfl := Option.some.inj hfound
      exact hcompletes

/-- The three table checks of the auditor, when no two tables share a key. -/
theorem tablesSound_iff {coverage : RestorationCoverage}
    (hmessage : (coverage.messageTables.map messageTableKey).Nodup)
    (hall : (coverage.allTables.map tableKey).Nodup) :
    (verifyTables coverage.formatVersion [] coverage.allTables = .ok () ∧
        messageTablesMatch coverage = true ∧
        coverage.messageTables.forM (verifyMessageTable coverage) = .ok ()) ↔
      TablesSound coverage.formatVersion coverage.messageTables coverage.allTables := by
  have hnodup := nodup_messageTableIdentity hmessage
  have hidentities := nodup_tableIdentity hall
  simp only [verifyTables_ok, forM_ok, verifyMessageTable_ok hidentities,
    messageTablesMatch, List.not_mem_nil, false_implies, implies_true, pairwise_distinct hall, and_true,
    hnodup, decide_true, Bool.true_and, Bool.and_eq_true, List.all_eq_true, List.contains_iff_mem,
    List.mem_map, messageRoleTables, List.mem_filter, decide_eq_true_eq, forall_exists_index,
    and_imp, forall_apply_eq_imp_iff₂]
  constructor
  · rintro ⟨hdescribed, ⟨hcovered, hlisted⟩, hcompleted⟩
    refine ⟨hdescribed, ?_, ?_⟩
    · intro table htable
      obtain ⟨complete, hcomplete, hidentity, hcompletes⟩ := hcompleted table htable
      obtain ⟨role, ⟨hmem, hrole⟩, hsame⟩ := hcovered table htable
      have hfound := (find?_key hidentities).mpr ⟨hmem, hsame⟩
      rw [(find?_key hidentities).mpr ⟨hcomplete, hidentity⟩] at hfound
      obtain rfl := Option.some.inj hfound
      exact ⟨complete, hcomplete, hrole, hidentity, hcompletes⟩
    · intro complete hcomplete hrole
      exact hlisted _ complete hcomplete hrole rfl
  · intro h
    refine ⟨h.described, ⟨?_, ?_⟩, ?_⟩
    · intro table htable
      obtain ⟨complete, hcomplete, hrole, hidentity, _⟩ := h.completed table htable
      exact ⟨complete, ⟨hcomplete, hrole⟩, hidentity⟩
    · rintro _ complete hcomplete hrole rfl
      exact h.listed complete hcomplete hrole
    · intro table htable
      obtain ⟨complete, hcomplete, _, hidentity, hcompletes⟩ := h.completed table htable
      exact ⟨complete, hcomplete, hidentity, hcompletes⟩

theorem countP_gaps {tables : List TableSchemaCoverage} :
    tables.countP isCandidateGap = tables.countP (·.role = .unhandledMessageCandidate) ↔
      ∀ table ∈ tables, table.availability = .partial_ →
        table.role = .unhandledMessageCandidate := by
  induction tables with
  | nil => simp
  | cons table tables ih =>
    have hle : tables.countP (·.role = .unhandledMessageCandidate) ≤
        tables.countP isCandidateGap := by
      apply List.countP_mono_left
      intro other _ hrole
      simp_all [isCandidateGap]
    rw [List.countP_cons, List.countP_cons, List.forall_mem_cons, ← ih]
    by_cases hrole : table.role = .unhandledMessageCandidate
    · simp [isCandidateGap, hrole]
    · by_cases hpartial : table.availability = .partial_
      · simp only [isCandidateGap, hpartial, hrole]
        simp
        omega
      · simp [isCandidateGap, hrole, hpartial]

theorem observedTableRows_eq (tables : List TableSchemaCoverage) :
    observedTableRows tables = min ((tables.map fun table =>
      if isUnavailable table then 0 else table.sourceRowCount.getD 0).sum) (2 ^ 64 - 1) := by
  have hfrom : ∀ start, tables.foldl (fun total table =>
      if isUnavailable table then total
      else saturatingAdd 64 total (table.sourceRowCount.getD 0)) (min start (2 ^ 64 - 1)) =
      min (start + (tables.map fun table =>
        if isUnavailable table then 0 else table.sourceRowCount.getD 0).sum) (2 ^ 64 - 1) := by
    induction tables with
    | nil => simp
    | cons table tables ih =>
      intro start
      rw [List.foldl_cons, List.map_cons, List.sum_cons, ← Nat.add_assoc]
      split_ifs with hunavailable
      · exact ih start
      · rw [← ih]
        congr 1
        unfold saturatingAdd
        omega
  simpa [observedTableRows] using hfrom 0

def statedRows (tables : List TableSchemaCoverage) : ℕ :=
  (tables.filterMap (·.sourceRowCount)).sum

theorem observedTableRows_described {tables : List TableSchemaCoverage} {formatVersion : ℕ}
    (hversion : 4 ≤ formatVersion)
    (h : ∀ table ∈ tables, wellDescribed formatVersion table = true) :
    observedTableRows tables = min (statedRows tables) (2 ^ 64 - 1) := by
  rw [observedTableRows_eq]
  congr 1
  induction tables with
  | nil => rfl
  | cons table tables ih =>
    rw [List.forall_mem_cons] at h
    have hhere := h.1
    simp only [wellDescribed, Nat.not_lt_of_le hversion, decide_false, Bool.false_or,
      Bool.and_eq_true, beq_iff_eq] at hhere
    rw [List.map_cons, List.sum_cons, ih h.2]
    cases hunavailable : isUnavailable table <;> cases hrows : table.sourceRowCount <;>
      simp_all [statedRows]

/-- What the three table checks establish without the merge's uniqueness check. -/
theorem tablesSound_of_checks {coverage : RestorationCoverage}
    (htables : verifyTables coverage.formatVersion [] coverage.allTables = .ok ())
    (hmatch : messageTablesMatch coverage = true)
    (hmessage : coverage.messageTables.forM (verifyMessageTable coverage) = .ok ()) :
    TablesSound coverage.formatVersion coverage.messageTables coverage.allTables ∧
      (coverage.messageTables.map messageTableSource).Nodup := by
  obtain ⟨hdescribed, -, hdistinct⟩ := verifyTables_ok.mp htables
  have hidentities : (coverage.allTables.map tableIdentity).Nodup := by
    rw [List.Nodup, List.pairwise_map]
    exact hdistinct.imp fun h => h.1
  simp only [forM_ok, verifyMessageTable_ok hidentities] at hmessage
  simp only [messageTablesMatch, Bool.and_eq_true, decide_eq_true_eq, List.all_eq_true,
    List.contains_iff_mem, List.mem_map, messageRoleTables, List.mem_filter, forall_exists_index,
    and_imp, forall_apply_eq_imp_iff₂] at hmatch
  obtain ⟨⟨hnodup, hcovered⟩, hlisted⟩ := hmatch
  have hsound : TablesSound coverage.formatVersion coverage.messageTables coverage.allTables := by
    refine ⟨hdescribed, ?_, ?_⟩
    · intro table htable
      obtain ⟨complete, hcomplete, hidentity, hcompletes⟩ := hmessage table htable
      obtain ⟨role, ⟨hmem, hrole⟩, hsame⟩ := hcovered table htable
      obtain rfl : role = complete :=
        List.inj_on_of_nodup_map hidentities hmem hcomplete (hsame.trans hidentity.symm)
      exact ⟨role, hcomplete, hrole, hidentity, hcompletes⟩
    · intro complete hcomplete hrole
      exact hlisted _ complete hcomplete hrole rfl
  refine ⟨hsound, ?_⟩
  -- Tables of one source are completed by tables of one source, which are one table.
  rw [List.nodup_map_iff_inj_on hnodup.of_map]
  intro left hleft right hright hsource
  obtain ⟨first, hfirst, hfirstRole, hfirstIdentity, _⟩ := hsound.completed left hleft
  obtain ⟨second, hsecond, hsecondRole, hsecondIdentity, _⟩ := hsound.completed right hright
  apply List.inj_on_of_nodup_map hnodup hleft hright
  rw [← hfirstIdentity, ← hsecondIdentity]
  by_contra hdifferent
  have hsame : (first.sourceSetId, first.sourceTableId) =
      (second.sourceSetId, second.sourceTableId) := by
    simp only [messageTableSource, Prod.mk.injEq] at hsource
    simp only [tableIdentity, messageTableIdentity, Prod.mk.injEq] at hfirstIdentity hsecondIdentity
    rw [hfirstIdentity.1, hfirstIdentity.2.2, hsecondIdentity.1, hsecondIdentity.2.2, hsource.1,
      hsource.2]
  have hpair := hdistinct.forall hfirst hsecond fun h => hdifferent (congrArg tableIdentity h)
  exact hpair.2 hfirstRole hsecondRole hsame

/-- The schemas counted over the message tables are those of the tables in their role. -/
theorem schemaCounts_eq {coverage : RestorationCoverage} (sha256 : List UInt8 → String)
    (hmessage : (coverage.messageTables.map messageTableKey).Nodup)
    (hall : (coverage.allTables.map tableKey).Nodup)
    (h : TablesSound coverage.formatVersion coverage.messageTables coverage.allTables) :
    countKeys ((messageRoleTables coverage.allTables).map (·.schemaFingerprint.getD "")) =
      countKeys (coverage.messageTables.map (messageSchemaIdentity sha256)) := by
  have hidentities := nodup_tableIdentity hall
  apply countKeys_perm
  apply List.Perm.symm
  apply map_perm_of_keys messageTableIdentity tableIdentity
    (nodup_messageTableIdentity hmessage)
  · exact (List.filter_sublist.map _).nodup hidentities
  · intro table htable
    obtain ⟨complete, hcomplete, hrole, hidentity, _⟩ := h.completed table htable
    exact ⟨complete, by simp [messageRoleTables, hcomplete, hrole], hidentity⟩
  · intro complete hcomplete
    simp only [messageRoleTables, List.mem_filter, decide_eq_true_eq] at hcomplete
    exact h.listed complete hcomplete.1 hcomplete.2
  · intro table htable complete hcomplete hsame
    simp only [messageRoleTables, List.mem_filter, decide_eq_true_eq] at hcomplete
    obtain ⟨other, hother, _, hidentity, hcompletes⟩ := h.completed table htable
    obtain rfl : other = complete :=
      List.inj_on_of_nodup_map hidentities hother hcomplete.1 (hidentity.trans hsame)
    simp only [completes, Bool.and_eq_true, beq_iff_eq] at hcompletes
    have hdescribed := h.described other hother
    simp only [wellDescribed, hcomplete.2, Bool.and_eq_true, bne_self_eq_false,
      Bool.false_or] at hdescribed
    rw [messageSchemaIdentity, ← hcompletes.1.2]
    obtain ⟨fingerprint, hfingerprint⟩ := Option.isSome_iff_exists.mp hdescribed.2
    simp [hfingerprint]

/-- The auditor's coverage check on a ledger whose counters a merge computed. -/
theorem verifyCoverage_iff {coverage : RestorationCoverage} {report : RestorationReport}
    {sha256 : List UInt8 → String} {databaseCount : ℕ} {messages : List CanonicalMessage}
    {artifacts : List CanonicalArtifact} {conversations : List CanonicalConversation}
    {participants : List CanonicalParticipant} {rejections : List RejectedRow}
    {cachedSurfaces : Option CachedSurfaces}
    (hmessage : (coverage.messageTables.map messageTableKey).Nodup)
    (hall : (coverage.allTables.map tableKey).Nodup)
    (hprofile : coverage.schemaProfileFingerprint =
      schemaProfileFingerprint sha256 (coverage.allTables.map (·.profile)))
    (hintegrity : report.integrity = calculateIntegrity sha256 databaseCount messages artifacts
      conversations participants rejections coverage cachedSurfaces) :
    verifyCoverage sha256 coverage report = .ok () ↔
      TablesSound coverage.formatVersion coverage.messageTables coverage.allTables ∧
        (∀ table ∈ coverage.allTables, table.availability = .partial_ →
          table.role = .unhandledMessageCandidate) ∧
        (4 ≤ coverage.formatVersion → min (statedRows coverage.allTables) (2 ^ 64 - 1) =
          statedRows coverage.allTables % 2 ^ 64) := by
  unfold verifyCoverage
  simp only [check_bind_ok, require_ok, hintegrity, calculateIntegrity, hprofile, beq_self_eq_true,
    Bool.true_and, Bool.and_true, Bool.and_eq_true, beq_iff_eq, countP_gaps, and_true,
    Bool.or_eq_true, decide_eq_true_eq, wrappingSum_eq]
  rw [← and_assoc, ← and_assoc, and_assoc (a := verifyTables _ _ _ = _),
    tablesSound_iff hmessage hall, and_assoc]
  apply and_congr_right
  intro hsound
  simp only [schemaCounts_eq sha256 hmessage hall hsound, true_and]
  apply and_congr_right
  intro _
  constructor
  · intro hrows hversion
    rw [← observedTableRows_described hversion hsound.described]
    exact hrows.resolve_left (Nat.not_lt_of_le hversion)
  · intro hrows
    by_cases hversion : 4 ≤ coverage.formatVersion
    · right
      rw [observedTableRows_described hversion hsound.described]
      exact hrows hversion
    · left
      omega

end Tables

theorem verifyDatabaseRecordCoverage_iff {report : RestorationReport}
    {coverage : RestorationCoverage} {databaseCoverage : RestorationDatabaseCoverage}
    (h : report.databaseCoverage = some databaseCoverage) :
    verifyDatabaseRecordCoverage report coverage = .ok () ↔
      ∀ table ∈ coverage.allTables,
        table.sourceSetId ∈ databaseCoverage.includedSourceSetIds := by
  simp [verifyDatabaseRecordCoverage, h]

section Rows

/-- Every restored or rejected row lies in a listed table, and no row is both. -/
structure RowsAccounted (messageTables : List MessageTableCoverage)
    (messages : List CanonicalMessage) (rejections : List RejectedRow) : Prop where
  restored : ∀ message ∈ messages, ∃ table ∈ messageTables,
    messageTableSource table = messageSource message
  rejected : ∀ row ∈ rejections, ∃ table ∈ messageTables,
    messageTableSource table = rejectionSource row
  rows : ∀ table ∈ messageTables,
    accountedRows messages rejections (messageTableSource table) = table.sourceRowCount
  apart : ∀ row ∈ rejections, ∀ message ∈ messages,
    messageSource message = rejectionSource row → row.sourceRowId ≠ some message.sourceRowId

theorem verifySourceRowAccounting_iff {coverage : RestorationCoverage}
    {messages : List CanonicalMessage} {rejections : List RejectedRow}
    (h : (coverage.messageTables.map messageTableSource).Nodup) :
    verifySourceRowAccounting coverage messages rejections = .ok () ↔
      RowsAccounted coverage.messageTables messages rejections := by
  have hreverse : (coverage.messageTables.reverse.map messageTableSource).Nodup := by
    rw [List.map_reverse, List.nodup_reverse]
    exact h
  have hexpected : ∀ table ∈ coverage.messageTables,
      expectedRows coverage.messageTables (messageTableSource table) =
        some table.sourceRowCount := by
    intro table htable
    rw [expectedRows, (find?_key hreverse).mpr ⟨List.mem_reverse.mpr htable, rfl⟩]
    rfl
  unfold verifySourceRowAccounting
  simp only [check_bind_ok, require_ok, List.all_eq_true, List.contains_iff_mem, List.mem_append,
    List.mem_map, or_imp, forall_and, forall_exists_index, and_imp, forall_apply_eq_imp_iff₂,
    beq_iff_eq, Bool.not_eq_true', List.any_eq_false, rejectsRestoredRow]
  constructor
  · rintro ⟨⟨hrestored, hrejected⟩, hrows, hapart⟩
    refine ⟨hrestored, hrejected, ?_, ?_⟩
    · intro table htable
      have hrow := hrows table htable
      rw [hexpected table htable, Option.some.injEq] at hrow
      exact hrow.symm
    · intro row hrow message hmessage hsource hid
      apply hapart row hrow
      simp only [hid, Option.any_some, List.any_eq_true, Bool.and_eq_true, beq_iff_eq]
      exact ⟨message, hmessage, hsource, rfl⟩
  · intro haccounted
    refine ⟨⟨haccounted.restored, haccounted.rejected⟩, ?_, ?_⟩
    · intro table htable
      rw [hexpected table htable, haccounted.rows table htable]
    · intro row hrow
      cases hid : row.sourceRowId with
      | none => simp
      | some rowId =>
        simp only [Option.any_some, List.any_eq_true, Bool.and_eq_true, beq_iff_eq]
        rintro ⟨message, hmessage, hsource, rfl⟩
        exact haccounted.apart row hrow message hmessage hsource hid

theorem RowsAccounted.congr {messageTables messageTables' : List MessageTableCoverage}
    {messages messages' : List CanonicalMessage} {rejections rejections' : List RejectedRow}
    (h : RowsAccounted messageTables messages rejections)
    (htables : ∀ table, table ∈ messageTables ↔ table ∈ messageTables')
    (hmessages : (messages.map unplaced).Perm (messages'.map unplaced))
    (hrejections : rejections.Perm rejections') :
    RowsAccounted messageTables' messages' rejections' := by
  have hsame : ∀ message ∈ messages', ∃ other ∈ messages,
      messageSource other = messageSource message ∧ other.sourceRowId = message.sourceRowId := by
    intro message hmessage
    have hmem := hmessages.mem_iff.mpr (List.mem_map_of_mem hmessage)
    obtain ⟨other, hother, hplaced⟩ := List.mem_map.mp hmem
    refine ⟨other, hother, ?_, ?_⟩
    · change messageSource (unplaced other) = messageSource (unplaced message)
      rw [hplaced]
    · change (unplaced other).sourceRowId = (unplaced message).sourceRowId
      rw [hplaced]
  have hcount : ∀ source, messages.countP (messageSource · = source) =
      messages'.countP (messageSource · = source) := by
    intro source
    have hplaced : ∀ values : List CanonicalMessage,
        values.countP (messageSource · = source) =
          (values.map unplaced).countP (messageSource · = source) := by
      intro values
      rw [List.countP_map]
      rfl
    rw [hplaced messages, hplaced messages', hmessages.countP_eq]
  refine ⟨?_, ?_, ?_, ?_⟩
  · intro message hmessage
    obtain ⟨other, hother, hsource, _⟩ := hsame message hmessage
    obtain ⟨table, htable, heq⟩ := h.restored other hother
    exact ⟨table, (htables table).mp htable, heq.trans hsource⟩
  · intro row hrow
    obtain ⟨table, htable, heq⟩ := h.rejected row (hrejections.mem_iff.mpr hrow)
    exact ⟨table, (htables table).mp htable, heq⟩
  · intro table htable
    rw [← h.rows table ((htables table).mpr htable), accountedRows, accountedRows, hcount,
      hrejections.countP_eq]
  · intro row hrow message hmessage hsource
    obtain ⟨other, hother, hsame, hid⟩ := hsame message hmessage
    rw [← hid]
    exact h.apart row (hrejections.mem_iff.mpr hrow) other hother (hsame.trans hsource)

end Rows

section Inputs

/-- A source set the merged evidence includes: restored, or still in the
snapshot and included before. Without evidence everything counts as included. -/
def Carried (previous fragment : RestorationReport) (sourceSet : String) : Prop :=
  sourceSet ∈ restoredSets fragment ∨ (sourceSet ∈ inventorySets fragment ∧
    ∀ coverage, previous.databaseCoverage = some coverage →
      sourceSet ∈ coverage.includedSourceSetIds)

theorem mem_included_merged {environment : Environment} {previous fragment merged : RestorationArchive}
    (h : mergeIncrementalArchive environment previous fragment = .ok merged) :
    ∃ coverage, merged.report.databaseCoverage = some coverage ∧ ∀ sourceSet,
      sourceSet ∈ coverage.includedSourceSetIds ↔
        Carried previous.report fragment.report sourceSet := by
  obtain ⟨trace, htrace⟩ := mergeIncrementalArchive_ok h
  obtain ⟨hacquisition, -, hselected, -⟩ := mergeScope_ok htrace.scope
  obtain ⟨hrestored, -, hinventory⟩ := mergeScope_sets htrace.scope
  obtain ⟨acquisition, state, hfound, hstate, -, hcoverage⟩ :=
    mergeDatabaseCoverage_ok htrace.databaseCoverage
  obtain rfl : trace.scope.acquisition = acquisition :=
    Option.some.inj (hacquisition.symm.trans hfound)
  refine ⟨trace.databaseCoverage, by rw [htrace.merged]; rfl, fun sourceSet => ?_⟩
  have hread : sourceSet ∈ trace.scope.acquisition.inventory →
      ((sourceSet ∈ state.fresh ∨ sourceSet ∈ state.stale) ↔
        ∀ coverage, previous.report.databaseCoverage = some coverage →
          sourceSet ∈ coverage.includedSourceSetIds) := by
    intro hsnapshot
    unfold previousFreshness at hstate
    cases hprevious : previous.report.databaseCoverage with
    | none =>
      simp only [hprevious, Except.ok.injEq] at hstate
      simp [← hstate, Freshness.legacy, hsnapshot]
    | some coverage =>
      simp only [hprevious] at hstate
      split_ifs at hstate
      obtain rfl := Except.ok.inj hstate
      simp [Freshness.ofCoverage, RestorationDatabaseCoverage.includedSourceSetIds]
  have hrequested : sourceSet ∈ trace.scope.selected → sourceSet ∈ trace.scope.requested :=
    successfullyRestored_subset hselected
  rw [hcoverage, Carried, ← hrestored, ← hinventory,
    RestorationDatabaseCoverage.includedSourceSetIds, ExtTreeSet.mem_ofList,
    List.contains_iff_mem, List.mem_append, MergeHistory.mem_coverage_fresh,
    MergeHistory.mem_coverage_stale, mem_fresh_update, mem_stale_update]
  by_cases hrestoredHere : sourceSet ∈ trace.scope.selected
  · simp [hrestoredHere, hrequested hrestoredHere]
  · by_cases hsnapshot : sourceSet ∈ trace.scope.acquisition.inventory
    · rw [← hread hsnapshot]
      by_cases hasked : sourceSet ∈ trace.scope.requested <;>
        simp [hrestoredHere, hsnapshot, hasked]
      tauto
    · by_cases hasked : sourceSet ∈ trace.scope.requested <;>
        simp [hrestoredHere, hsnapshot, hasked]

/-- Previous records of untouched source sets beside the fragment's. -/
def besides {α : Type} (sourceSet : α → String) (fragment : RestorationReport)
    (previous current : List α) : List α :=
  unaffected sourceSet (replacedSets fragment) previous ++ current

def mergedTables (previous fragment : RestorationArchive) : List TableSchemaCoverage :=
  besides (·.sourceSetId) fragment.report previous.coverage.allTables fragment.coverage.allTables

def mergedMessageTables (previous fragment : RestorationArchive) : List MessageTableCoverage :=
  besides (·.sourceSetId) fragment.report previous.coverage.messageTables
    fragment.coverage.messageTables

def mergedRows (previous fragment : RestorationArchive) : List CanonicalMessage :=
  besides (·.sourceSetId) fragment.report previous.messages fragment.messages

def mergedRejections (previous fragment : RestorationArchive) : List RejectedRow :=
  besides (·.sourceSetId) fragment.report previous.rejections fragment.rejections

/-- The messages of a merged archive, up to what ordering and resolution write. -/
theorem mergedRows_perm {environment : Environment} {previous fragment merged : RestorationArchive}
    (h : mergeIncrementalArchive environment previous fragment = .ok merged) :
    (merged.messages.map unplaced).Perm ((mergedRows previous fragment).map unplaced) ∧
      ((mergedRows previous fragment).map (·.canonicalId)).Nodup ∧
      ∀ message ∈ fragment.messages, message.sourceSetId ∈ restoredSets fragment.report := by
  obtain ⟨trace, htrace⟩ := mergeIncrementalArchive_ok h
  obtain ⟨hselected, haffected, -⟩ := mergeScope_sets htrace.scope
  have hledgers := mergeLedgers_ok.mp htrace.ledgers
  rw [hselected, haffected] at hledgers
  obtain ⟨messages, hmessages, hordered⟩ := hledgers.messages
  obtain ⟨hkept, hnodup, hrestored⟩ := mergeMessages_ok hmessages
  refine ⟨?_, hnodup, hrestored⟩
  rw [htrace.merged]
  simp only [hordered]
  exact (orderAndResolveMessages_perm messages).trans (hkept.map _)

/-- Inputs whose ledgers, side by side, account for every row inside the
evidence the merge carries, and hold no partly read table. -/
structure Accountable (previous fragment : RestorationArchive) : Prop where
  carried : ∀ table ∈ mergedTables previous fragment,
    Carried previous.report fragment.report table.sourceSetId
  readable : ∀ table ∈ mergedTables previous fragment, table.availability = .partial_ →
    table.role = .unhandledMessageCandidate
  tables : TablesSound fragment.coverage.formatVersion (mergedMessageTables previous fragment)
    (mergedTables previous fragment)
  rows : RowsAccounted (mergedMessageTables previous fragment) (mergedRows previous fragment)
    (mergedRejections previous fragment)
  counted : 4 ≤ fragment.coverage.formatVersion →
    min (statedRows (mergedTables previous fragment)) (2 ^ 64 - 1) =
      statedRows (mergedTables previous fragment) % 2 ^ 64

/-- A merged archive accounts for its messages. -/
structure MergeAccounting (environment : Environment)
    (previous fragment merged : RestorationArchive) : Prop where
  union : (merged.messages.map unplaced).Perm ((unaffected (·.sourceSetId)
    (replacedSets fragment.report) previous.messages ++ fragment.messages).map unplaced)
  disjoint : ∀ kept ∈ unaffected (·.sourceSetId) (replacedSets fragment.report) previous.messages,
    ∀ message ∈ fragment.messages, kept.canonicalId ≠ message.canonicalId
  replaced : ∀ message ∈ fragment.messages, message.sourceSetId ∈ restoredSets fragment.report
  included : ∀ message ∈ merged.messages, ∃ coverage,
    merged.report.databaseCoverage = some coverage ∧
      message.sourceSetId ∈ coverage.includedSourceSetIds
  unique : (merged.messages.map (·.canonicalId)).Nodup
  accounted : ∀ table ∈ merged.coverage.messageTables,
    accountedRows merged.messages merged.rejections (messageTableSource table) =
      table.sourceRowCount
  recordCoverage : verifyDatabaseRecordCoverage merged.report merged.coverage = .ok ()
  rowAccounting :
    verifySourceRowAccounting merged.coverage merged.messages merged.rejections = .ok ()
  coverage : verifyCoverage environment.sha256 merged.coverage merged.report = .ok ()

/-- A merge accounts for its messages exactly when its inputs are accountable. -/
theorem mergeAccounting_iff (environment : Environment)
    (previous fragment merged : RestorationArchive)
    (h : mergeIncrementalArchive environment previous fragment = .ok merged) :
    MergeAccounting environment previous fragment merged ↔ Accountable previous fragment := by
  obtain ⟨included, hincluded, hcarried⟩ := mem_included_merged h
  obtain ⟨hunion, hnodup, hrestored⟩ := mergedRows_perm h
  obtain ⟨trace, htrace⟩ := mergeIncrementalArchive_ok h
  obtain ⟨hselected, haffected, -⟩ := mergeScope_sets htrace.scope
  have hledgers := mergeLedgers_ok.mp htrace.ledgers
  rw [hselected, haffected] at hledgers
  obtain ⟨hrejections, -⟩ := mergeRejections_ok hledgers.rejections
  obtain ⟨hversion, hmessageTables, hallTables, hprofile, huniqueMessage, huniqueAll⟩ :=
    mergeCoverage_ok environment.sha256 hledgers.coverage
  rw [htrace.merged] at hincluded hunion ⊢
  have hmemMessage : ∀ table, table ∈ trace.ledgers.coverage.messageTables ↔
      table ∈ mergedMessageTables previous fragment := by
    intro table
    rw [hmessageTables, mem_sortBy]
    rfl
  have hmemAll : ∀ table, table ∈ trace.ledgers.coverage.allTables ↔
      table ∈ mergedTables previous fragment := by
    intro table
    rw [hallTables, mem_sortBy]
    rfl
  have hstated : statedRows trace.ledgers.coverage.allTables =
      statedRows (mergedTables previous fragment) := by
    rw [hallTables]
    exact ((sortBy_perm _ _).filterMap _).sum_nat
  have hcoverage : verifyCoverage environment.sha256 trace.ledgers.coverage
      (mergeReport previous.report fragment.report trace.integrity trace.databaseCoverage) =
        .ok () ↔ _ :=
    verifyCoverage_iff huniqueMessage huniqueAll hprofile htrace.integrity
  have hrows : verifySourceRowAccounting trace.ledgers.coverage trace.ledgers.messages
      trace.ledgers.rejections = .ok () ↔ _ :=
    verifySourceRowAccounting_iff huniqueMessage
  constructor
  · intro haccounting
    obtain ⟨hsound, hpartial, hcounted⟩ := hcoverage.mp haccounting.coverage
    have haccounted := hrows.mp haccounting.rowAccounting
    rw [hversion] at hsound hcounted
    refine ⟨?_, ?_, hsound.congr hmemMessage hmemAll,
      haccounted.congr hmemMessage hunion hrejections, ?_⟩
    · intro table htable
      have hrecord := haccounting.recordCoverage
      rw [verifyDatabaseRecordCoverage_iff hincluded] at hrecord
      exact (hcarried _).mp (hrecord table ((hmemAll table).mpr htable))
    · intro table htable
      exact hpartial table ((hmemAll table).mpr htable)
    · rw [← hstated]
      exact hcounted
  · intro haccountable
    have hsound : TablesSound trace.ledgers.coverage.formatVersion
        trace.ledgers.coverage.messageTables trace.ledgers.coverage.allTables := by
      rw [hversion]
      exact haccountable.tables.congr (fun table => (hmemMessage table).symm)
        (fun table => (hmemAll table).symm)
    have haccounted : RowsAccounted trace.ledgers.coverage.messageTables trace.ledgers.messages
        trace.ledgers.rejections :=
      haccountable.rows.congr (fun table => (hmemMessage table).symm) hunion.symm hrejections.symm
    have hrecord : ∀ table ∈ trace.ledgers.coverage.allTables,
        table.sourceSetId ∈ included.includedSourceSetIds := by
      intro table htable
      exact (hcarried _).mpr (haccountable.carried table ((hmemAll table).mp htable))
    refine ⟨hunion, ?_, hrestored, ?_, ?_, haccounted.rows, ?_, hrows.mpr haccounted, ?_⟩
    · intro kept hold message hnew hsame
      rw [mergedRows, besides, List.map_append, List.nodup_append'] at hnodup
      apply hnodup.2.2 (List.mem_map_of_mem hold)
      exact hsame ▸ List.mem_map_of_mem hnew
    · intro message hmessage
      obtain ⟨table, htable, hsource⟩ := haccounted.restored message hmessage
      obtain ⟨complete, hcomplete, -, hidentity, -⟩ := hsound.completed table htable
      refine ⟨included, hincluded, ?_⟩
      have hset : complete.sourceSetId = message.sourceSetId := by
        calc
          complete.sourceSetId = table.sourceSetId := congrArg Prod.fst hidentity
          _ = message.sourceSetId := congrArg Prod.fst hsource
      exact hset ▸ hrecord complete hcomplete
    · have hids : (trace.ledgers.messages.map (·.canonicalId)).Perm
          ((mergedRows previous fragment).map (·.canonicalId)) := by
        simpa [List.map_map, Function.comp_def, unplaced] using
          hunion.map CanonicalMessage.canonicalId
      exact hids.nodup_iff.mpr hnodup
    · exact (verifyDatabaseRecordCoverage_iff hincluded).mpr hrecord
    · refine hcoverage.mpr ⟨hsound, ?_, ?_⟩
      · intro table htable
        exact haccountable.readable table ((hmemAll table).mp htable)
      · rw [hversion, hstated]
        exact haccountable.counted

/-- An archive that passes the three checks itself. -/
structure SelfAccounting (environment : Environment) (archive : RestorationArchive) : Prop where
  recordCoverage : verifyDatabaseRecordCoverage archive.report archive.coverage = .ok ()
  rowAccounting :
    verifySourceRowAccounting archive.coverage archive.messages archive.rejections = .ok ()
  coverage : verifyCoverage environment.sha256 archive.coverage archive.report = .ok ()

theorem SelfAccounting.sound {environment : Environment} {archive : RestorationArchive}
    (h : SelfAccounting environment archive) :
    TablesSound archive.coverage.formatVersion archive.coverage.messageTables
        archive.coverage.allTables ∧
      RowsAccounted archive.coverage.messageTables archive.messages archive.rejections := by
  have hcoverage := h.coverage
  simp only [verifyCoverage, check_bind_ok, require_ok] at hcoverage
  obtain ⟨htables, hmatch, hmessage, -⟩ := hcoverage
  obtain ⟨hsound, hnodup⟩ := tablesSound_of_checks htables hmatch hmessage
  exact ⟨hsound, (verifySourceRowAccounting_iff hnodup).mp h.rowAccounting⟩

theorem TablesSound.besides {formatVersion : ℕ} {fragment : RestorationReport}
    {old new : List MessageTableCoverage} {oldTables newTables : List TableSchemaCoverage}
    (hold : TablesSound formatVersion old oldTables)
    (hnew : TablesSound formatVersion new newTables) :
    TablesSound formatVersion (besides (·.sourceSetId) fragment old new)
      (besides (·.sourceSetId) fragment oldTables newTables) := by
  simp only [Audit.besides]
  refine ⟨?_, ?_, ?_⟩
  · intro table htable
    rw [List.mem_append, mem_unaffected] at htable
    cases htable with
    | inl hkept => exact hold.described table hkept.1
    | inr hcurrent => exact hnew.described table hcurrent
  · intro table htable
    rw [List.mem_append, mem_unaffected] at htable
    cases htable with
    | inl hkept =>
      obtain ⟨complete, hcomplete, hrole, hidentity, hcompletes⟩ := hold.completed table hkept.1
      have hset : complete.sourceSetId = table.sourceSetId := congrArg Prod.fst hidentity
      refine ⟨complete, ?_, hrole, hidentity, hcompletes⟩
      rw [List.mem_append, mem_unaffected]
      exact .inl ⟨hcomplete, hset ▸ hkept.2⟩
    | inr hcurrent =>
      obtain ⟨complete, hcomplete, hrest⟩ := hnew.completed table hcurrent
      exact ⟨complete, List.mem_append_right _ hcomplete, hrest⟩
  · intro complete hcomplete hrole
    rw [List.mem_append, mem_unaffected] at hcomplete
    cases hcomplete with
    | inl hkept =>
      obtain ⟨table, htable, hidentity⟩ := hold.listed complete hkept.1 hrole
      have hset : table.sourceSetId = complete.sourceSetId := congrArg Prod.fst hidentity
      refine ⟨table, ?_, hidentity⟩
      rw [List.mem_append, mem_unaffected]
      exact .inl ⟨htable, hset ▸ hkept.2⟩
    | inr hcurrent =>
      obtain ⟨table, htable, hidentity⟩ := hnew.listed complete hcurrent hrole
      exact ⟨table, List.mem_append_right _ htable, hidentity⟩

theorem countP_unaffected {α : Type} (key : α → SourceTable) (sourceSet : α → String)
    (hkey : ∀ a, (key a).1 = sourceSet a) (affected : SourceSets) (values : List α)
    (source : SourceTable) :
    (unaffected sourceSet affected values).countP (key · = source) =
      if source.1 ∈ affected then 0 else values.countP (key · = source) := by
  rw [unaffected, List.countP_filter]
  split_ifs with haffected
  · rw [List.countP_eq_zero]
    rintro a _ ha
    simp only [Bool.and_eq_true, decide_eq_true_eq, Bool.not_eq_true'] at ha
    obtain ⟨rfl, hkept⟩ := ha
    rw [hkey, ← ExtTreeSet.contains_iff_mem, hkept] at haffected
    cases haffected
  · apply List.countP_congr
    intro a _
    by_cases ha : key a = source
    · have hkept : affected.contains (sourceSet a) = false := by
        rw [← hkey a, ha]
        simpa [← ExtTreeSet.contains_iff_mem] using haffected
      simp [ha, hkept]
    · simp [ha]

/-- Rows of kept tables stay with them, because a fragment's rows lie in replaced sets. -/
theorem RowsAccounted.besides {fragment : RestorationReport}
    {old new : List MessageTableCoverage} {oldMessages newMessages : List CanonicalMessage}
    {oldRejections newRejections : List RejectedRow}
    (hold : RowsAccounted old oldMessages oldRejections)
    (hnew : RowsAccounted new newMessages newRejections)
    (hinside : ∀ table ∈ new, table.sourceSetId ∈ replacedSets fragment) :
    RowsAccounted (besides (·.sourceSetId) fragment old new)
      (besides (·.sourceSetId) fragment oldMessages newMessages)
      (besides (·.sourceSetId) fragment oldRejections newRejections) := by
  have hmessages : ∀ message ∈ newMessages, message.sourceSetId ∈ replacedSets fragment := by
    intro message hmessage
    obtain ⟨table, htable, hsource⟩ := hnew.restored message hmessage
    have hset : table.sourceSetId = message.sourceSetId := congrArg Prod.fst hsource
    exact hset ▸ hinside table htable
  have hrejections : ∀ row ∈ newRejections, row.sourceSetId ∈ replacedSets fragment := by
    intro row hrow
    obtain ⟨table, htable, hsource⟩ := hnew.rejected row hrow
    have hset : table.sourceSetId = row.sourceSetId := congrArg Prod.fst hsource
    exact hset ▸ hinside table htable
  have hcount : ∀ source : SourceTable, accountedRows
      (unaffected (·.sourceSetId) (replacedSets fragment) oldMessages ++ newMessages)
      (unaffected (·.sourceSetId) (replacedSets fragment) oldRejections ++ newRejections) source =
      if source.1 ∈ replacedSets fragment then accountedRows newMessages newRejections source
      else accountedRows oldMessages oldRejections source := by
    intro source
    simp only [accountedRows, List.countP_append,
      countP_unaffected messageSource (·.sourceSetId) (fun _ => rfl),
      countP_unaffected rejectionSource (·.sourceSetId) (fun _ => rfl)]
    by_cases hreplaced : source.1 ∈ replacedSets fragment
    · simp [hreplaced]
    · have hnoMessage : newMessages.countP (messageSource · = source) = 0 := by
        rw [List.countP_eq_zero]
        intro message hmessage hsource
        exact hreplaced (of_decide_eq_true hsource ▸ hmessages message hmessage)
      have hnoRejection : newRejections.countP (rejectionSource · = source) = 0 := by
        rw [List.countP_eq_zero]
        intro row hrow hsource
        exact hreplaced (of_decide_eq_true hsource ▸ hrejections row hrow)
      simp [hreplaced, hnoMessage, hnoRejection]
  simp only [Audit.besides]
  refine ⟨?_, ?_, ?_, ?_⟩
  · intro message hmessage
    rw [List.mem_append, mem_unaffected] at hmessage
    cases hmessage with
    | inl hkept =>
      obtain ⟨table, htable, hsource⟩ := hold.restored message hkept.1
      have hset : table.sourceSetId = message.sourceSetId := congrArg Prod.fst hsource
      refine ⟨table, ?_, hsource⟩
      rw [List.mem_append, mem_unaffected]
      exact .inl ⟨htable, hset ▸ hkept.2⟩
    | inr hcurrent =>
      obtain ⟨table, htable, hsource⟩ := hnew.restored message hcurrent
      exact ⟨table, List.mem_append_right _ htable, hsource⟩
  · intro row hrow
    rw [List.mem_append, mem_unaffected] at hrow
    cases hrow with
    | inl hkept =>
      obtain ⟨table, htable, hsource⟩ := hold.rejected row hkept.1
      have hset : table.sourceSetId = row.sourceSetId := congrArg Prod.fst hsource
      refine ⟨table, ?_, hsource⟩
      rw [List.mem_append, mem_unaffected]
      exact .inl ⟨htable, hset ▸ hkept.2⟩
    | inr hcurrent =>
      obtain ⟨table, htable, hsource⟩ := hnew.rejected row hcurrent
      exact ⟨table, List.mem_append_right _ htable, hsource⟩
  · intro table htable
    rw [hcount]
    rw [List.mem_append, mem_unaffected] at htable
    cases htable with
    | inl hkept =>
      rw [if_neg (show (messageTableSource table).1 ∉ _ from hkept.2)]
      exact hold.rows table hkept.1
    | inr hcurrent =>
      rw [if_pos (show (messageTableSource table).1 ∈ _ from hinside table hcurrent)]
      exact hnew.rows table hcurrent
  · intro row hrow message hmessage hsource
    have hset : message.sourceSetId = row.sourceSetId := congrArg Prod.fst hsource
    rw [List.mem_append, mem_unaffected] at hrow hmessage
    cases hrow with
    | inl hkept =>
      cases hmessage with
      | inl hkeptMessage => exact hold.apart row hkept.1 message hkeptMessage.1 hsource
      | inr hcurrent => exact absurd (hset ▸ hmessages message hcurrent) hkept.2
    | inr hcurrent =>
      cases hmessage with
      | inl hkeptMessage => exact absurd (hset.symm ▸ hrejections row hcurrent) hkeptMessage.2
      | inr hcurrentMessage => exact hnew.apart row hcurrent message hcurrentMessage hsource

/-- Inputs that pass the checks themselves are accountable as soon as every
kept table is still in the inventory, none is partly read and totals fit. -/
theorem SelfAccounting.accountable {environment : Environment}
    {previous fragment : RestorationArchive} (hprevious : SelfAccounting environment previous)
    (hfragment : SelfAccounting environment fragment)
    (hversion : previous.coverage.formatVersion = fragment.coverage.formatVersion)
    (hinside : ∀ table ∈ fragment.coverage.allTables,
      table.sourceSetId ∈ restoredSets fragment.report)
    (hinventory : ∀ table ∈ previous.coverage.allTables,
      table.sourceSetId ∉ replacedSets fragment.report →
        table.sourceSetId ∈ inventorySets fragment.report)
    (hreadable : ∀ table ∈ mergedTables previous fragment, table.availability = .partial_ →
      table.role = .unhandledMessageCandidate)
    (hstated : statedRows (mergedTables previous fragment) < 2 ^ 64) :
    Accountable previous fragment := by
  obtain ⟨hprevTables, hprevRows⟩ := hprevious.sound
  obtain ⟨hfragTables, hfragRows⟩ := hfragment.sound
  have hreplaced : ∀ sourceSet ∈ restoredSets fragment.report,
      sourceSet ∈ replacedSets fragment.report := by
    intro sourceSet hmem
    simp [replacedSets, hmem]
  refine ⟨?_, hreadable, ?_, ?_, ?_⟩
  · intro table htable
    rw [mergedTables, besides, List.mem_append, mem_unaffected] at htable
    cases htable with
    | inl hkept =>
      right
      refine ⟨hinventory table hkept.1 hkept.2, ?_⟩
      intro coverage hcoverage
      exact (verifyDatabaseRecordCoverage_iff hcoverage).mp hprevious.recordCoverage table hkept.1
    | inr hcurrent => exact .inl (hinside table hcurrent)
  · rw [hversion] at hprevTables
    exact hprevTables.besides hfragTables
  · apply hprevRows.besides hfragRows
    intro table htable
    obtain ⟨complete, hcomplete, -, hidentity, -⟩ := hfragTables.completed table htable
    have hset : complete.sourceSetId = table.sourceSetId := congrArg Prod.fst hidentity
    exact hset ▸ hreplaced _ (hinside complete hcomplete)
  · intro _
    omega

end Inputs

/-! A bootstrap with one message table, which may have been read in part, and a
fragment that restores a second, empty database. -/

section Samples

def chatSchema : String := "9f7bae4ca09bcec739c63728f7643c3788bce58f89d67422c404f46c984d0437"

def chatProfile : String := "daf40426d690b55d2d2589b1c2bdd7f8e3728d0bea9de9b16c18586c6ac910fd"

def chatTable (availability : TableCoverageAvailability) : TableSchemaCoverage where
  sourceSetId := "set-a"
  sourceLogicalPath := "message/message_0.db"
  sourceTableId := "table-1"
  sourceTableName := "Msg_1"
  columns := ["local_id", "server_id", "message_content"]
  sourceRowCount := some 0
  schemaFingerprint := some chatSchema
  role := .message
  classificationReason := "known_message_schema"
  availability := availability
  limitationCode :=
    if availability = .partial_ then some "unreadableSourceRowsOmitted" else none

def chatEnvironment : Environment where
  sha256 bytes :=
    if bytes = hashField (utf8 "greenbubbles-schema-profile-v1") ++
        hashField (utf8 "message/message_0.db") ++ hashField (utf8 "Msg_1") ++
        hashField (utf8 chatSchema) then chatProfile
    else sampleEnvironment.sha256 bytes
  relocate := sampleEnvironment.relocate

def chatArchive (availability : TableCoverageAvailability) : RestorationArchive :=
  let report := emptyReport "first" MergeHistory.bootstrapAcquisition .authoritative
    (some MergeHistory.firstDatabaseCoverage)
  let archive := emptyArchive { report with
    integrity := { RestorationIntegrity.empty with
      databaseCount := 1
      messageTableCount := 1
      messageCandidateGapCount := if availability = .partial_ then 1 else 0
      tableRoleCounts := countKeys ["message"]
      tableClassificationReasonCounts := countKeys ["known_message_schema"]
      messageSchemaCounts := countKeys [chatSchema] } }
  { archive with
    coverage := { emptyCoverage with
      schemaProfileFingerprint := some chatProfile
      allTables := [chatTable availability]
      messageTables :=
        [{ sourceSetId := "set-a"
           sourceLogicalPath := "message/message_0.db"
           sourceTableId := "table-1"
           sourceTableName := "Msg_1"
           sourceRowCount := 0
           columns := ["local_id", "server_id", "message_content"]
           schemaFingerprint := some chatSchema }] } }

def secondDatabaseFragment : RestorationArchive :=
  emptyArchive (emptyReport "second"
    { mode := .incremental
      previousSourceFingerprint := some "first"
      changedSourceSetIds := ["set-b"]
      reconciliationSourceSetIds := []
      deletedSourceSetIds := []
      sourceSets := [MergeHistory.firstDatabase, MergeHistory.secondDatabase] }
    .incrementalFragment
    (some
      { formatVersion := 1
        totalDatabaseCount := 2
        attemptedDatabaseCount := 1
        restoredDatabaseCount := 1
        unavailableDatabaseCount := 0
        preservedStaleDatabaseCount := 0
        authoritativeDatabaseCoverage := false
        snapshotSourceSetIds := ["set-a", "set-b"]
        attemptedSourceSetIds := ["set-b"]
        freshSourceSetIds := ["set-b"]
        unavailableSourceSetIds := []
        preservedStaleSourceSetIds := []
        unavailableDatabases := [] }))

theorem chatArchive_selfAccounting {availability : TableCoverageAvailability}
    (h : availability = .complete ∨ availability = .partial_) :
    SelfAccounting chatEnvironment (chatArchive availability) := by
  rcases h with rfl | rfl
  · exact ⟨by decide +kernel, by decide +kernel, by decide +kernel⟩
  · exact ⟨by decide +kernel, by decide +kernel, by decide +kernel⟩

theorem secondDatabaseFragment_selfAccounting :
    SelfAccounting chatEnvironment secondDatabaseFragment :=
  ⟨by decide +kernel, by decide +kernel, by decide +kernel⟩

/-- With the table read completely the merge accounts for everything. -/
theorem mergeAccounting_of_complete_table :
    ∃ merged, mergeIncrementalArchive chatEnvironment (chatArchive .complete)
        secondDatabaseFragment = .ok merged ∧
      MergeAccounting chatEnvironment (chatArchive .complete) secondDatabaseFragment merged := by
  obtain ⟨merged, hmerged⟩ := merges_of_isOk chatEnvironment (chatArchive .complete)
    secondDatabaseFragment (by decide +kernel)
  refine ⟨merged, hmerged, ?_⟩
  rw [mergeAccounting_iff _ _ _ _ hmerged]
  exact (chatArchive_selfAccounting (.inl rfl)).accountable
    secondDatabaseFragment_selfAccounting rfl (by decide +kernel) (by decide +kernel)
    (by decide +kernel) (by decide +kernel)

/-- With the table read in part the merged counters drop its gap: both inputs
pass the checks, the merged archive does not. -/
theorem mergeAccounting_fails_for_partial_table :
    SelfAccounting chatEnvironment (chatArchive .partial_) ∧
      SelfAccounting chatEnvironment secondDatabaseFragment ∧
      ∃ merged, mergeIncrementalArchive chatEnvironment (chatArchive .partial_)
          secondDatabaseFragment = .ok merged ∧
        ¬MergeAccounting chatEnvironment (chatArchive .partial_) secondDatabaseFragment merged := by
  refine ⟨chatArchive_selfAccounting (.inr rfl), secondDatabaseFragment_selfAccounting, ?_⟩
  obtain ⟨merged, hmerged⟩ := merges_of_isOk chatEnvironment (chatArchive .partial_)
    secondDatabaseFragment (by decide +kernel)
  refine ⟨merged, hmerged, fun haccounting => ?_⟩
  have hrefused : (mergeIncrementalArchive chatEnvironment (chatArchive .partial_)
      secondDatabaseFragment >>= fun merged =>
        verifyCoverage chatEnvironment.sha256 merged.coverage merged.report) =
      .error (.integrity "coverage counts do not match restoration integrity") := by
    decide +kernel
  rw [hmerged] at hrefused
  have haccepted := haccounting.coverage.symm.trans hrefused
  cases haccepted

end Samples

end GreenBubbles.Audit
