import GreenBubbles.Archive.Schema
import GreenBubbles.Merge.Messages

/-! # Merging rejections, table coverage and cached surfaces -/
namespace GreenBubbles.Merge

open Std Archive Library.Ordered

variable (sha256 : List UInt8 → String)

def rejectionOrder (row : RejectedRow) : String × String × Option ℤ × String :=
  (row.sourceSetId, row.sourceTableId, row.sourceRowId, row.reason)

def mergeRejections (previous fragment : List RejectedRow) (selected affected : SourceSets) :
    Except RestoreError (List RejectedRow) := do
  requireSelected (·.sourceSetId) selected
    "incremental fragment contains a rejection from an unselected source set" fragment
  return sortBy rejectionOrder (unaffected (·.sourceSetId) affected previous ++ fragment)

theorem mergeRejections_ok {previous fragment merged : List RejectedRow}
    {selected affected : SourceSets}
    (h : mergeRejections previous fragment selected affected = .ok merged) :
    merged.Perm (unaffected (·.sourceSetId) affected previous ++ fragment) ∧
      ∀ row ∈ fragment, row.sourceSetId ∈ selected := by
  unfold mergeRejections at h
  obtain ⟨_, hselected, h⟩ := bind_ok.mp h
  obtain rfl := Except.ok.inj h
  exact ⟨sortBy_perm _ _, requireSelected_ok.mp hselected⟩

/-! Counters over a ledger. -/

def increment (counts : ExtTreeMap String ℕ) (key : String) : ExtTreeMap String ℕ :=
  counts.insert key (counts.getD key 0 + 1)

def countKeys (keys : List String) : ExtTreeMap String ℕ := keys.foldl increment ∅

theorem getElem?_countsFrom (keys : List String) (counts : ExtTreeMap String ℕ) (key : String) :
    (keys.foldl increment counts)[key]? =
      if key ∈ keys then some (counts.getD key 0 + keys.count key) else counts[key]? := by
  induction keys generalizing counts with
  | nil => simp
  | cons first keys ih =>
    rw [List.foldl_cons, ih, increment, ExtTreeMap.getD_insert, ExtTreeMap.getElem?_insert]
    by_cases hfirst : first = key
    · subst hfirst
      by_cases hmem : first ∈ keys
      · simp [hmem]
        omega
      · simp [hmem, List.count_eq_zero_of_not_mem hmem]
    · have hne : key ≠ first := Ne.symm hfirst
      simp [hfirst, hne]

/-- Counters do not depend on the order of a ledger. -/
theorem countKeys_perm {left right : List String} (h : left.Perm right) :
    countKeys left = countKeys right := by
  apply ExtTreeMap.ext_getElem?
  intro key
  rw [countKeys, countKeys, getElem?_countsFrom, getElem?_countsFrom, h.count_eq]
  simp only [h.mem_iff]

def logicalTypeKey (message : CanonicalMessage) : String :=
  match message.logicalType with
  | some value => toString value
  | none => "missing"

def subTypeKey (message : CanonicalMessage) : String :=
  match message.logicalType, message.subType with
  | some logical, some sub => toString logical ++ ":" ++ toString sub
  | _, _ => "missing"

def unknownReason (message : CanonicalMessage) : Option String :=
  match message.typedPayload with
  | .unknown reason => some reason
  | .decoded _ => none

def semanticGapReason (message : CanonicalMessage) : Option String :=
  if message.semanticDecodeState ≠ .complete then
    some (message.semanticGapReason.getD "unspecified semantic coverage gap")
  else none

def countUnknownReasons (messages : List CanonicalMessage) : ExtTreeMap String ℕ :=
  countKeys (messages.filterMap unknownReason)

def countSemanticGaps (messages : List CanonicalMessage) : ExtTreeMap String ℕ :=
  countKeys (messages.filterMap semanticGapReason)

def messageTableOrder (table : MessageTableCoverage) : String × String × String :=
  (table.sourceLogicalPath, table.sourceTableName, table.sourceSetId)

def tableOrder (table : TableSchemaCoverage) : String × String × String :=
  (table.sourceLogicalPath, table.sourceTableName, table.sourceSetId)

def messageTableKey (table : MessageTableCoverage) : String × String :=
  (table.sourceSetId, table.sourceTableId)

def tableKey (table : TableSchemaCoverage) : String × String :=
  (table.sourceSetId, table.sourceTableId)

def ensureUniqueTableCoverage (messageTables : List MessageTableCoverage)
    (allTables : List TableSchemaCoverage) : Except RestoreError Unit :=
  if (messageTables.map messageTableKey).Nodup ∧ (allTables.map tableKey).Nodup then .ok ()
  else .error (.integrity "merged schema coverage contains duplicate table identities")

def mergeCoverage (previous fragment : RestorationCoverage) (affected : SourceSets)
    (messages : List CanonicalMessage) : Except RestoreError RestorationCoverage := do
  validateRestorationCoverageSchema sha256 previous
  validateRestorationCoverageSchema sha256 fragment
  let messageTables := sortBy messageTableOrder
    (unaffected (·.sourceSetId) affected previous.messageTables ++ fragment.messageTables)
  let allTables := sortBy tableOrder
    (unaffected (·.sourceSetId) affected previous.allTables ++ fragment.allTables)
  ensureUniqueTableCoverage messageTables allTables
  return {
    formatVersion := fragment.formatVersion
    decoderName := fragment.decoderName
    decoderVersion := fragment.decoderVersion
    snapshotManifestFormatVersion := fragment.snapshotManifestFormatVersion
    schemaProfileFingerprint :=
      schemaProfileFingerprint sha256 (allTables.map (·.profile))
    messageTables := messageTables
    allTables := allTables
    logicalTypeCounts := countKeys (messages.map logicalTypeKey)
    logicalSubTypeCounts := countKeys (messages.map subTypeKey)
    unknownPayloadReasonCounts := countUnknownReasons messages
    semanticGapReasonCounts := countSemanticGaps messages }

theorem mergeCoverage_ok {previous fragment merged : RestorationCoverage} {affected : SourceSets}
    {messages : List CanonicalMessage}
    (h : mergeCoverage sha256 previous fragment affected messages = .ok merged) :
    merged.formatVersion = fragment.formatVersion ∧
      merged.messageTables = sortBy messageTableOrder
        (unaffected (·.sourceSetId) affected previous.messageTables ++ fragment.messageTables) ∧
      merged.allTables = sortBy tableOrder
        (unaffected (·.sourceSetId) affected previous.allTables ++ fragment.allTables) ∧
      merged.schemaProfileFingerprint =
        schemaProfileFingerprint sha256 (merged.allTables.map (·.profile)) ∧
      (merged.messageTables.map messageTableKey).Nodup ∧
      (merged.allTables.map tableKey).Nodup := by
  unfold mergeCoverage at h
  obtain ⟨_, _, h⟩ := bind_ok.mp h
  obtain ⟨_, _, h⟩ := bind_ok.mp h
  obtain ⟨_, hunique, h⟩ := bind_ok.mp h
  obtain rfl := Except.ok.inj h
  unfold ensureUniqueTableCoverage at hunique
  split_ifs at hunique with hnodup
  exact ⟨rfl, rfl, rfl, rfl, hnodup.1, hnodup.2⟩

def cachedTableOrder (table : CachedSurfaceTableCoverage) : String × String × String :=
  (table.sourceLogicalPath, table.sourceTableName, table.sourceSetId)

def cachedTableKey (table : CachedSurfaceTableCoverage) : String × String :=
  (table.sourceSetId, table.sourceTableId)

/-- Moments or interactions: untouched previous ones and all of the fragment's. -/
def mergeCachedRecords {α : Type} (canonicalId sourceSet : α → String) (kind : String)
    (previous fragment : List α) (selected affected : SourceSets) :
    Except RestoreError (List α) := do
  let kept ← insertAll canonicalId kind ∅ (unaffected sourceSet affected previous)
  requireSelected sourceSet selected
    ("incremental fragment contains a " ++ kind ++ " from an unselected source set") fragment
  let merged ← insertAll canonicalId kind kept fragment
  return records merged

def tableGaps (tables : List CachedSurfaceTableCoverage) : ℕ :=
  wrappingSum 64 (tables.map fun table => table.sourceRowCount - table.restoredRowCount)

theorem tableGaps_perm {left right : List CachedSurfaceTableCoverage} (h : left.Perm right) :
    tableGaps left = tableGaps right := by
  unfold tableGaps
  rw [wrappingSum_eq, wrappingSum_eq, (h.map _).sum_nat]

/-- Omissions an input reports beyond the gaps of its tables. -/
def residualOmissions (coverage : CachedSurfaceCoverage) : ℕ :=
  coverage.omittedRowCount - tableGaps coverage.tables

def mergeCachedTables (previous fragment : Option CachedSurfaces)
    (selected affected : SourceSets) : Except RestoreError (List CachedSurfaceTableCoverage) := do
  let fragmentTables := (fragment.map (·.coverage.tables)).getD []
  requireSelected (·.sourceSetId) selected
    "incremental fragment contains cached-surface coverage from an unselected source set"
    fragmentTables
  let tables := sortBy cachedTableOrder
    (unaffected (·.sourceSetId) affected ((previous.map (·.coverage.tables)).getD []) ++
      fragmentTables)
  if ¬(tables.map cachedTableKey).Nodup then
    throw (.integrity "merged cached-surface coverage contains duplicate table identities")
  return tables

theorem mergeCachedTables_ok {previous fragment : Option CachedSurfaces}
    {selected affected : SourceSets} {tables : List CachedSurfaceTableCoverage}
    (h : mergeCachedTables previous fragment selected affected = .ok tables) :
    tables.Perm (unaffected (·.sourceSetId) affected ((previous.map (·.coverage.tables)).getD []) ++
      (fragment.map (·.coverage.tables)).getD []) := by
  unfold mergeCachedTables at h
  obtain ⟨_, h⟩ := check_bind_ok.mp h
  simp only at h
  split_ifs at h
  · obtain rfl := Except.ok.inj h
    exact sortBy_perm _ _
  · simp [throw, throwThe, MonadExceptOf.throw, bind, Except.bind] at h

def cachedWasReobserved (previous fragment : Option CachedSurfaces)
    (selected affected : SourceSets) : Bool :=
  previous.any (fun surfaces => surfaces.coverage.tables.any fun table =>
      affected.contains table.sourceSetId) ||
    fragment.any (fun surfaces => surfaces.coverage.tables.any fun table =>
      selected.contains table.sourceSetId)

/-- The coverage document of merged cached surfaces. -/
def cachedCoverage (previous fragment : Option CachedSurfaces) (reobserved : Bool)
    (observedAt : String) (moments : List CanonicalCachedMoment)
    (interactions : List CanonicalCachedMomentInteraction)
    (tables : List CachedSurfaceTableCoverage) : CachedSurfaceCoverage :=
  let residual (surfaces : Option CachedSurfaces) :=
    (surfaces.map fun surfaces => residualOmissions surfaces.coverage).getD 0
  let omittedRowCount :=
    saturatingAdd 64 (tableGaps tables) (saturatingAdd 64 (residual previous) (residual fragment))
  let codes (surfaces : Option CachedSurfaces) :=
    (surfaces.map (·.coverage.limitationCodes)).getD []
  let limitationCodes : SourceSets :=
    .ofList (codes previous ++ codes fragment ++ tables.filterMap (·.limitationCode))
  { formatVersion :=
      ((fragment <|> previous).map (·.coverage.formatVersion)).getD 1
    schemaProfileFingerprint := schemaProfileFingerprint sha256 (tables.map (·.profile))
    observedAt := observedAt
    sourceDatabasePresent :=
      !tables.isEmpty ||
        (!reobserved && previous.any (·.coverage.sourceDatabasePresent)) ||
        (reobserved && fragment.any (·.coverage.sourceDatabasePresent))
    momentCount := moments.length
    interactionCount := interactions.length
    semanticGapCount := moments.countP (·.semanticDecodeState ≠ .complete)
    omittedRowCount := omittedRowCount
    limitationCodes :=
      (if 0 < omittedRowCount then limitationCodes.insert cachedRowsOmitted
        else limitationCodes.erase cachedRowsOmitted).toList
    tables := tables }

def loadCachedSurfaces (surfaces : Option CachedSurfaces) : Except RestoreError Unit :=
  match surfaces with
  | none => .ok ()
  | some surfaces => validateCachedCoverageSchema sha256 surfaces.coverage

def mergeCachedSurfaces (previous fragment : Option CachedSurfaces)
    (selected affected : SourceSets) : Except RestoreError (Option CachedSurfaces) := do
  loadCachedSurfaces sha256 previous
  loadCachedSurfaces sha256 fragment
  let moments ← mergeCachedRecords CanonicalCachedMoment.canonicalId (·.sourceSetId)
    "cached moment" ((previous.map (·.moments)).getD []) ((fragment.map (·.moments)).getD [])
    selected affected
  let interactions ← mergeCachedRecords CanonicalCachedMomentInteraction.canonicalId
    (·.sourceSetId) "cached moment interaction" ((previous.map (·.interactions)).getD [])
    ((fragment.map (·.interactions)).getD []) selected affected
  let tables ← mergeCachedTables previous fragment selected affected
  let reobserved := cachedWasReobserved previous fragment selected affected
  let observed := if reobserved then fragment <|> previous else previous <|> fragment
  return observed.map fun source =>
    { moments := moments
      interactions := interactions
      coverage := cachedCoverage sha256 previous fragment reobserved
        source.coverage.observedAt moments interactions tables }

/-! What a ledger of cached surfaces holds; an absent one holds nothing. -/

def cachedMoments (surfaces : Option CachedSurfaces) : List CanonicalCachedMoment :=
  (surfaces.map (·.moments)).getD []

def cachedInteractions (surfaces : Option CachedSurfaces) :
    List CanonicalCachedMomentInteraction :=
  (surfaces.map (·.interactions)).getD []

def cachedTables (surfaces : Option CachedSurfaces) : List CachedSurfaceTableCoverage :=
  (surfaces.map (·.coverage.tables)).getD []

def cachedOmissions (surfaces : Option CachedSurfaces) : ℕ :=
  (surfaces.map (·.coverage.omittedRowCount)).getD 0

def cachedResidual (surfaces : Option CachedSurfaces) : ℕ :=
  (surfaces.map fun surfaces => residualOmissions surfaces.coverage).getD 0

theorem mergeCachedRecords_nil {α : Type} {canonicalId sourceSet : α → String} {kind : String}
    {selected affected : SourceSets} :
    mergeCachedRecords canonicalId sourceSet kind [] [] selected affected = .ok [] := by
  simp [mergeCachedRecords, insertAll, insertUnique, requireSelected, unaffected, bind,
    Except.bind, pure, Except.pure]

/-- Merged cached surfaces: the three merged ledgers and the omission counter. -/
theorem mergeCachedSurfaces_ok {previous fragment merged : Option CachedSurfaces}
    {selected affected : SourceSets}
    (h : mergeCachedSurfaces sha256 previous fragment selected affected = .ok merged) :
    loadCachedSurfaces sha256 fragment = .ok () ∧
      mergeCachedRecords CanonicalCachedMoment.canonicalId (·.sourceSetId) "cached moment"
        (cachedMoments previous) (cachedMoments fragment) selected affected =
          .ok (cachedMoments merged) ∧
      mergeCachedRecords CanonicalCachedMomentInteraction.canonicalId (·.sourceSetId)
        "cached moment interaction" (cachedInteractions previous) (cachedInteractions fragment)
        selected affected = .ok (cachedInteractions merged) ∧
      mergeCachedTables previous fragment selected affected = .ok (cachedTables merged) ∧
      cachedOmissions merged = saturatingAdd 64 (tableGaps (cachedTables merged))
        (saturatingAdd 64 (cachedResidual previous) (cachedResidual fragment)) := by
  unfold mergeCachedSurfaces at h
  obtain ⟨_, h⟩ := check_bind_ok.mp h
  obtain ⟨hload, h⟩ := check_bind_ok.mp h
  obtain ⟨moments, hmoments, h⟩ := bind_ok.mp h
  obtain ⟨interactions, hinteractions, h⟩ := bind_ok.mp h
  obtain ⟨tables, htables, h⟩ := bind_ok.mp h
  obtain rfl := Except.ok.inj h
  cases hpresent : previous.isSome || fragment.isSome with
  | true =>
    have hobserved : ∃ source, (if cachedWasReobserved previous fragment selected affected = true
        then fragment <|> previous else previous <|> fragment) = some source := by
      cases cachedWasReobserved previous fragment selected affected <;> cases previous <;>
        cases fragment <;> simp at hpresent ⊢
    obtain ⟨source, hsource⟩ := hobserved
    rw [hsource]
    exact ⟨hload, hmoments, hinteractions, htables, rfl⟩
  | false =>
    rw [Bool.or_eq_false_iff, Option.isSome_eq_false_iff, Option.isSome_eq_false_iff,
      Option.isNone_iff_eq_none, Option.isNone_iff_eq_none] at hpresent
    obtain ⟨rfl, rfl⟩ := hpresent
    exact ⟨hload, mergeCachedRecords_nil, mergeCachedRecords_nil, rfl, rfl⟩

end GreenBubbles.Merge
