import GreenBubbles.Merge.Entities
import GreenBubbles.Merge.Inputs
import GreenBubbles.Merge.Integrity

/-! # Merging an incremental fragment

The whole merge: inputs are checked, the replaced source sets are determined,
every ledger is merged and the report of the new archive is assembled.
-/
namespace GreenBubbles.Merge

open Std Archive

/-- What the merge takes from outside: the digest function and the file copy of
connector-owned artifacts. -/
structure Environment where
  sha256 : List UInt8 → String
  relocate : Relocate

/-- The source sets a merge works with, all read off the fragment's report. -/
structure Scope where
  acquisition : SnapshotAcquisitionEvidence
  requested : SourceSets
  selected : SourceSets
  affected : SourceSets

def mergeScope (fragment : RestorationReport) : Except RestoreError Scope :=
  match fragment.acquisition with
  | none => .error (.integrity "incremental fragment has no acquisition evidence")
  | some acquisition => do
    let requested := requestedSelected acquisition
    let selected ← successfullyRestoredSourceSets fragment requested
    let deleted : SourceSets := .ofList acquisition.deletedSourceSetIds
    return { acquisition, requested, selected, affected := selected ∪ deleted }

/-- The ledgers of a merged archive, before its report is assembled. -/
structure Ledgers where
  messages : List CanonicalMessage
  conversations : List CanonicalConversation
  participants : List CanonicalParticipant
  artifacts : List CanonicalArtifact
  rejections : List RejectedRow
  coverage : RestorationCoverage
  cachedSurfaces : Option CachedSurfaces

def mergeLedgers (environment : Environment) (previous fragment : RestorationArchive)
    (selected affected : SourceSets) : Except RestoreError Ledgers := do
  let merged ← mergeMessages previous.messages fragment.messages selected affected
  let messages := orderAndResolveMessages merged
  let conversations ← mergeConversations previous.conversations fragment.conversations messages
    selected affected
  let participants ← mergeParticipants previous.participants fragment.participants messages
    conversations selected affected
  let kept ← mergeArtifacts previous.artifacts fragment.artifacts messages
  let artifacts ← kept.mapM (relocateConnectorArtifact environment.relocate)
  let rejections ← mergeRejections previous.rejections fragment.rejections selected affected
  let coverage ← mergeCoverage environment.sha256 previous.coverage fragment.coverage affected
    messages
  let cachedSurfaces ← mergeCachedSurfaces environment.sha256 previous.cachedSurfaces
    fragment.cachedSurfaces selected affected
  return { messages, conversations, participants, artifacts, rejections, coverage, cachedSurfaces }

/-- The stages of a merge of ledgers agree with its result. -/
structure Ledgers.Holds (ledgers : Ledgers) (environment : Environment)
    (previous fragment : RestorationArchive) (selected affected : SourceSets) : Prop where
  messages : ∃ merged, mergeMessages previous.messages fragment.messages selected affected =
    .ok merged ∧ ledgers.messages = orderAndResolveMessages merged
  conversations : mergeConversations previous.conversations fragment.conversations
    ledgers.messages selected affected = .ok ledgers.conversations
  participants : mergeParticipants previous.participants fragment.participants ledgers.messages
    ledgers.conversations selected affected = .ok ledgers.participants
  artifacts : ∃ kept, mergeArtifacts previous.artifacts fragment.artifacts ledgers.messages =
    .ok kept ∧ kept.mapM (relocateConnectorArtifact environment.relocate) = .ok ledgers.artifacts
  rejections : mergeRejections previous.rejections fragment.rejections selected affected =
    .ok ledgers.rejections
  coverage : mergeCoverage environment.sha256 previous.coverage fragment.coverage affected
    ledgers.messages = .ok ledgers.coverage
  cachedSurfaces : mergeCachedSurfaces environment.sha256 previous.cachedSurfaces
    fragment.cachedSurfaces selected affected = .ok ledgers.cachedSurfaces

theorem mergeLedgers_ok {environment : Environment} {previous fragment : RestorationArchive}
    {selected affected : SourceSets} {ledgers : Ledgers} :
    mergeLedgers environment previous fragment selected affected = .ok ledgers ↔
      ledgers.Holds environment previous fragment selected affected := by
  unfold mergeLedgers
  simp only [bind_ok]
  constructor
  · rintro ⟨merged, hmessages, conversations, hconversations, participants, hparticipants, kept,
      hkept, artifacts, hartifacts, rejections, hrejections, coverage, hcoverage, cached, hcached,
      h⟩
    obtain rfl := Except.ok.inj h
    exact ⟨⟨merged, hmessages, rfl⟩, hconversations, hparticipants, ⟨kept, hkept, hartifacts⟩,
      hrejections, hcoverage, hcached⟩
  · rintro ⟨⟨merged, hmessages, hordered⟩, hconversations, hparticipants,
      ⟨kept, hkept, hartifacts⟩, hrejections, hcoverage, hcached⟩
    rw [hordered] at hconversations hparticipants hkept hcoverage
    refine ⟨merged, hmessages, _, hconversations, _, hparticipants, _, hkept, _, hartifacts, _,
      hrejections, _, hcoverage, _, hcached, ?_⟩
    rw [← hordered]
    rfl

def mergeMediaPhase (previous fragment : RestorationReport) : RestorationMediaPhase :=
  if previous.mediaPhase = .deferred ∨ fragment.mediaPhase = .deferred then .deferred
  else .resolved

def mergeReport (previous fragment : RestorationReport) (integrity : RestorationIntegrity)
    (databaseCoverage : RestorationDatabaseCoverage) : RestorationReport :=
  let completion := RestorationCompletion.evaluate integrity
  let mediaPhase := mergeMediaPhase previous fragment
  { formatVersion := if fragment.selfParticipantId.isSome then 6 else 5
    accountId := fragment.accountId
    selfParticipantId := fragment.selfParticipantId
    accountBindingEvidence := fragment.accountBindingEvidence
    sourceFingerprint := fragment.sourceFingerprint
    productionCompatible := fragment.productionCompatible
    acquisition := fragment.acquisition
    archiveScope :=
      if databaseCoverage.authoritativeDatabaseCoverage then .authoritative
      else .partialDatabaseCoverage
    databaseCoverage := some databaseCoverage
    mediaPhase := mediaPhase
    integrity := integrity
    completion := { completion with
      fullRestorationAchieved := completion.fullRestorationAchieved &&
        fragment.productionCompatible && mediaPhase == .resolved &&
        databaseCoverage.authoritativeDatabaseCoverage } }

def mergeIncrementalArchive (environment : Environment)
    (previous fragment : RestorationArchive) : Except RestoreError RestorationArchive := do
  validateMergeInputs previous.report fragment.report
  let scope ← mergeScope fragment.report
  let ledgers ← mergeLedgers environment previous fragment scope.selected scope.affected
  let integrity := calculateIntegrity environment.sha256 scope.acquisition.sourceSets.length
    ledgers.messages ledgers.artifacts ledgers.conversations ledgers.participants
    ledgers.rejections ledgers.coverage ledgers.cachedSurfaces
  if !integrity.rowEquationHolds then
    throw (.integrity "merged archive row equation failed")
  let databaseCoverage ← mergeDatabaseCoverage previous.report fragment.report scope.requested
    scope.selected
  return {
    report := mergeReport previous.report fragment.report integrity databaseCoverage
    coverage := ledgers.coverage
    messages := ledgers.messages
    conversations := ledgers.conversations
    participants := ledgers.participants
    artifacts := ledgers.artifacts
    rejections := ledgers.rejections
    cachedSurfaces := ledgers.cachedSurfaces }

/-- Everything a merge that succeeds has computed. -/
structure MergeTrace where
  scope : Scope
  ledgers : Ledgers
  integrity : RestorationIntegrity
  databaseCoverage : RestorationDatabaseCoverage

/-- The stages of a merge agree with its trace. -/
structure MergeTrace.Holds (trace : MergeTrace) (environment : Environment)
    (previous fragment merged : RestorationArchive) : Prop where
  inputs : validateMergeInputs previous.report fragment.report = .ok ()
  scope : mergeScope fragment.report = .ok trace.scope
  ledgers : mergeLedgers environment previous fragment trace.scope.selected
    trace.scope.affected = .ok trace.ledgers
  integrity : trace.integrity = calculateIntegrity environment.sha256
    trace.scope.acquisition.sourceSets.length trace.ledgers.messages trace.ledgers.artifacts
    trace.ledgers.conversations trace.ledgers.participants trace.ledgers.rejections
    trace.ledgers.coverage trace.ledgers.cachedSurfaces
  rows : trace.integrity.rowEquationHolds = true
  databaseCoverage : mergeDatabaseCoverage previous.report fragment.report trace.scope.requested
    trace.scope.selected = .ok trace.databaseCoverage
  merged : merged =
    { report := mergeReport previous.report fragment.report trace.integrity trace.databaseCoverage
      coverage := trace.ledgers.coverage
      messages := trace.ledgers.messages
      conversations := trace.ledgers.conversations
      participants := trace.ledgers.participants
      artifacts := trace.ledgers.artifacts
      rejections := trace.ledgers.rejections
      cachedSurfaces := trace.ledgers.cachedSurfaces }

theorem mergeIncrementalArchive_ok {environment : Environment}
    {previous fragment merged : RestorationArchive}
    (h : mergeIncrementalArchive environment previous fragment = .ok merged) :
    ∃ trace : MergeTrace, trace.Holds environment previous fragment merged := by
  unfold mergeIncrementalArchive at h
  obtain ⟨inputs, hinputs, h⟩ := bind_ok.mp h
  obtain ⟨scope, hscope, h⟩ := bind_ok.mp h
  obtain ⟨ledgers, hledgers, h⟩ := bind_ok.mp h
  simp only at h
  split_ifs at h with hrows
  · simp [throw, throwThe, MonadExceptOf.throw, bind, Except.bind] at h
  · obtain ⟨coverage, hcoverage, h⟩ := bind_ok.mp h
    obtain rfl := Except.ok.inj h
    rw [Bool.not_eq_true', Bool.not_eq_false] at hrows
    exact ⟨⟨scope, ledgers, calculateIntegrity environment.sha256
      scope.acquisition.sourceSets.length ledgers.messages ledgers.artifacts
      ledgers.conversations ledgers.participants ledgers.rejections ledgers.coverage
      ledgers.cachedSurfaces, coverage⟩, hinputs, hscope, hledgers, rfl, hrows, hcoverage, rfl⟩

theorem merges_of_isOk (environment : Environment) (previous fragment : RestorationArchive)
    (h : (mergeIncrementalArchive environment previous fragment).isOk = true) :
    ∃ merged, mergeIncrementalArchive environment previous fragment = .ok merged := by
  cases hmerge : mergeIncrementalArchive environment previous fragment with
  | error error => simp [hmerge, Except.isOk, Except.toBool] at h
  | ok merged => exact ⟨merged, rfl⟩

theorem mergeScope_ok {fragment : RestorationReport} {scope : Scope}
    (h : mergeScope fragment = .ok scope) :
    fragment.acquisition = some scope.acquisition ∧
      scope.requested = requestedSelected scope.acquisition ∧
      successfullyRestoredSourceSets fragment scope.requested = .ok scope.selected ∧
      scope.affected =
        scope.selected ∪ (.ofList scope.acquisition.deletedSourceSetIds : SourceSets) := by
  unfold mergeScope at h
  cases hacquisition : fragment.acquisition with
  | none => simp [hacquisition] at h
  | some acquisition =>
    simp only [hacquisition] at h
    obtain ⟨selected, hselected, h⟩ := bind_ok.mp h
    obtain rfl := Except.ok.inj h
    exact ⟨rfl, rfl, hselected, rfl⟩

/-- The source sets a fragment restored. -/
def restoredSets (fragment : RestorationReport) : SourceSets :=
  match fragment.databaseCoverage with
  | none => (fragment.acquisition.map requestedSelected).getD ∅
  | some coverage => .ofList coverage.freshSourceSetIds

/-- The source sets whose previous records a fragment replaces or deletes. -/
def replacedSets (fragment : RestorationReport) : SourceSets :=
  restoredSets fragment ∪
    .ofList ((fragment.acquisition.map (·.deletedSourceSetIds)).getD [])

def inventorySets (fragment : RestorationReport) : SourceSets :=
  (fragment.acquisition.map (·.inventory)).getD ∅

theorem mergeScope_sets {fragment : RestorationReport} {scope : Scope}
    (h : mergeScope fragment = .ok scope) :
    scope.selected = restoredSets fragment ∧ scope.affected = replacedSets fragment ∧
      scope.acquisition.inventory = inventorySets fragment := by
  obtain ⟨hacquisition, hrequested, hselected, haffected⟩ := mergeScope_ok h
  have hrestored : scope.selected = restoredSets fragment := by
    unfold successfullyRestoredSourceSets at hselected
    unfold restoredSets
    cases hcoverage : fragment.databaseCoverage with
    | none =>
      simp only [hcoverage, Except.ok.injEq] at hselected
      simp [hacquisition, ← hselected, hrequested]
    | some coverage =>
      simp only [hcoverage] at hselected
      split_ifs at hselected
      exact (Except.ok.inj hselected).symm
  refine ⟨hrestored, ?_, ?_⟩
  · simp [haffected, hrestored, replacedSets, hacquisition]
  · simp [inventorySets, hacquisition]

/-! An archive without records, and an environment that digests its table ledger. -/

def schemaProfileOfNothing : String :=
  "971c474638818849c2709e4f3070fb84687dd9238a1c4358d321cf2f2c9ee61f"

def sampleEnvironment : Environment where
  sha256 bytes :=
    if bytes = hashField (utf8 "greenbubbles-schema-profile-v1") then schemaProfileOfNothing
    else "e3b0c44298fc1c149afbf4c8996fb92427ae41e4649b934ca495991b7852b855"
  relocate path _ _ _ := .ok (some path)

def emptyCoverage : RestorationCoverage where
  formatVersion := 4
  decoderName := "greenbubbles"
  decoderVersion := "0.10.0"
  snapshotManifestFormatVersion := 4
  schemaProfileFingerprint := some schemaProfileOfNothing
  messageTables := []
  allTables := []
  logicalTypeCounts := ∅
  logicalSubTypeCounts := ∅
  unknownPayloadReasonCounts := ∅
  semanticGapReasonCounts := ∅

def emptyReport (fingerprint : String) (acquisition : SnapshotAcquisitionEvidence)
    (archiveScope : RestorationArchiveScope)
    (databaseCoverage : Option RestorationDatabaseCoverage) : RestorationReport where
  formatVersion := if databaseCoverage.isSome then 5 else 4
  accountId := "account"
  selfParticipantId := none
  accountBindingEvidence := none
  sourceFingerprint := fingerprint
  productionCompatible := true
  acquisition := some acquisition
  archiveScope := archiveScope
  databaseCoverage := databaseCoverage
  mediaPhase := .resolved
  integrity := .empty
  completion := .evaluate .empty

def emptyArchive (report : RestorationReport) : RestorationArchive where
  report := report
  coverage := emptyCoverage
  messages := []
  conversations := []
  participants := []
  artifacts := []
  rejections := []
  cachedSurfaces := none

end GreenBubbles.Merge
