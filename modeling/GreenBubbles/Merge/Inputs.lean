import GreenBubbles.Archive.Report

/-! # Merge inputs and database coverage

Which source sets a merge replaces, and the freshness evidence it publishes.
-/
namespace GreenBubbles.Merge

open Std Archive

def validateMergeInputs (previous fragment : RestorationReport) : Except RestoreError Unit :=
  if !previous.replicaMutationEligible then
    .error (.integrity "merge requires a replica-eligible previous archive")
  else if previous.accountId ≠ fragment.accountId then
    .error (.integrity "merge inputs belong to different accounts")
  else if previous.selfParticipantId ≠ fragment.selfParticipantId ∨
      previous.accountBindingEvidence ≠ fragment.accountBindingEvidence then
    .error (.integrity "merge inputs disagree about the account holder")
  else
    match fragment.acquisition with
    | none => .error (.integrity "incremental fragment has no acquisition evidence")
    | some acquisition =>
      let validUpdateScope := match acquisition.mode, fragment.archiveScope with
        | .incremental, .incrementalFragment => true
        | .integrityScan, .authoritative => true
        | .integrityScan, .partialDatabaseCoverage => true
        | _, _ => false
      if !validUpdateScope ∨
          acquisition.previousSourceFingerprint ≠ some previous.sourceFingerprint then
        .error (.integrity "archive update is not based on the supplied previous archive")
      else .ok ()

/-- The source sets the acquisition asked to restore. -/
def requestedSelected (acquisition : SnapshotAcquisitionEvidence) : SourceSets :=
  match acquisition.mode with
  | .incremental => acquisition.selectedSourceSetIds
  | .bootstrap | .integrityScan => acquisition.inventory

def isSubset (left right : SourceSets) : Bool := left.toList.all (right.contains ·)

def successfullyRestoredSourceSets (fragment : RestorationReport) (requested : SourceSets) :
    Except RestoreError SourceSets :=
  match fragment.databaseCoverage with
  | none => .ok requested
  | some coverage =>
    if !coverage.isValid then
      .error (.integrity "incremental fragment has inconsistent database coverage evidence")
    else
      let fresh : SourceSets := .ofList coverage.freshSourceSetIds
      if !isSubset fresh requested then
        .error (.integrity "incremental fragment restored an unselected source set")
      else .ok fresh

/-- Freshness evidence while a merge rewrites it. -/
structure Freshness where
  fresh : SourceSets
  stale : SourceSets
  unavailableDetails : ExtTreeMap String RestorationUnavailableDatabase

namespace Freshness

def insertDetail (details : ExtTreeMap String RestorationUnavailableDatabase)
    (database : RestorationUnavailableDatabase) :
    ExtTreeMap String RestorationUnavailableDatabase :=
  details.insert database.sourceSetId database

def ofCoverage (coverage : RestorationDatabaseCoverage) : Freshness where
  fresh := .ofList coverage.freshSourceSetIds
  stale := .ofList coverage.preservedStaleSourceSetIds
  unavailableDetails := coverage.unavailableDatabases.foldl insertDetail ∅

/-- Archives without explicit evidence: the stored scope stands for the claim
that every source set of the current snapshot was included. -/
def legacy (snapshot : SourceSets) : Freshness := ⟨snapshot, ∅, ∅⟩

def retain (state : Freshness) (snapshot : SourceSets) : Freshness where
  fresh := state.fresh.filter (snapshot.contains ·)
  stale := state.stale.filter (snapshot.contains ·)
  unavailableDetails := state.unavailableDetails.filter fun sourceSet _ =>
    snapshot.contains sourceSet

def applyRequest (restored previouslyIncluded : SourceSets) (state : Freshness)
    (sourceSet : String) : Freshness :=
  if restored.contains sourceSet then
    { fresh := state.fresh.insert sourceSet
      stale := state.stale.erase sourceSet
      unavailableDetails := state.unavailableDetails.erase sourceSet }
  else
    { state with
      fresh := state.fresh.erase sourceSet
      stale :=
        if previouslyIncluded.contains sourceSet then state.stale.insert sourceSet
        else state.stale }

def coverage (state : Freshness) (snapshot : SourceSets) : RestorationDatabaseCoverage :=
  let unavailable := snapshot \ state.fresh
  let stale := state.stale.filter (unavailable.contains ·)
  let details := state.unavailableDetails.filter fun sourceSet _ => unavailable.contains sourceSet
  { formatVersion := 1
    totalDatabaseCount := snapshot.size
    attemptedDatabaseCount := snapshot.size
    restoredDatabaseCount := state.fresh.size
    unavailableDatabaseCount := unavailable.size
    preservedStaleDatabaseCount := stale.size
    authoritativeDatabaseCoverage := unavailable.isEmpty
    snapshotSourceSetIds := snapshot.toList
    attemptedSourceSetIds := snapshot.toList
    freshSourceSetIds := state.fresh.toList
    unavailableSourceSetIds := unavailable.toList
    preservedStaleSourceSetIds := stale.toList
    unavailableDatabases := details.toList.map Prod.snd }

end Freshness

def previousFreshness (previous : RestorationReport) (snapshot : SourceSets) :
    Except RestoreError Freshness :=
  match previous.databaseCoverage with
  | none => .ok (.legacy snapshot)
  | some coverage =>
    if !coverage.isValid then
      .error (.integrity "previous archive has inconsistent database coverage evidence")
    else .ok (.ofCoverage coverage)

/-- Rewrites the evidence of the previous archive for the snapshot of a fragment. -/
def updateFreshness (state : Freshness) (snapshot requested restored : SourceSets)
    (fragmentCoverage : Option RestorationDatabaseCoverage) : Freshness :=
  let kept := state.retain snapshot
  let updated := requested.toList.foldl
    (Freshness.applyRequest restored (kept.fresh ∪ kept.stale)) kept
  match fragmentCoverage with
  | none => updated
  | some coverage =>
    { updated with unavailableDetails :=
        coverage.unavailableDatabases.foldl Freshness.insertDetail updated.unavailableDetails }

def mergeDatabaseCoverage (previous fragment : RestorationReport)
    (requested restored : SourceSets) : Except RestoreError RestorationDatabaseCoverage :=
  match fragment.acquisition with
  | none => .error (.integrity "incremental fragment has no acquisition evidence")
  | some acquisition =>
    let snapshot := acquisition.inventory
    match previousFreshness previous snapshot with
    | .error error => .error error
    | .ok state =>
      let coverage := (updateFreshness state snapshot requested restored
        fragment.databaseCoverage).coverage snapshot
      if !coverage.isValid then
        .error (.integrity "merged database coverage evidence is inconsistent")
      else .ok coverage

end GreenBubbles.Merge
