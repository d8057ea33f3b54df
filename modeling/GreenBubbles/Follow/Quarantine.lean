import GreenBubbles.Follow.Publication

/-! # Quarantine and restoration of archives

The archives of all but the latest publications are moved to a quarantine directory, and
each can be moved back. A move and the entry in the history are two steps; the operation
that is called again makes up for the second.
-/
namespace GreenBubbles.Follow

open Archive Library

structure ReplicaArchiveQuarantineReport where
  formatVersion : ℕ
  privacySafeSummary : Bool
  currentGeneration : ℕ
  protectedPublicationCount : ℕ
  retainedArchiveCount : ℕ
  newlyQuarantinedArchiveCount : ℕ
  alreadyQuarantinedArchiveCount : ℕ
  sharedWithProtectedGenerationCount : ℕ
  recoverable : Bool
  deriving DecidableEq

structure ReplicaArchiveRestoreReport where
  formatVersion : ℕ
  privacySafeSummary : Bool
  requestedGeneration : ℕ
  restoredArchiveCount : ℕ
  restoredPublicationCount : ℕ
  archiveVerified : Bool
  deriving DecidableEq

def generationName (generation : ℕ) : String :=
  String.ofList (List.leftpad 20 '0' (toString generation).toList)

def groupQuarantinePath (members : List Member) (quarantineRoot : String) :
    Except RestoreError String :=
  match members.getLast? with
  | none => .error (.integrity "empty publication archive group")
  | some latest =>
    .ok (join quarantineRoot ("generation-" ++ generationName latest.1.handoff.generation ++ "-" ++
      String.ofList (latest.1.handoffSha256.toList.take 16)))

variable (reader : ArchiveReader)

def verifyRetainedGroup (disk : Disk) (members : List Member) (original : String) :
    Except RestoreError Unit := do
  canonicalPublishArchive disk original
  match members with
  | [] => .error (.panicked "index out of bounds")
  | first :: _ =>
    verifyHandoffArchive reader disk ⟨first.1.handoff, first.1.handoffSha256⟩ original

def verifyQuarantinedGroup (disk : Disk) (members : List Member)
    (quarantinePath original : String) : Except RestoreError Unit := do
  require (disk.archiveAt original).isNone "quarantined archive still exists at its retained path"
  match disk.archiveAt quarantinePath, members with
  | none, _ => .error missingFile
  | some _, [] => .error (.panicked "index out of bounds")
  | some files, first :: _ => do
    let sealed ← archiveSeal files
    require (sealed.sha256 == first.1.handoff.archiveSealSha256 &&
        sealed.fileCount == first.1.handoff.archiveFileCount &&
        sealed.byteCount == first.1.handoff.archiveByteCount)
      "quarantined archive no longer matches its publication seal"

/-- Never replaces what stands at the target. -/
def rename (source target : String) : Control Unit := do
  let disk ← Durable.read
  Durable.check (if (disk.archiveAt source).isSome && (disk.archiveAt target).isNone then .ok ()
    else .error (.io "Directory not empty (os error 66)"))
  Durable.modify fun disk => { disk with
    archives := disk.archives.map fun entry =>
      if entry.1 = source then (target, entry.2) else entry }

/-! Quarantine -/

/-- The paths of the latest publications, in their order. -/
def protectedPaths (history : ReplicaPublicationHistory) (retainPublications : ℕ) : List String :=
  Ordered.sortBy id ((history.entries.drop (history.entries.length - retainPublications)).map
    (·.handoff.archiveDirectory)).dedup

def checkProtected (disk : Disk) (groups : List (String × List Member)) (quarantineRoot path : String) :
    Except RestoreError Unit :=
  match groups.lookup path with
  | none => .error (.integrity "protected publication disappeared from history")
  | some members => do
    let location ← groupLocation members
    require (location == .retained) "a protected publication has already been quarantined"
    verifyRetainedGroup reader disk members path
    rejectNestedPaths path quarantineRoot

inductive RetiredGroup where
  | alreadyQuarantined
  /-- Moved by a call that was interrupted before it wrote the history. -/
  | moved (quarantinePath : String)
  | eligible (quarantinePath : String)

def assessRetiredGroup (disk : Disk) (quarantineRoot : String) (group : String × List Member) :
    Except RestoreError RetiredGroup := do
  let quarantinePath ← groupQuarantinePath group.2 quarantineRoot
  rejectNestedPaths group.1 quarantineRoot
  match ← groupLocation group.2 with
  | .quarantined recorded => do
    require (recorded == quarantinePath)
      "publication history names an unexpected quarantine location"
    verifyQuarantinedGroup disk group.2 recorded group.1
    return .alreadyQuarantined
  | .retained =>
    match (disk.archiveAt group.1).isSome, (disk.archiveAt quarantinePath).isSome with
    | true, false => do
      verifyRetainedGroup reader disk group.2 group.1
      return .eligible quarantinePath
    | false, true => do
      verifyQuarantinedGroup disk group.2 quarantinePath group.1
      return .moved quarantinePath
    | true, true =>
      .error (.integrity "archive exists in both retained and quarantine locations")
    | false, false =>
      .error (.integrity "retired archive is missing from both retained and quarantine locations")

structure QuarantineTally where
  history : ReplicaPublicationHistory
  newlyQuarantined : ℕ
  alreadyQuarantined : ℕ
  sharedWithProtected : ℕ
  eligible : List ((String × List Member) × String)

def QuarantineTally.begin (history : ReplicaPublicationHistory) : QuarantineTally where
  history
  newlyQuarantined := 0
  alreadyQuarantined := 0
  sharedWithProtected := 0
  eligible := []

def markQuarantined (tally : QuarantineTally) (path quarantinePath : String) :
    Control QuarantineTally := do
  let history := tally.history.relocate path (some quarantinePath)
  writePublicationHistory history
  return { tally with history, newlyQuarantined := tally.newlyQuarantined + 1 }

def inspectGroup (protectedStart : ℕ) (protectedPaths : List String) (quarantineRoot : String)
    (tally : QuarantineTally) (group : String × List Member) : Control QuarantineTally := do
  if !group.2.any (fun member => decide (member.2 < protectedStart)) then return tally
  else if protectedPaths.contains group.1 then
    return { tally with sharedWithProtected := tally.sharedWithProtected + 1 }
  else do
    let disk ← Durable.read
    match ← Durable.check (assessRetiredGroup reader disk quarantineRoot group) with
    | .alreadyQuarantined =>
      return { tally with alreadyQuarantined := tally.alreadyQuarantined + 1 }
    | .moved quarantinePath => markQuarantined tally group.1 quarantinePath
    | .eligible quarantinePath =>
      return { tally with eligible := tally.eligible ++ [(group, quarantinePath)] }

def moveGroup (tally : QuarantineTally) (retired : (String × List Member) × String) :
    Control QuarantineTally := do
  rename retired.1.1 retired.2
  let disk ← Durable.read
  Durable.check (verifyQuarantinedGroup disk retired.1.2 retired.2 retired.1.1)
  markQuarantined tally retired.1.1 retired.2

def quarantineReport (current : LoadedHandoff) (retainPublications : ℕ) (tally : QuarantineTally) :
    Except RestoreError ReplicaArchiveQuarantineReport := do
  let groups ← publicationPathGroups tally.history
  return {
    formatVersion := 1
    privacySafeSummary := true
    currentGeneration := current.value.generation
    protectedPublicationCount := min tally.history.entries.length retainPublications
    retainedArchiveCount :=
      groups.countP fun group => groupLocation group.2 matches .ok .retained
    newlyQuarantinedArchiveCount := tally.newlyQuarantined
    alreadyQuarantinedArchiveCount := tally.alreadyQuarantined
    sharedWithProtectedGenerationCount := tally.sharedWithProtected
    recoverable := true }

def quarantineRetiredReplicaArchives (quarantineRoot : String) (retainPublications : ℕ) :
    Control ReplicaArchiveQuarantineReport := do
  Durable.check (require (decide (2 ≤ retainPublications))
    "archive retention must protect at least the current and previous publications")
  let disk ← Durable.read
  let current ← Durable.check (loadHandoff disk)
  let history ← loadOrReconcilePublicationHistory (some current)
  let groups ← Durable.check (publicationPathGroups history)
  Durable.check ((protectedPaths history retainPublications).forM
    (checkProtected reader disk groups quarantineRoot))
  let tally ← groups.foldlM (inspectGroup reader (history.entries.length - retainPublications)
    (protectedPaths history retainPublications) quarantineRoot) (.begin history)
  let tally ← tally.eligible.foldlM moveGroup tally
  Durable.check (quarantineReport current retainPublications tally)

/-! Restoration -/

/-- The path, the publications and the recorded place of a quarantined archive. -/
def requestedGroup (history : ReplicaPublicationHistory) (quarantineRoot : String)
    (generation : ℕ) : Except RestoreError (String × List Member × String) := do
  match history.entries.find? (fun entry => entry.handoff.generation == generation) with
  | none => .error (.integrity "requested generation is not present in publication history")
  | some entry => do
    let groups ← publicationPathGroups history
    match groups.lookup entry.handoff.archiveDirectory with
    | none => .error (.integrity "requested publication path disappeared from history")
    | some members => do
      match ← groupLocation members with
      | .retained => .error (.integrity "requested generation is not quarantined")
      | .quarantined recorded => do
        if parent recorded ≠ some (components quarantineRoot) then
          .error (.unsafePath "requested generation belongs to a different quarantine directory")
        else do
          let expected ← groupQuarantinePath members quarantineRoot
          require (recorded == expected)
            "publication history names an unexpected quarantine location"
          rejectNestedPaths entry.handoff.archiveDirectory quarantineRoot
          return (entry.handoff.archiveDirectory, members, recorded)

/-- Moves the archive back unless that has been done, and counts the moves. -/
def moveBack (path : String) (members : List Member) (recorded : String) : Control ℕ := do
  let disk ← Durable.read
  match (disk.archiveAt path).isSome, (disk.archiveAt recorded).isSome with
  | false, true => do
    Durable.check (verifyQuarantinedGroup disk members recorded path)
    rename recorded path
    let disk ← Durable.read
    match verifyRetainedGroup reader disk members path with
    | .ok () => return 1
    | .error error => do
      rename path recorded
      Durable.fail error
  | true, false => do
    Durable.check (verifyRetainedGroup reader disk members path)
    return 0
  | true, true =>
    Durable.fail (.integrity "archive exists in both retained and quarantine locations")
  | false, false =>
    Durable.fail (.integrity "archive is missing from both retained and quarantine locations")

def restoreQuarantinedReplicaArchive (quarantineRoot : String) (generation : ℕ) :
    Control ReplicaArchiveRestoreReport := do
  Durable.check (require (generation != 0) "archive restoration generation must be positive")
  let disk ← Durable.read
  let current ← Durable.check (loadHandoff disk)
  let history ← loadOrReconcilePublicationHistory (some current)
  let (path, members, recorded) ← Durable.check (requestedGroup history quarantineRoot generation)
  let restored ← moveBack reader path members recorded
  writePublicationHistory (history.relocate path none)
  return {
    formatVersion := 1
    privacySafeSummary := true
    requestedGeneration := generation
    restoredArchiveCount := restored
    restoredPublicationCount := members.length
    archiveVerified := true }

/-! Runs -/

inductive ControlCommand where
  | publish (archive : String) (generation : ℕ) (clock : Option ℕ)
  | publishNext (archive : String) (predecessor : PublicationPredecessor) (clock : Option ℕ)
  | quarantine (quarantineRoot : String) (retainPublications : ℕ)
  | restore (quarantineRoot : String) (generation : ℕ)

/-- The commands hold the lock of the handoff file one after the other. -/
def ControlCommand.run : ControlCommand → Control Unit
  | .publish archive generation clock => do
    let _ ← publishReplicaHandoff reader archive generation clock
  | .publishNext archive predecessor clock => do
    let _ ← publishReplicaHandoffNextIfCurrent reader archive predecessor clock
  | .quarantine quarantineRoot retainPublications => do
    let _ ← quarantineRetiredReplicaArchives reader quarantineRoot retainPublications
  | .restore quarantineRoot generation => do
    let _ ← restoreQuarantinedReplicaArchive reader quarantineRoot generation

inductive ControlEvent where
  | completed (command : ControlCommand)
  /-- Interrupted after so many writes, by a crash or by an error of the file system. -/
  | interrupted (command : ControlCommand) (writes : ℕ)
  /-- Something else changes the archives. -/
  | archivesChanged (archives : List (String × ArchiveFiles))

def controlStep (disk : Disk) : ControlEvent → Disk
  | .completed command => (command.run reader).final disk
  | .interrupted command writes => (command.run reader).stopped writes disk
  | .archivesChanged archives => { disk with archives }

/-- Neither control file exists yet. -/
def Disk.initial (archives : List (String × ArchiveFiles)) : Disk where
  handoffs := []
  history := none
  archives

end GreenBubbles.Follow
