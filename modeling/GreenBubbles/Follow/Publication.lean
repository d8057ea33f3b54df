import GreenBubbles.Follow.Handoff

/-! # Publishing archives

A publication replaces the handoff file first and then extends the history. Every operation
begins by bringing the history up to the handoff, so that one which was interrupted between
the two is made up for.
-/
namespace GreenBubbles.Follow

open Archive Library Replica

/-- The control files and the archives. -/
structure Disk where
  /-- All that the handoff file has ever held; it holds the last of these. -/
  handoffs : List ReplicaArchiveHandoff
  history : Option ReplicaPublicationHistory
  archives : List (String × ArchiveFiles)

abbrev Control := Durable Disk RestoreError

def Disk.archiveAt (disk : Disk) (path : String) : Option ArchiveFiles := disk.archives.lookup path

def missingFile : RestoreError := .io "No such file or directory (os error 2)"

/-! The handoff -/

def validateHandoffValue (value : ReplicaArchiveHandoff) : Except RestoreError Unit :=
  require ((value.formatVersion == 2 || value.formatVersion == 3) && value.generation != 0 &&
    value.archiveDirectory != "" && value.sourceFingerprint != "" &&
    isSha256 value.reportSha256 && isSha256 value.archiveSealSha256 &&
    value.archiveFileCount != 0 &&
    (if value.formatVersion = 2 then value.publishedAtUnixNanoseconds.isNone
      else value.publishedAtUnixNanoseconds.any fun timestamp =>
        (parseU128 timestamp).any fun nanoseconds => decide (0 < nanoseconds)))
    "replica archive handoff is malformed"

def ReplicaArchiveHandoff.sha256 (handoff : ReplicaArchiveHandoff) : String :=
  ownerJsonSha256 handoff.toJson

def loadHandoff (disk : Disk) : Except RestoreError LoadedHandoff :=
  match disk.handoffs.getLast? with
  | none => .error missingFile
  | some value => do
    require (decide ((ownerJsonBytes value.toJson).length ≤ maxControlFileBytes))
      "replica control file exceeds the size limit"
    validateHandoffValue value
    return { value, sha256 := value.sha256 }

def sameArchiveIdentity (left right : ReplicaArchiveHandoff) : Bool :=
  left.archiveDirectory == right.archiveDirectory &&
    left.sourceFingerprint == right.sourceFingerprint &&
    left.reportSha256 == right.reportSha256 &&
    left.archiveSealSha256 == right.archiveSealSha256 &&
    left.archiveFileCount == right.archiveFileCount &&
    left.archiveByteCount == right.archiveByteCount

/-! The history -/

/-- An entry of the history and its index. -/
abbrev Member := ReplicaPublicationHistoryEntry × ℕ

inductive GroupLocation where
  | retained
  | quarantined (path : String)
  deriving DecidableEq

def groupLocation (members : List Member) : Except RestoreError GroupLocation :=
  match (members.map (·.1.quarantineDirectory)).dedup with
  | [none] => .ok .retained
  | [some path] => .ok (.quarantined path)
  | _ => .error (.integrity "publications sharing one archive disagree about its location")

def checkGroup (members : List Member) : Except RestoreError Unit := do
  require (members.tail.all fun member => members.head?.all fun first =>
      sameArchiveIdentity first.1.handoff member.1.handoff)
    "one publication archive path has conflicting sealed contents"
  let _ ← groupLocation members

namespace ReplicaPublicationHistory

def empty : ReplicaPublicationHistory where
  formatVersion := 1
  entries := []

variable (history : ReplicaPublicationHistory)

/-- The publications of each path, by the order of the paths. -/
def groups : List (String × List Member) :=
  Grouping.grouped (fun member : Member => member.1.handoff.archiveDirectory) id
    history.entries.zipIdx

def push (handoff : ReplicaArchiveHandoff) : ReplicaPublicationHistory :=
  { history with
    entries := history.entries ++
      [{ handoff, handoffSha256 := handoff.sha256, handoffValueSha256 := handoff.sha256,
         quarantineDirectory := none }] }

/-- The last entry is given the value of the handoff. -/
def retail (current : LoadedHandoff) : ReplicaPublicationHistory :=
  { history with
    entries := history.entries.dropLast ++ history.entries.getLast?.toList.map fun tail =>
      { tail with
        handoff := current.value
        handoffSha256 := current.sha256
        handoffValueSha256 := current.value.sha256 } }

/-- Where the publications of a path are said to be. -/
def relocate (path : String) (quarantineDirectory : Option String) : ReplicaPublicationHistory :=
  { history with
    entries := history.entries.map fun entry =>
      if entry.handoff.archiveDirectory = path then { entry with quarantineDirectory } else entry }

end ReplicaPublicationHistory

def publicationPathGroups (history : ReplicaPublicationHistory) :
    Except RestoreError (List (String × List Member)) := do
  history.entries.forM fun entry => require (isAbsolute entry.handoff.archiveDirectory)
    "publication history archive path is not absolute"
  history.groups.forM fun group => checkGroup group.2
  return history.groups

def validateEntry (priorGeneration : ℕ) (entry : ReplicaPublicationHistoryEntry) :
    Except RestoreError ℕ := do
  validateHandoffValue entry.handoff
  require (decide (priorGeneration < entry.handoff.generation) && isSha256 entry.handoffSha256 &&
      isSha256 entry.handoffValueSha256 && entry.handoffValueSha256 == entry.handoff.sha256 &&
      entry.quarantineDirectory.all isAbsolute) "replica publication history is malformed"
  return entry.handoff.generation

def validatePublicationHistory (history : ReplicaPublicationHistory) : Except RestoreError Unit := do
  require (history.formatVersion == 1 &&
      decide (history.entries.length ≤ maxPublicationHistoryEntries))
    "replica publication history is malformed"
  let _ ← history.entries.foldlM validateEntry 0
  let _ ← publicationPathGroups history

def rejectReusedMutatedArchivePath (history : ReplicaPublicationHistory)
    (handoff : ReplicaArchiveHandoff) : Except RestoreError Unit :=
  require (!history.entries.any fun entry =>
      entry.handoff.archiveDirectory == handoff.archiveDirectory &&
        !sameArchiveIdentity entry.handoff handoff)
    "a published archive path cannot be reused for different sealed contents"

/-- What the checks before a write of the history come to. -/
def checkWritable (history : ReplicaPublicationHistory) : Except RestoreError Unit := do
  validatePublicationHistory history
  require (decide ((ownerJsonBytes history.toJson).length ≤ maxPublicationHistoryBytes))
    "replica publication history exceeds the size limit"

def writePublicationHistory (history : ReplicaPublicationHistory) : Control Unit := do
  Durable.check (checkWritable history)
  Durable.modify fun disk => { disk with history := some history }

/-- The stored history, and whether there is one. -/
def storedHistory (disk : Disk) : Except RestoreError (ReplicaPublicationHistory × Bool) :=
  match disk.history with
  | none => .ok (.empty, false)
  | some history => do
    require (decide ((ownerJsonBytes history.toJson).length ≤ maxPublicationHistoryBytes))
      "replica control file exceeds the size limit"
    return (history, true)

def ReplicaPublicationHistory.extend (history : ReplicaPublicationHistory)
    (current : LoadedHandoff) : Except RestoreError (ReplicaPublicationHistory × Bool) := do
  require (decide (history.entries.length < maxPublicationHistoryEntries))
    "replica publication history reached its entry limit"
  rejectReusedMutatedArchivePath history current.value
  return (history.push current.value, true)

def ReplicaPublicationHistoryEntry.records (tail : ReplicaPublicationHistoryEntry)
    (current : LoadedHandoff) : Bool :=
  tail.handoff.generation == current.value.generation && tail.handoffSha256 == current.sha256 &&
    tail.quarantineDirectory.isNone

def ReplicaPublicationHistoryEntry.resembles (tail : ReplicaPublicationHistoryEntry)
    (current : LoadedHandoff) : Bool :=
  tail.handoff.generation == current.value.generation && tail.quarantineDirectory.isNone &&
    sameArchiveIdentity tail.handoff current.value

/-- The history with the current handoff in it, and whether that is a change. -/
def ReplicaPublicationHistory.reconcile (history : ReplicaPublicationHistory) :
    Option LoadedHandoff → Except RestoreError (ReplicaPublicationHistory × Bool)
  | none => do
    require history.entries.isEmpty "publication history exists without a current handoff"
    return (history, false)
  | some current =>
    match history.entries.getLast? with
    | none => history.extend current
    | some tail =>
      if tail.records current then .ok (history, false)
      else if tail.resembles current then .ok (history.retail current, true)
      else if current.value.generation ≤ tail.handoff.generation then
        .error (.integrity "publication history does not match the current handoff")
      else history.extend current

/-- The reconciled history, and whether it has to be written. -/
def reconcileHistory (disk : Disk) (current : Option LoadedHandoff) :
    Except RestoreError (ReplicaPublicationHistory × Bool) := do
  let stored ← storedHistory disk
  validatePublicationHistory stored.1
  let outcome ← stored.1.reconcile current
  validatePublicationHistory outcome.1
  return (outcome.1, outcome.2 || !stored.2)

def writeChanged (outcome : ReplicaPublicationHistory × Bool) : Control Unit :=
  if outcome.2 then writePublicationHistory outcome.1 else pure ()

def loadOrReconcilePublicationHistory (current : Option LoadedHandoff) :
    Control ReplicaPublicationHistory := do
  let disk ← Durable.read
  let outcome ← Durable.check (reconcileHistory disk current)
  writeChanged outcome
  return outcome.1

/-! Archives under a handoff -/

variable (reader : ArchiveReader)

def requireAuthoritativeHandoffReport (report : RestorationReport) : Except RestoreError Unit :=
  require (report.accountId != "" && report.sourceFingerprint != "" && report.replicaMutationEligible)
    "replica handoff requires a replica-eligible restoration archive"

/-- Archives of earlier formats have nothing that could be audited. -/
def auditCurrentArchive (report : RestorationReport) (files : ArchiveFiles) :
    Except RestoreError Unit :=
  if 3 ≤ report.formatVersion then reader.auditArchive files else .ok ()

def readReportFile (files : ArchiveFiles) : Except RestoreError (List UInt8) :=
  match files.lookup "report.json" with
  | none => .error missingFile
  | some bytes => do
    require (decide (bytes.length ≤ maxControlFileBytes))
      "replica control file exceeds the size limit"
    return bytes

/-- An archive that may be published: its report, the digest of that, and its seal. -/
def inspectArchive (files : ArchiveFiles) :
    Except RestoreError (RestorationReport × String × ArchiveSeal) := do
  let report ← reader.loadReport files
  requireAuthoritativeHandoffReport report
  auditCurrentArchive reader report files
  let reportBytes ← readReportFile files
  let sealed ← archiveSeal files
  return (report, Sha256.hexDigest reportBytes, sealed)

def verifyHandoffArchive (disk : Disk) (loaded : LoadedHandoff) (archive : String) :
    Except RestoreError Unit := do
  require (loaded.value.archiveDirectory == archive)
    "publication predecessor is no longer the current handoff archive"
  match disk.archiveAt archive with
  | none => .error missingFile
  | some files => do
    let (report, reportSha256, sealed) ← inspectArchive reader files
    require (report.sourceFingerprint == loaded.value.sourceFingerprint &&
        reportSha256 == loaded.value.reportSha256 &&
        sealed.sha256 == loaded.value.archiveSealSha256 &&
        sealed.fileCount == loaded.value.archiveFileCount &&
        sealed.byteCount == loaded.value.archiveByteCount)
      "publication predecessor no longer matches its current handoff"

/-! Publication -/

structure ReplicaHandoffReceipt where
  formatVersion : ℕ
  privacySafeSummary : Bool
  generation : ℕ
  handoffWritten : Bool
  authoritativeArchiveRequired : Bool
  replicaEligibleArchiveRequired : Bool
  deriving DecidableEq

def publicationReceipt (generation : ℕ) : ReplicaHandoffReceipt where
  formatVersion := 2
  privacySafeSummary := true
  generation
  handoffWritten := true
  authoritativeArchiveRequired := false
  replicaEligibleArchiveRequired := true

def priorHandoff (disk : Disk) (generation : ℕ) : Except RestoreError (Option LoadedHandoff) :=
  if disk.handoffs.isEmpty then .ok none
  else do
    let prior ← loadHandoff disk
    require (decide (prior.value.generation < generation))
      "replica handoff generation must advance monotonically"
    return some prior

/-- The clock is missing when it stands before the Unix epoch. -/
def nextHandoff (disk : Disk) (history : ReplicaPublicationHistory) (archive : String)
    (generation : ℕ) (clock : Option ℕ) : Except RestoreError ReplicaArchiveHandoff :=
  match disk.archiveAt archive, clock with
  | none, _ => .error missingFile
  | some files, clock => do
    let (report, reportSha256, sealed) ← inspectArchive reader files
    match clock with
    | none => .error (.integrity "system clock predates Unix epoch")
    | some nanoseconds => do
      let handoff : ReplicaArchiveHandoff :=
        { formatVersion := 3
          generation
          archiveDirectory := archive
          sourceFingerprint := report.sourceFingerprint
          reportSha256
          archiveSealSha256 := sealed.sha256
          archiveFileCount := sealed.fileCount
          archiveByteCount := sealed.byteCount
          publishedAtUnixNanoseconds := some (toString nanoseconds) }
      rejectReusedMutatedArchivePath history handoff
      require (decide (history.entries.length < maxPublicationHistoryEntries))
        "replica publication history reached its entry limit"
      return handoff

def publishReplicaHandoffLocked (archive : String) (generation : ℕ) (clock : Option ℕ) :
    Control ReplicaHandoffReceipt := do
  let disk ← Durable.read
  let prior ← Durable.check (priorHandoff disk generation)
  let history ← loadOrReconcilePublicationHistory prior
  let handoff ← Durable.check (nextHandoff reader disk history archive generation clock)
  Durable.modify fun disk => { disk with handoffs := disk.handoffs ++ [handoff] }
  writePublicationHistory (history.push handoff)
  return publicationReceipt generation

def canonicalPublishArchive (disk : Disk) (archive : String) : Except RestoreError Unit :=
  if (disk.archiveAt archive).isSome then .ok () else .error missingFile

def publishReplicaHandoff (archive : String) (generation : ℕ) (clock : Option ℕ) :
    Control ReplicaHandoffReceipt := do
  Durable.check (require (generation != 0) "replica handoff generation must be positive")
  let disk ← Durable.read
  Durable.check (canonicalPublishArchive disk archive)
  publishReplicaHandoffLocked reader archive generation clock

inductive PublicationPredecessor where
  | absent
  | current (handoffSha256 archiveDirectory : String)
  deriving DecidableEq

/-- Reads only: what the next publication is to follow. -/
def capturePublicationPredecessor (disk : Disk) (expectedPrevious : Option String) :
    Except RestoreError PublicationPredecessor := do
  expectedPrevious.forM (canonicalPublishArchive disk)
  match disk.handoffs.isEmpty, expectedPrevious with
  | true, none => .ok .absent
  | false, some previous => do
    let current ← loadHandoff disk
    verifyHandoffArchive reader disk current previous
    return .current current.sha256 previous
  | false, none =>
    .error (.integrity "bootstrap publication cannot replace an existing handoff")
  | true, some _ =>
    .error (.integrity "continuation publication has no current predecessor handoff")

def predecessorChanged : RestoreError :=
  .integrity "publication predecessor changed while the next archive was prepared"

def nextGeneration (disk : Disk) : PublicationPredecessor → Except RestoreError ℕ
  | .absent => if disk.handoffs.isEmpty then .ok 1 else .error predecessorChanged
  | .current handoffSha256 archiveDirectory =>
    if disk.handoffs.isEmpty then .error predecessorChanged
    else do
      let current ← loadHandoff disk
      if current.sha256 ≠ handoffSha256 then .error predecessorChanged
      else do
        verifyHandoffArchive reader disk current archiveDirectory
        require (decide (current.value.generation + 1 < 2 ^ 64))
          "replica handoff generation overflowed"
        return current.value.generation + 1

def publishReplicaHandoffNextIfCurrent (archive : String) (predecessor : PublicationPredecessor)
    (clock : Option ℕ) : Control ReplicaHandoffReceipt := do
  let disk ← Durable.read
  Durable.check (canonicalPublishArchive disk archive)
  let generation ← Durable.check (nextGeneration reader disk predecessor)
  publishReplicaHandoffLocked reader archive generation clock

end GreenBubbles.Follow
