import GreenBubbles.Digest
import GreenBubbles.Library.Durable
import GreenBubbles.Library.Grouping
import GreenBubbles.Library.Pretty
import GreenBubbles.Replica.Completeness
import GreenBubbles.Sync.Store

/-! # Published archives

A publisher names the archive a follower is to apply in a handoff file, and keeps a
history of all it has named. Retired archives are moved to a quarantine directory and
back. Owners, permissions, links and the containment of the control files in an archive
are left out: an archive is the list of its files, at a canonical path.
-/
namespace GreenBubbles.Follow

open Archive Library Replica

structure ReplicaArchiveHandoff where
  formatVersion : ℕ
  generation : ℕ
  archiveDirectory : String
  sourceFingerprint : String
  reportSha256 : String
  archiveSealSha256 : String
  archiveFileCount : ℕ
  archiveByteCount : ℕ
  publishedAtUnixNanoseconds : Option String
  deriving DecidableEq

structure ReplicaPublicationHistoryEntry where
  handoff : ReplicaArchiveHandoff
  handoffSha256 : String
  handoffValueSha256 : String
  quarantineDirectory : Option String
  deriving DecidableEq

structure ReplicaPublicationHistory where
  formatVersion : ℕ
  entries : List ReplicaPublicationHistoryEntry
  deriving DecidableEq

structure LoadedHandoff where
  value : ReplicaArchiveHandoff
  sha256 : String
  deriving DecidableEq

/-! The files -/

def ReplicaArchiveHandoff.toJson (handoff : ReplicaArchiveHandoff) : Json :=
  .obj
    ([("formatVersion", .int handoff.formatVersion),
      ("generation", .int handoff.generation),
      ("archiveDirectory", .str handoff.archiveDirectory),
      ("sourceFingerprint", .str handoff.sourceFingerprint),
      ("reportSha256", .str handoff.reportSha256),
      ("archiveSealSha256", .str handoff.archiveSealSha256),
      ("archiveFileCount", .int handoff.archiveFileCount),
      ("archiveByteCount", .int handoff.archiveByteCount)] ++
      (handoff.publishedAtUnixNanoseconds.map fun published =>
        ("publishedAtUnixNanoseconds", Json.str published)).toList)

def ReplicaPublicationHistoryEntry.toJson (entry : ReplicaPublicationHistoryEntry) : Json :=
  .obj
    ([("handoff", entry.handoff.toJson),
      ("handoffSha256", .str entry.handoffSha256),
      ("handoffValueSha256", .str entry.handoffValueSha256)] ++
      (entry.quarantineDirectory.map fun path => ("quarantineDirectory", Json.str path)).toList)

def ReplicaPublicationHistory.toJson (history : ReplicaPublicationHistory) : Json :=
  .obj
    [("formatVersion", .int history.formatVersion),
     ("entries", .arr (history.entries.map (·.toJson)))]

def ownerJsonBytes (value : Json) : List UInt8 :=
  Bytes.utf8 (String.ofList (value.pretty 0)) ++ [10]

def ownerJsonSha256 (value : Json) : String := Sha256.hexDigest (ownerJsonBytes value)

def maxControlFileBytes : ℕ := 64 * 1024
def maxPublicationHistoryBytes : ℕ := 4 * 1024 * 1024
def maxPublicationHistoryEntries : ℕ := 4096
def maxArchiveSealFileCount : ℕ := 1000000

/-! Paths -/

def isAbsolute (path : String) : Bool := path.toList.head? == some '/'

def components (path : String) : List (List Char) :=
  (path.toList.splitOn '/').filter fun component => component ≠ [] && component ≠ ['.']

/-- Whether a path is the other one or lies below it. -/
def startsWith (path root : String) : Bool :=
  isAbsolute path == isAbsolute root && (components root).isPrefixOf (components path)

def join (root name : String) : String :=
  if root.toList.getLast? = some '/' then root ++ name else root ++ "/" ++ name

def parent (path : String) : Option (List (List Char)) :=
  if components path = [] then none else some (components path).dropLast

def rejectNestedPaths (archive quarantineRoot : String) : Except RestoreError Unit :=
  if archive == quarantineRoot || startsWith archive quarantineRoot ||
      startsWith quarantineRoot archive then
    .error (.unsafePath "archive and quarantine directories must not contain one another")
  else .ok ()

/-! Archives -/

/-- The regular files below a directory, with their paths relative to it. -/
abbrev ArchiveFiles := List (String × List UInt8)

structure ArchiveSeal where
  sha256 : String
  fileCount : ℕ
  byteCount : ℕ
  deriving DecidableEq

def littleEndian (width value : ℕ) : List UInt8 :=
  (List.range width).map fun position => UInt8.ofNat (value / 256 ^ position)

/-- What the seal hashes of one file. -/
def sealedFile (file : String × List UInt8) : List UInt8 :=
  Bytes.utf8 file.1 ++ [0] ++ littleEndian 8 file.2.length ++ Sha256.hash file.2

def sortedFiles (files : ArchiveFiles) : ArchiveFiles :=
  Ordered.sortBy (fun file => components file.1) files

def archiveSeal (files : ArchiveFiles) : Except RestoreError ArchiveSeal := do
  require (decide (files.length ≤ maxArchiveSealFileCount))
    "restoration archive exceeds the seal file-count limit"
  require (decide ((files.map (·.2.length)).sum < 2 ^ 64)) "archive seal byte count overflowed"
  return {
    sha256 := Sha256.hexDigest ((sortedFiles files).flatMap sealedFile)
    fileCount := files.length
    byteCount := (files.map (·.2.length)).sum }

/-- What the readers of an archive make of its files. -/
structure ArchiveReader where
  loadReport : ArchiveFiles → Except RestoreError RestorationReport
  auditArchive : ArchiveFiles → Except RestoreError Unit

end GreenBubbles.Follow
