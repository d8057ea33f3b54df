import GreenBubbles.Basic
import GreenBubbles.Library.Pretty
import GreenBubbles.Library.Settling

/-! # The size of an archive in its own report

The report of a restoration names the size of the archive, the report included.
The size is found by writing it down until the report is as long as it says.
-/
namespace GreenBubbles.Restore

open Library Library.Bytes Library.Json Library.Settling

structure RestorationStorageEvidence where
  formatVersion : ℕ
  sourceByteCount : ℕ
  messageRecordCount : ℕ
  observedTableRecordCount : ℕ
  estimatedArchiveByteCount : ℕ
  estimatedStagingByteCount : ℕ
  estimatedPeakByteCount : ℕ
  requiredFreeByteCount : ℕ
  availableFreeByteCountAtStart : ℕ
  peakStagingFileByteCount : ℕ
  stagedUncompressedByteCount : ℕ
  stagedCompressedByteCount : ℕ
  actualArchiveByteCount : ℕ

/-- The report as it is serialized; the records inside it are JSON already. -/
structure RestorationReport where
  formatVersion : ℕ
  accountId : String
  selfParticipantId : Option String
  accountBindingEvidence : Json
  storage : Option RestorationStorageEvidence
  sourceFingerprint : String
  clientBuildCompatibility : Json
  acquisition : Json
  archiveScope : Json
  databaseCoverage : Json
  mediaPhase : Json
  messagesPath : String
  rejectionsPath : String
  artifactsPath : String
  conversationsPath : String
  participantsPath : String
  cachedMomentsPath : Option String
  cachedMomentInteractionsPath : Option String
  cachedSurfacesPath : Option String
  coveragePath : String
  reportPath : String
  integrity : Json
  completion : Json

/-! Serialization -/

def optionalText : Option String → Json
  | some text => .str text
  | none => .null

def RestorationStorageEvidence.toJson (storage : RestorationStorageEvidence) : Json :=
  .obj [("formatVersion", .int storage.formatVersion),
    ("sourceByteCount", .int storage.sourceByteCount),
    ("messageRecordCount", .int storage.messageRecordCount),
    ("observedTableRecordCount", .int storage.observedTableRecordCount),
    ("estimatedArchiveByteCount", .int storage.estimatedArchiveByteCount),
    ("estimatedStagingByteCount", .int storage.estimatedStagingByteCount),
    ("estimatedPeakByteCount", .int storage.estimatedPeakByteCount),
    ("requiredFreeByteCount", .int storage.requiredFreeByteCount),
    ("availableFreeByteCountAtStart", .int storage.availableFreeByteCountAtStart),
    ("peakStagingFileByteCount", .int storage.peakStagingFileByteCount),
    ("stagedUncompressedByteCount", .int storage.stagedUncompressedByteCount),
    ("stagedCompressedByteCount", .int storage.stagedCompressedByteCount),
    ("actualArchiveByteCount", .int storage.actualArchiveByteCount)]

namespace RestorationReport

variable (report : RestorationReport)

def storageJson : Json := (report.storage.map RestorationStorageEvidence.toJson).getD .null

/-- The members behind the storage evidence. -/
def laterMembers : List (String × Json) :=
  [("sourceFingerprint", .str report.sourceFingerprint),
    ("clientBuildCompatibility", report.clientBuildCompatibility),
    ("acquisition", report.acquisition),
    ("archiveScope", report.archiveScope),
    ("databaseCoverage", report.databaseCoverage),
    ("mediaPhase", report.mediaPhase),
    ("messagesPath", .str report.messagesPath),
    ("rejectionsPath", .str report.rejectionsPath),
    ("artifactsPath", .str report.artifactsPath),
    ("conversationsPath", .str report.conversationsPath),
    ("participantsPath", .str report.participantsPath),
    ("cachedMomentsPath", optionalText report.cachedMomentsPath),
    ("cachedMomentInteractionsPath", optionalText report.cachedMomentInteractionsPath),
    ("cachedSurfacesPath", optionalText report.cachedSurfacesPath),
    ("coveragePath", .str report.coveragePath),
    ("reportPath", .str report.reportPath),
    ("integrity", report.integrity),
    ("completion", report.completion)]

def toJson : Json :=
  .obj (("formatVersion", .int report.formatVersion) :: ("accountId", .str report.accountId) ::
    ("selfParticipantId", optionalText report.selfParticipantId) ::
    ("accountBindingEvidence", report.accountBindingEvidence) ::
    ("storage", report.storageJson) :: report.laterMembers)

def toVecPretty : List UInt8 := utf8 (String.ofList (pretty 0 report.toJson))

end RestorationReport

/-- The report with a size in its storage evidence. -/
def RestorationReport.recording (report : RestorationReport) (storage : RestorationStorageEvidence)
    (size : ℕ) : RestorationReport :=
  { report with storage := some { storage with actualArchiveByteCount := size } }

/-- The size is recorded and the report written again until it is as long as it says.
What is published is created, written and flushed by the file system. -/
def writeReportWithExactArchiveSize (publish : List UInt8 → Except RestoreError Unit)
    (archiveByteCountBeforeReport : ℕ) :
    ℕ → RestorationReport → Except RestoreError (RestorationReport × ℕ)
  | 0, _ => .error (.integrity "restoration report size did not converge")
  | passes + 1, report =>
    let bytes := report.toVecPretty
    let exactArchiveByteCount :=
      saturatingAdd 64 (saturatingAdd 64 archiveByteCountBeforeReport bytes.length) 1
    match report.storage with
    | none => .error (.integrity "restoration report lost storage evidence")
    | some storage =>
      if storage.actualArchiveByteCount = exactArchiveByteCount then do
        publish (bytes ++ [10])
        return (report, exactArchiveByteCount)
      else
        writeReportWithExactArchiveSize publish archiveByteCountBeforeReport passes
          (report.recording storage exactArchiveByteCount)

/-- The passes of the source. -/
def maximumSizePasses : ℕ := 8

/-- The bytes of a report in the archive. -/
def RestorationReport.file (report : RestorationReport) : List UInt8 := report.toVecPretty ++ [10]

/-! The length of a report -/

section Length

variable (report : RestorationReport) (storage : RestorationStorageEvidence) (before : ℕ)

theorem length_recording (size : ℕ) :
    (report.recording storage size).toVecPretty.length + 1 =
      (report.recording storage 0).toVecPretty.length + digitCount 10 size := by
  have hsize : byteCount (renderInt size) = digitCount 10 size := byteCount_renderInt size
  have hzero : byteCount (renderInt ((0 : ℕ) : ℤ)) = 1 := by decide
  simp only [RestorationReport.toVecPretty, length_utf8, ← byteCount_toList, String.toList_ofList,
    RestorationReport.toJson, RestorationReport.storageJson, RestorationReport.laterMembers,
    RestorationReport.recording, RestorationStorageEvidence.toJson, Option.map_some,
    Option.getD_some, pretty, byteCount_member, byteCount_cons, byteCount_append, hsize, hzero]
  omega

/-- The size of the archive with a report that records a size. -/
def exactSize (size : ℕ) : ℕ :=
  saturatingAdd 64 (saturatingAdd 64 before (report.recording storage size).toVecPretty.length) 1

theorem exactSize_eq (size : ℕ) :
    exactSize report storage before size =
      min (before + (report.recording storage size).file.length) (2 ^ 64 - 1) := by
  simp only [exactSize, saturatingAdd, RestorationReport.file, List.length_append,
    List.length_singleton]
  omega

theorem exactSize_sized :
    exactSize report storage before =
      sized 10 (2 ^ 64 - 1) (before + (report.recording storage 0).toVecPretty.length) := by
  funext size
  have hlength := length_recording report storage size
  rw [exactSize_eq, sized, RestorationReport.file, List.length_append, List.length_singleton,
    hlength, Nat.add_assoc]

theorem exactSize_settles (size : ℕ) :
    (exactSize report storage before)^[6] size = (exactSize report storage before)^[5] size := by
  rw [exactSize_sized]
  exact @sized_settles 10 20 (2 ^ 64 - 1) (by decide) (by decide) (by decide) (by decide) _ _

end Length

/-! The passes -/

section Passes

variable (publish : List UInt8 → Except RestoreError Unit) (report : RestorationReport)
  (storage : RestorationStorageEvidence) (before : ℕ)

/-- What is written and returned once the size is right. -/
def published (size : ℕ) : Except RestoreError (RestorationReport × ℕ) := do
  publish (report.recording storage size).file
  return (report.recording storage size, size)

/-- One pass: what was recorded is the size, or the size is recorded. -/
theorem write_pass (passes size : ℕ) :
    writeReportWithExactArchiveSize publish before (passes + 1) (report.recording storage size) =
      if exactSize report storage before size = size then published publish report storage size
      else writeReportWithExactArchiveSize publish before passes
        (report.recording storage (exactSize report storage before size)) := by
  rw [writeReportWithExactArchiveSize]
  by_cases hsize : exactSize report storage before size = size
  · rw [if_pos hsize]
    refine (if_pos hsize.symm).trans ?_
    rw [published, ← exactSize, hsize]
    rfl
  · rw [if_neg hsize]
    exact if_neg fun h => hsize h.symm

/-- Where the sizes have settled before the passes are over, the settled size is written. -/
theorem write_settled {passes k size : ℕ} (hk : k < passes)
    (hsettled : (exactSize report storage before)^[k + 1] size =
      (exactSize report storage before)^[k] size) :
    writeReportWithExactArchiveSize publish before passes (report.recording storage size) =
      published publish report storage ((exactSize report storage before)^[k] size) := by
  induction k generalizing passes size with
  | zero =>
    obtain ⟨passes, rfl⟩ := Nat.exists_eq_add_of_lt hk
    rw [write_pass]
    exact if_pos hsettled
  | succ k ih =>
    obtain ⟨passes, rfl⟩ := Nat.exists_eq_add_of_lt hk
    rw [write_pass]
    by_cases hsize : exactSize report storage before size = size
    · rw [if_pos hsize, Function.iterate_fixed hsize]
    · rw [if_neg hsize]
      exact ih (by omega) hsettled

theorem write_unstored (passes : ℕ) :
    writeReportWithExactArchiveSize publish before (passes + 1) { report with storage := none } =
      .error (.integrity "restoration report lost storage evidence") := rfl

/-- At the end of the counter the recorded size stays there. -/
theorem write_full (size : ℕ) :
    writeReportWithExactArchiveSize publish (2 ^ 64 - 1) maximumSizePasses
      (report.recording storage size) = published publish report storage (2 ^ 64 - 1) := by
  have hfull : ∀ size, exactSize report storage (2 ^ 64 - 1) size = 2 ^ 64 - 1 := by
    intro size
    rw [exactSize_eq]
    omega
  have hsettled : (exactSize report storage (2 ^ 64 - 1))^[1 + 1] size =
      (exactSize report storage (2 ^ 64 - 1))^[1] size := by
    rw [Function.iterate_succ_apply', Function.iterate_one, hfull, hfull]
  rw [write_settled publish report storage _ (by decide) hsettled, Function.iterate_one, hfull]

theorem published_ok (size : ℕ) :
    published (fun _ => .ok ()) report storage size =
      .ok (report.recording storage size, size) := rfl

end Passes

/-- A report with storage evidence settles within the passes: its file records the size of the
archive with that file, as far as the counter reaches. One without is refused. -/
theorem reportSize_settles (report : RestorationReport) (storage : RestorationStorageEvidence)
    (before : ℕ) :
    (∃ size, size = min (before + (report.recording storage size).file.length) (2 ^ 64 - 1) ∧
      ∀ publish, writeReportWithExactArchiveSize publish before maximumSizePasses
        { report with storage := some storage } = published publish report storage size) ∧
      ∀ publish, writeReportWithExactArchiveSize publish before maximumSizePasses
        { report with storage := none } =
          .error (.integrity "restoration report lost storage evidence") := by
  have hsettled := exactSize_settles report storage before storage.actualArchiveByteCount
  refine ⟨⟨(exactSize report storage before)^[5] storage.actualArchiveByteCount, ?_, ?_⟩, ?_⟩
  · rw [← exactSize_eq, ← Function.iterate_succ_apply' (exactSize report storage before),
      hsettled]
  · intro publish
    exact write_settled publish report storage before (by decide) hsettled
  · intro publish
    exact write_unstored publish report before _

def sampleStorage : RestorationStorageEvidence :=
  ⟨1, 0, 0, 0, 0, 0, 0, 0, 0, 0, 0, 0, 0⟩

def sampleReport : RestorationReport where
  formatVersion := 6
  accountId := "owner"
  selfParticipantId := none
  accountBindingEvidence := .null
  storage := none
  sourceFingerprint := ""
  clientBuildCompatibility := .null
  acquisition := .null
  archiveScope := .null
  databaseCoverage := .null
  mediaPhase := .null
  messagesPath := "messages.jsonl"
  rejectionsPath := "rejections.jsonl"
  artifactsPath := "artifacts.jsonl"
  conversationsPath := "conversations.jsonl"
  participantsPath := "participants.jsonl"
  cachedMomentsPath := none
  cachedMomentInteractionsPath := none
  cachedSurfacesPath := none
  coveragePath := "coverage.jsonl"
  reportPath := "report.json"
  integrity := .null
  completion := .null

/-- Without storage evidence nothing is written, and a full counter records less than there is. -/
theorem fullArchive_uncounted :
    writeReportWithExactArchiveSize (fun _ => .ok ()) 0 maximumSizePasses sampleReport =
        .error (.integrity "restoration report lost storage evidence") ∧
      writeReportWithExactArchiveSize (fun _ => .ok ()) (2 ^ 64 - 1) maximumSizePasses
          (sampleReport.recording sampleStorage 0) =
        .ok (sampleReport.recording sampleStorage (2 ^ 64 - 1), 2 ^ 64 - 1) ∧
      2 ^ 64 - 1 ≠ (2 ^ 64 - 1) +
        (sampleReport.recording sampleStorage (2 ^ 64 - 1)).file.length := by
  refine ⟨write_unstored _ sampleReport 0 7, ?_, ?_⟩
  · rw [write_full, published_ok]
  · have hnewline : 0 < (sampleReport.recording sampleStorage (2 ^ 64 - 1)).file.length := by
      rw [RestorationReport.file, List.length_append]
      exact Nat.add_pos_right _ Nat.one_pos
    omega

end GreenBubbles.Restore
