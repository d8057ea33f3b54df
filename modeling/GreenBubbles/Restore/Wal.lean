import GreenBubbles.Basic
import GreenBubbles.Library.Bytes
import GreenBubbles.Library.Overlay

/-! # The write-ahead log of an encrypted database

One scan of the log finds its last commit. A second pass decrypts the pages of the
frames up to it and writes them into the decrypted database. Reports of progress
are left out.
-/
namespace GreenBubbles.Restore

open Library Library.Bytes Library.Overlay

def walHeaderSize : ℕ := 32
def walFrameHeaderSize : ℕ := 24
def walMagicBe : ℕ := 0x377f0682
def walMagicLe : ℕ := 0x377f0683
def maxPageNumber : ℕ := 1000000

def sqliteHeader : List UInt8 := utf8 "SQLite format 3\x00"

/-- What the log is applied with: the size of a page and how one is decrypted, under
its number from zero. The first page comes back without the place of its salt. -/
structure PageCodec (ε : Type) where
  pageSize : ℕ
  decryptPage : List UInt8 → ℕ → Except ε (List UInt8)
  invalidWalHeader : String → ε
  salted : sqliteHeader.length < pageSize
  decryptPage_length : ∀ {buffer number page}, decryptPage buffer number = .ok page →
    page.length + (if number = 0 then sqliteHeader.length else 0) = pageSize

def fromBeBytes (bytes : List UInt8) : ℕ :=
  bytes.foldl (fun value byte => value * 256 + byte.toNat) 0

/-- The big-endian word of four bytes at an offset. -/
def word (buffer : List UInt8) (offset : ℕ) : ℕ := fromBeBytes ((buffer.drop offset).take 4)

structure WalHeader where
  salt1 : ℕ
  salt2 : ℕ
  deriving DecidableEq

structure WalFrameHeader where
  pageNumber : ℕ
  commitSize : ℕ
  salt1 : ℕ
  salt2 : ℕ
  deriving DecidableEq

def lowerHex8 (value : ℕ) : String :=
  String.ofList ((List.range 8).map fun digit => hexDigit (value / 16 ^ (7 - digit) % 16))

def knownMagic (buffer : List UInt8) : Bool :=
  word buffer 0 == walMagicBe || word buffer 0 == walMagicLe

def WalHeader.salts (buffer : List UInt8) : WalHeader where
  salt1 := word buffer 16
  salt2 := word buffer 20

variable {ε : Type} (codec : PageCodec ε)

def WalHeader.parse (buffer : List UInt8) : Except ε WalHeader :=
  if knownMagic buffer then .ok (.salts buffer)
  else .error (codec.invalidWalHeader ("bad magic: 0x" ++ lowerHex8 (word buffer 0)))

def WalFrameHeader.parse (buffer : List UInt8) : WalFrameHeader where
  pageNumber := word buffer 0
  commitSize := word buffer 4
  salt1 := word buffer 8
  salt2 := word buffer 12

def WalFrameHeader.isValid (frame : WalFrameHeader) (wal : WalHeader) : Bool :=
  frame.pageNumber > 0 && frame.pageNumber ≤ maxPageNumber && frame.salt1 == wal.salt1 &&
    frame.salt2 == wal.salt2

def PageCodec.frameSize : ℕ := walFrameHeaderSize + codec.pageSize

def PageCodec.totalFrames (wal : List UInt8) : ℕ :=
  (wal.length - walHeaderSize) / codec.frameSize

def PageCodec.headerOffset (frameIndex : ℕ) : ℕ := walHeaderSize + frameIndex * codec.frameSize

/-- The scan for the last commit. -/
def lastCommit (header : WalHeader) (wal : List UInt8) : Option ℕ :=
  (List.range (codec.totalFrames wal)).foldl
    (fun last frameIndex =>
      let frameHeader := WalFrameHeader.parse
        ((wal.drop (codec.headerOffset frameIndex)).take walFrameHeaderSize)
      if frameHeader.isValid header && frameHeader.commitSize > 0 then some frameIndex else last)
    none

/-- The log from its cursor on, the database, and how many frames have been written to it. -/
structure Applying where
  walFile : List UInt8
  databaseFile : List UInt8
  patchedFrames : ℕ

def applyFrame (header : WalHeader) (state : Applying) : Except ε Applying := do
  let frameHeader := WalFrameHeader.parse (state.walFile.take walFrameHeaderSize)
  let pageBuffer := (state.walFile.drop walFrameHeaderSize).take codec.pageSize
  let walFile := state.walFile.drop codec.frameSize
  if frameHeader.isValid header && pageBuffer.any (· != 0) then
    let pageNumber := frameHeader.pageNumber - 1
    let decrypted ← codec.decryptPage pageBuffer pageNumber
    let offset := pageNumber * codec.pageSize
    let databaseFile :=
      if pageNumber = 0 then
        writeAt 0 (writeAt 0 state.databaseFile offset sqliteHeader) (offset + sqliteHeader.length)
          decrypted
      else writeAt 0 state.databaseFile offset decrypted
    return ⟨walFile, databaseFile, state.patchedFrames + 1⟩
  else return { state with walFile }

/-- The database after the log is applied, and how many frames were written to it. -/
def applyEncryptedWalWithProgress (wal database : List UInt8) : Except ε (List UInt8 × ℕ) :=
  if wal.length < walHeaderSize then .ok (database, 0)
  else do
    let header ← WalHeader.parse codec (wal.take walHeaderSize)
    match lastCommit codec header wal with
    | none => return (database, 0)
    | some last =>
      let applied ← (List.range (last + 1)).foldlM (fun state _ => applyFrame codec header state)
        ⟨wal.drop walHeaderSize, database, 0⟩
      return (applied.databaseFile, applied.patchedFrames)

/-! The frames of a log -/

structure WalFrame where
  headerBytes : List UInt8
  payload : List UInt8
  deriving DecidableEq

namespace WalFrame

def header (frame : WalFrame) : WalFrameHeader := .parse frame.headerBytes

/-- The number of the page from zero. -/
def number (frame : WalFrame) : ℕ := frame.header.pageNumber - 1

/-- The scan takes the frame for a commit. -/
def commits (wal : WalHeader) (frame : WalFrame) : Bool :=
  frame.header.isValid wal && frame.header.commitSize > 0

/-- The second pass writes the frame into the database. -/
def taken (wal : WalHeader) (frame : WalFrame) : Bool :=
  frame.header.isValid wal && frame.payload.any (· != 0)

/-- The page of the frame as it is written, with the header of the file on the first page. -/
def page (frame : WalFrame) : Except ε (List UInt8) :=
  (codec.decryptPage frame.payload frame.number).map fun page =>
    if frame.number = 0 then sqliteHeader ++ page else page

end WalFrame

def frameAt (wal : List UInt8) (frameIndex : ℕ) : WalFrame where
  headerBytes := (wal.drop (codec.headerOffset frameIndex)).take walFrameHeaderSize
  payload := (wal.drop (codec.headerOffset frameIndex + walFrameHeaderSize)).take codec.pageSize

def walFrames (wal : List UInt8) : List WalFrame :=
  (List.range (codec.totalFrames wal)).map (frameAt codec wal)

/-- The frames that are written into the database. -/
def replayedFrames (wal : List UInt8) : List WalFrame :=
  (committed (·.commits (.salts wal)) (walFrames codec wal)).filter (·.taken (.salts wal))

/-- The numbers and pages the frames are written as. -/
def pageWrites (frames : List WalFrame) : Except ε (List (ℕ × List UInt8)) :=
  frames.mapM fun frame => (frame.page codec).map (frame.number, ·)

variable {codec} {wal database : List UInt8} {header : WalHeader} {frames : List WalFrame}

theorem WalFrame.length_page {frame : WalFrame} {page : List UInt8}
    (h : frame.page codec = .ok page) : page.length = codec.pageSize := by
  rw [WalFrame.page] at h
  cases hdecrypt : codec.decryptPage frame.payload frame.number with
  | error error => rw [hdecrypt] at h; cases h
  | ok decrypted =>
    have hlength := codec.decryptPage_length hdecrypt
    rw [hdecrypt, Except.map] at h
    obtain rfl := Except.ok.inj h
    split_ifs at hlength ⊢
    · rw [List.length_append]
      omega
    · exact hlength

/-- One frame is applied as one write of a page, where it is taken. -/
theorem applyFrame_eq (state : Applying) (frameIndex : ℕ)
    (hwal : state.walFile = wal.drop (codec.headerOffset frameIndex)) :
    applyFrame codec header state =
      (pageWrites codec ([frameAt codec wal frameIndex].filter (·.taken header))).map fun writes =>
        ⟨wal.drop (codec.headerOffset (frameIndex + 1)),
          writePages 0 codec.pageSize state.databaseFile writes,
          state.patchedFrames + writes.length⟩ := by
  have hrest : (wal.drop (codec.headerOffset frameIndex)).drop codec.frameSize =
      wal.drop (codec.headerOffset (frameIndex + 1)) := by
    rw [List.drop_drop, PageCodec.headerOffset, PageCodec.headerOffset, Nat.succ_mul,
      Nat.add_assoc]
  have hpayload : ((wal.drop (codec.headerOffset frameIndex)).drop walFrameHeaderSize).take
      codec.pageSize = (frameAt codec wal frameIndex).payload := by
    rw [List.drop_drop, frameAt]
  have hheader : WalFrameHeader.parse ((wal.drop (codec.headerOffset frameIndex)).take
      walFrameHeaderSize) = (frameAt codec wal frameIndex).header := rfl
  rw [applyFrame, hwal, hrest, hpayload, hheader]
  generalize frameAt codec wal frameIndex = frame
  by_cases htaken : frame.taken header = true
  · rw [List.filter_singleton, htaken, cond_true, pageWrites, List.mapM_cons, List.mapM_nil]
    rw [WalFrame.taken] at htaken
    rw [if_pos htaken, WalFrame.page, WalFrame.number]
    dsimp only
    cases codec.decryptPage frame.payload (frame.header.pageNumber - 1) with
    | error error => rfl
    | ok decrypted =>
      by_cases hfirst : frame.header.pageNumber - 1 = 0
      · have hbehind := @writeAt_behind _ 0 state.databaseFile sqliteHeader decrypted 0
        rw [Nat.zero_add] at hbehind
        simp [bind, Except.bind, pure, Except.pure, Except.map, writePages, hfirst, hbehind]
      · simp [bind, Except.bind, pure, Except.pure, Except.map, writePages, hfirst]
  · rw [Bool.not_eq_true] at htaken
    rw [List.filter_singleton, htaken, cond_false]
    rw [WalFrame.taken] at htaken
    rw [htaken]
    rfl

theorem pageWrites_append {more : List WalFrame} :
    pageWrites codec (frames ++ more) = do
      let first ← pageWrites codec frames
      let second ← pageWrites codec more
      return first ++ second := List.mapM_append ..

/-- The frames are applied as the writes of those that are taken. -/
theorem applyFrames_eq (n : ℕ) :
    (List.range n).foldlM (fun state _ => applyFrame codec header state)
        ⟨wal.drop walHeaderSize, database, 0⟩ =
      (pageWrites codec (((List.range n).map (frameAt codec wal)).filter (·.taken header))).map
        fun writes => ⟨wal.drop (codec.headerOffset n),
          writePages 0 codec.pageSize database writes, writes.length⟩ := by
  induction n with
  | zero =>
    simp [pageWrites, PageCodec.headerOffset, Except.map, pure, Except.pure, writePages]
  | succ n ih =>
    rw [List.range_succ, List.foldlM_append, ih, List.map_append, List.filter_append,
      pageWrites_append]
    cases pageWrites codec (((List.range n).map (frameAt codec wal)).filter (·.taken header)) with
    | error error => rfl
    | ok writes =>
      have happly := @applyFrame_eq _ codec wal header
        ⟨wal.drop (codec.headerOffset n), writePages 0 codec.pageSize database writes,
          writes.length⟩ n rfl
      simp only [Except.map, bind, Except.bind, List.foldlM_cons, List.foldlM_nil, pure,
        Except.pure, List.map_cons, List.map_nil] at happly ⊢
      rw [happly]
      cases pageWrites codec ([frameAt codec wal n].filter (·.taken header)) with
      | error error => rfl
      | ok more => simp [writePages]

theorem word_take {buffer : List UInt8} {offset n : ℕ} (h : offset + 4 ≤ n) :
    word (buffer.take n) offset = word buffer offset := by
  rw [word, List.drop_take, List.take_take, Nat.min_eq_left (by omega), word]

theorem parse_header (h : knownMagic wal = true) :
    WalHeader.parse codec (wal.take walHeaderSize) = .ok (.salts wal) := by
  have hmagic : knownMagic (wal.take walHeaderSize) = true := by
    rw [knownMagic, word_take (by decide)]
    exact h
  rw [WalHeader.parse, if_pos hmagic, WalHeader.salts, word_take (by decide), word_take (by decide),
    ← WalHeader.salts]

/-- The log is applied as the writes of the frames that are replayed. -/
theorem applyEncryptedWal_eq (h : wal.length < walHeaderSize ∨ knownMagic wal = true) :
    applyEncryptedWalWithProgress codec wal database =
      (pageWrites codec (replayedFrames codec wal)).map fun writes =>
        (writePages 0 codec.pageSize database writes, writes.length) := by
  by_cases hshort : wal.length < walHeaderSize
  · have hnone : walFrames codec wal = [] := by
      rw [walFrames, PageCodec.totalFrames, Nat.sub_eq_zero_of_le hshort.le, Nat.zero_div]
      rfl
    rw [applyEncryptedWalWithProgress, if_pos hshort, replayedFrames, hnone]
    rfl
  · have hscan := @scan_committed _ (·.commits (.salts wal)) (frameAt codec wal)
      (codec.totalFrames wal)
    rw [applyEncryptedWalWithProgress, if_neg hshort, parse_header (h.resolve_left hshort)]
    change (match lastCommit codec (.salts wal) wal with
      | none => _
      | some last => _) = _
    have hlast : lastCommit codec (.salts wal) wal = (List.range (codec.totalFrames wal)).foldl
        (fun last i => if (frameAt codec wal i).commits (.salts wal) then some i else last) none :=
      rfl
    rw [replayedFrames, walFrames]
    cases hfound : lastCommit codec (.salts wal) wal with
    | none =>
      rw [← hlast, hfound] at hscan
      rw [← hscan.1]
      rfl
    | some last =>
      rw [← hlast, hfound] at hscan
      have hle : last + 1 ≤ codec.totalFrames wal := hscan.2 last rfl
      rw [← hscan.1, Option.elim_some, ← List.map_take, List.take_range, Nat.min_eq_left hle]
      dsimp only
      rw [applyFrames_eq]
      cases pageWrites codec (((List.range (last + 1)).map (frameAt codec wal)).filter
        (·.taken (.salts wal))) <;> rfl

end GreenBubbles.Restore
