import GreenBubbles.Restore.Wal

/-! # What recovery exposes of a log

SQLite recovers the frames of a log up to the first one that is not valid, cuts them
back to their last commit and exposes a database of as many pages as that commit
names. The log is applied to the same end exactly where the frames that are skipped,
replayed too many or recovered alone make no difference.
-/
namespace GreenBubbles.Restore

open Library Library.Bytes Library.Overlay

/-! Recovery -/

def walVersion : ℕ := 3007000

def fromLeBytes (bytes : List UInt8) : ℕ :=
  bytes.foldr (fun byte value => byte.toNat + 256 * value) 0

/-- The running checksum over words of four bytes. -/
def walChecksum (read : List UInt8 → ℕ) : ℕ × ℕ → List UInt8 → ℕ × ℕ
  | sums, a :: b :: c :: d :: e :: f :: g :: h :: rest =>
    let first := (sums.1 + read [a, b, c, d] + sums.2) % 2 ^ 32
    let second := (sums.2 + read [e, f, g, h] + first) % 2 ^ 32
    walChecksum read (first, second) rest
  | sums, _ => sums

/-- The lowest bit of the magic number tells the byte order of the checksums. -/
def checksumWord (wal : List UInt8) : List UInt8 → ℕ :=
  if word wal 0 % 2 = 1 then fromBeBytes else fromLeBytes

def storedSums (buffer : List UInt8) (offset : ℕ) : ℕ × ℕ :=
  (word buffer offset, word buffer (offset + 4))

variable {ε : Type} (codec : PageCodec ε)

/-- The header of a log of the database, by its own checksum. -/
def soundHeader (wal : List UInt8) : Bool :=
  wal.length > walHeaderSize && knownMagic wal && word wal 8 == codec.pageSize &&
    walChecksum (checksumWord wal) (0, 0) (wal.take 24) == storedSums wal 24

/-- SQLite does not open a database whose log has another version. -/
def refused (wal : List UInt8) : Bool := soundHeader codec wal && word wal 4 != walVersion

/-- The checksum behind a valid frame. -/
def recoverFrame (wal : List UInt8) (sums : ℕ × ℕ) (frame : WalFrame) : Option (ℕ × ℕ) :=
  let after := walChecksum (checksumWord wal) sums (frame.headerBytes.take 8 ++ frame.payload)
  if frame.header.salt1 = (WalHeader.salts wal).salt1 ∧
      frame.header.salt2 = (WalHeader.salts wal).salt2 ∧ frame.header.pageNumber ≠ 0 ∧
      storedSums frame.headerBytes 16 = after then some after
  else none

def recoveredFrames (wal : List UInt8) : List WalFrame :=
  if soundHeader codec wal then
    committed (·.header.commitSize > 0)
      (accepted (recoverFrame wal) (storedSums wal 24) (walFrames codec wal))
  else []

/-- A database of whole pages. -/
structure DatabaseImage (pageSize : ℕ) where
  bytes : List UInt8
  pageCount : ℕ
  whole : bytes.length = pageCount * pageSize

variable (database : DatabaseImage codec.pageSize) (wal : List UInt8)

/-- The pages of the last commit, or of the database where there is none. -/
def exposedCount : ℕ :=
  match (recoveredFrames codec wal).getLast? with
  | some commit => commit.header.commitSize
  | none => database.pageCount

/-- The page a frame holds; a blank one is read without the key. -/
def WalFrame.decoded (frame : WalFrame) : Option (List UInt8) :=
  if frame.payload.any (· != 0) then (frame.page codec).toOption
  else some (List.replicate codec.pageSize 0)

/-- The last frame of a page. -/
def lastOn (frames : List WalFrame) (n : ℕ) : Option WalFrame :=
  frames.reverse.find? fun frame => frame.number = n

/-- What a page holds after the frames. -/
def contents (frames : List WalFrame) (n : ℕ) : Option (List UInt8) :=
  match lastOn frames n with
  | some frame => frame.decoded codec
  | none => some (page 0 codec.pageSize database.bytes n)

/-- The database that recovery exposes. -/
def exposedImage : Option (List UInt8) :=
  if refused codec wal then none
  else ((List.range (exposedCount codec database wal)).mapM
    (contents codec database (recoveredFrames codec wal))).map List.flatten

/-- The log is applied to the database that recovery exposes. -/
def AppliedAsRecovered : Prop :=
  ∃ image patchedFrames,
    applyEncryptedWalWithProgress codec wal database.bytes = .ok (image, patchedFrames) ∧
      exposedImage codec database wal = some image

/-- The log is none, or has a magic number and a known version. Every frame that is
replayed is decrypted, and the database grows or shrinks to the pages of the last
commit. Where the last frames of a page differ, they hold the same page. -/
structure ReplayAgrees : Prop where
  opened : wal.length < walHeaderSize ∨ knownMagic wal = true
  admitted : refused codec wal = false
  decrypts : ∀ frame ∈ replayedFrames codec wal,
    ∃ page, codec.decryptPage frame.payload frame.number = .ok page
  counted : extent database.pageCount ((replayedFrames codec wal).map (·.number)) =
    exposedCount codec database wal
  shown : ∀ n < exposedCount codec database wal,
    lastOn (replayedFrames codec wal) n ≠ lastOn (recoveredFrames codec wal) n →
      contents codec database (replayedFrames codec wal) n =
        contents codec database (recoveredFrames codec wal) n

/-! Pages that are written -/

variable {codec database wal} {frames : List WalFrame} {frame : WalFrame}
  {writes : List (ℕ × List UInt8)} {cells : List UInt8} {n : ℕ}

theorem pageWrites_concat : pageWrites codec (frames ++ [frame]) = .ok writes ↔
    ∃ earlier cells, pageWrites codec frames = .ok earlier ∧ frame.page codec = .ok cells ∧
      writes = earlier ++ [(frame.number, cells)] := by
  rw [pageWrites_append]
  cases hearlier : pageWrites codec frames with
  | error error => simp [bind, Except.bind]
  | ok earlier =>
    cases hpage : frame.page codec with
    | error error => simp [pageWrites, hpage, bind, Except.bind, Except.map]
    | ok cells =>
      simp [pageWrites, hpage, bind, Except.bind, Except.map, pure, Except.pure, eq_comm]

theorem pageWrites_ok : (∃ writes, pageWrites codec frames = .ok writes) ↔
    ∀ frame ∈ frames, ∃ page, codec.decryptPage frame.payload frame.number = .ok page := by
  induction frames using List.reverseRecOn with
  | nil => simp [pageWrites, pure, Except.pure]
  | append_singleton frames frame ih =>
    have hpage : (∃ cells, frame.page codec = .ok cells) ↔
        ∃ page, codec.decryptPage frame.payload frame.number = .ok page := by
      rw [WalFrame.page]
      cases codec.decryptPage frame.payload frame.number <;> simp [Except.map]
    rw [List.forall_mem_append, List.forall_mem_singleton, ← ih, ← hpage]
    simp only [pageWrites_concat]
    constructor
    · rintro ⟨writes, earlier, cells, hearlier, hcells, -⟩
      exact ⟨⟨earlier, hearlier⟩, cells, hcells⟩
    · rintro ⟨⟨earlier, hearlier⟩, cells, hcells⟩
      exact ⟨_, earlier, cells, hearlier, hcells, rfl⟩

theorem pageWrites_numbers (h : pageWrites codec frames = .ok writes) :
    writes.map (·.1) = frames.map (·.number) := by
  induction frames using List.reverseRecOn generalizing writes with
  | nil =>
    obtain rfl := Except.ok.inj h
    rfl
  | append_singleton frames frame ih =>
    obtain ⟨earlier, cells, hearlier, -, rfl⟩ := pageWrites_concat.mp h
    rw [List.map_append, List.map_append, ih hearlier]
    rfl

theorem pageWrites_length (h : pageWrites codec frames = .ok writes) :
    ∀ write ∈ writes, write.2.length = codec.pageSize := by
  induction frames using List.reverseRecOn generalizing writes with
  | nil =>
    obtain rfl := Except.ok.inj h
    exact List.forall_mem_nil _
  | append_singleton frames frame ih =>
    obtain ⟨earlier, cells, hearlier, hcells, rfl⟩ := pageWrites_concat.mp h
    rw [List.forall_mem_append, List.forall_mem_singleton]
    exact ⟨ih hearlier, WalFrame.length_page hcells⟩

/-- The last write of a page is that of its last frame. -/
theorem latest_pageWrites (h : pageWrites codec frames = .ok writes) :
    latest writes n = (lastOn frames n).bind fun frame => (frame.page codec).toOption := by
  induction frames using List.reverseRecOn generalizing writes with
  | nil =>
    obtain rfl := Except.ok.inj h
    rfl
  | append_singleton frames frame ih =>
    obtain ⟨earlier, cells, hearlier, hcells, rfl⟩ := pageWrites_concat.mp h
    have hrest := ih hearlier
    rw [latest, lastOn] at hrest
    rw [latest, lastOn, List.reverse_append, List.reverse_append]
    by_cases hnumber : frame.number = n
    · simp [hnumber, hcells, Except.toOption]
    · simp [hnumber, hrest]

theorem decoded_of_taken {header : WalHeader} (h : frame.taken header = true) :
    frame.decoded codec = (frame.page codec).toOption := by
  rw [WalFrame.taken, Bool.and_eq_true] at h
  rw [WalFrame.decoded, if_pos h.2]

theorem taken_of_lastOn (h : lastOn (replayedFrames codec wal) n = some frame) :
    frame.taken (.salts wal) = true := by
  have hmem := List.mem_reverse.mp (List.mem_of_find?_eq_some h)
  exact (List.mem_filter.mp hmem).2

/-- The pages of the database after the frames are replayed. -/
theorem contents_replayed (h : pageWrites codec (replayedFrames codec wal) = .ok writes) (n : ℕ) :
    contents codec database (replayedFrames codec wal) n =
      some (page 0 codec.pageSize (writePages 0 codec.pageSize database.bytes writes) n) := by
  rw [page_writePages (pageWrites_length h), latest_pageWrites h, contents]
  cases hlast : lastOn (replayedFrames codec wal) n with
  | none => rfl
  | some frame =>
    have hmem := List.mem_reverse.mp (List.mem_of_find?_eq_some hlast)
    obtain ⟨page, hpage⟩ := pageWrites_ok.mp ⟨writes, h⟩ frame hmem
    have hcells : frame.page codec =
        .ok (if frame.number = 0 then sqliteHeader ++ page else page) := by
      rw [WalFrame.page, hpage]
      rfl
    simp [decoded_of_taken (taken_of_lastOn hlast), hcells, Except.toOption]

theorem length_contents (h : contents codec database frames n = some cells) :
    cells.length = codec.pageSize := by
  rw [contents] at h
  cases hlast : lastOn frames n with
  | none =>
    rw [hlast] at h
    obtain rfl := Option.some.inj h
    exact length_page
  | some frame =>
    rw [hlast] at h
    dsimp only at h
    rw [WalFrame.decoded] at h
    split_ifs at h with hblank
    · cases hpage : frame.page codec with
      | error error => rw [hpage] at h; cases h
      | ok page =>
        rw [hpage] at h
        obtain rfl := Option.some.inj h
        exact WalFrame.length_page hpage
    · obtain rfl := Option.some.inj h
      exact List.length_replicate

/-! What the log is applied to -/

theorem pageSize_pos : 0 < codec.pageSize := Nat.zero_lt_of_lt codec.salted

theorem applied_opened {result : List UInt8 × ℕ}
    (h : applyEncryptedWalWithProgress codec wal database.bytes = .ok result) :
    wal.length < walHeaderSize ∨ knownMagic wal = true := by
  by_contra hunknown
  rw [not_or, Bool.not_eq_true] at hunknown
  have hmagic : knownMagic (wal.take walHeaderSize) = false := by
    rw [knownMagic, word_take (by decide)]
    exact hunknown.2
  rw [applyEncryptedWalWithProgress, if_neg hunknown.1, WalHeader.parse, hmagic] at h
  cases h

/-- The image that is exposed has the pages that are recovered. -/
theorem exposedImage_eq_some {image : List UInt8} :
    exposedImage codec database wal = some image ↔ refused codec wal = false ∧
      image.length = exposedCount codec database wal * codec.pageSize ∧
      ∀ n < exposedCount codec database wal,
        contents codec database (recoveredFrames codec wal) n =
          some (page 0 codec.pageSize image n) := by
  rw [exposedImage]
  generalize exposedCount codec database wal = count
  by_cases hrefused : refused codec wal = true
  · simp [hrefused]
  rw [if_neg hrefused, Option.map_eq_some_iff]
  rw [Bool.not_eq_true] at hrefused
  simp only [mapM_range_eq_some, hrefused, true_and]
  constructor
  · rintro ⟨pages, ⟨rfl, hpages⟩, rfl⟩
    have hlength : ∀ cells ∈ pages, cells.length = codec.pageSize := by
      intro cells hcells
      obtain ⟨m, hm, rfl⟩ := List.getElem_of_mem hcells
      exact length_contents (hpages m hm)
    refine ⟨length_flatten hlength, fun n hn => ?_⟩
    rw [hpages n hn, page_flatten hlength hn]
  · rintro ⟨hlength, hpages⟩
    have hcells : ∀ cells ∈ (List.range count).map (page 0 codec.pageSize image),
        cells.length = codec.pageSize := by
      intro cells hcells
      obtain ⟨m, -, rfl⟩ := List.mem_map.mp hcells
      exact length_page
    have hcount : ((List.range count).map (page 0 codec.pageSize image)).length = count := by simp
    refine ⟨_, ⟨hcount, fun m hm => ?_⟩, ?_⟩
    · rw [hpages m (hcount ▸ hm)]
      simp
    · have hflat := length_flatten hcells
      rw [hcount] at hflat
      refine @eq_of_pages _ 0 _ _ _ _ pageSize_pos hflat hlength fun m hm => ?_
      rw [page_flatten hcells (hcount.symm ▸ hm)]
      simp

theorem AppliedAsRecovered.agrees (h : AppliedAsRecovered codec database wal) :
    ReplayAgrees codec database wal := by
  obtain ⟨image, patchedFrames, happlied, hexposed⟩ := h
  have hopened := applied_opened happlied
  obtain ⟨hadmitted, hlength, hpages⟩ := exposedImage_eq_some.mp hexposed
  rw [applyEncryptedWal_eq hopened] at happlied
  cases hwrites : pageWrites codec (replayedFrames codec wal) with
  | error error => rw [hwrites] at happlied; cases happlied
  | ok writes =>
    rw [hwrites] at happlied
    obtain ⟨rfl, -⟩ := Prod.mk.inj (Except.ok.inj happlied)
    refine ⟨hopened, hadmitted, pageWrites_ok.mp ⟨writes, hwrites⟩, ?_, ?_⟩
    · rw [length_writePages (pageWrites_length hwrites) database.whole,
        pageWrites_numbers hwrites] at hlength
      exact Nat.eq_of_mul_eq_mul_right pageSize_pos hlength
    · intro n hn _
      rw [hpages n hn, contents_replayed hwrites]

theorem ReplayAgrees.applied (h : ReplayAgrees codec database wal) :
    AppliedAsRecovered codec database wal := by
  obtain ⟨writes, hwrites⟩ := pageWrites_ok.mpr h.decrypts
  refine ⟨writePages 0 codec.pageSize database.bytes writes, writes.length, ?_, ?_⟩
  · rw [applyEncryptedWal_eq h.opened, hwrites]
    rfl
  · rw [exposedImage_eq_some]
    refine ⟨h.admitted, ?_, fun n hn => ?_⟩
    · rw [length_writePages (pageWrites_length hwrites) database.whole,
        pageWrites_numbers hwrites, h.counted]
    · rw [← contents_replayed hwrites]
      by_cases hsame : lastOn (replayedFrames codec wal) n = lastOn (recoveredFrames codec wal) n
      · rw [contents, contents, hsame]
      · exact (h.shown n hn hsame).symm

/-- A log is applied to the database that recovery exposes exactly where the replay agrees. -/
theorem appliedAsRecovered_iff (codec : PageCodec ε) (database : DatabaseImage codec.pageSize)
    (wal : List UInt8) :
    AppliedAsRecovered codec database wal ↔ ReplayAgrees codec database wal := by
  constructor
  · exact fun h => h.agrees
  · exact fun h => h.applied

/-! Logs that nothing tore -/

/-- The frames behind the valid ones are left over from earlier salts. -/
structure Untorn (codec : PageCodec ε) (wal : List UInt8) (stale : List WalFrame) : Prop where
  sound : soundHeader codec wal = true
  version : word wal 4 = walVersion
  frames : walFrames codec wal =
    accepted (recoverFrame wal) (storedSums wal 24) (walFrames codec wal) ++ stale
  earlier : ∀ frame ∈ stale, (frame.header.salt1, frame.header.salt2) ≠
    ((WalHeader.salts wal).salt1, (WalHeader.salts wal).salt2)
  numbered : ∀ frame ∈ walFrames codec wal, frame.header.pageNumber ≤ maxPageNumber

theorem Untorn.valid {stale : List WalFrame} (h : Untorn codec wal stale)
    (hframe : frame ∈ accepted (recoverFrame wal) (storedSums wal 24) (walFrames codec wal)) :
    frame.header.isValid (.salts wal) = true := by
  obtain ⟨before, after, hstep⟩ := step_of_mem_accepted hframe
  have hnumber := h.numbered frame ((accepted_starts _ _ _).subset hframe)
  rw [recoverFrame] at hstep
  split_ifs at hstep with hvalid
  obtain ⟨hsalt1, hsalt2, hpage, -⟩ := hvalid
  simp [WalFrameHeader.isValid, hsalt1, hsalt2, hnumber, Nat.pos_of_ne_zero hpage]

/-- Where no page is blank, the frames that are replayed are those that are recovered. -/
theorem Untorn.replayed {stale : List WalFrame} (h : Untorn codec wal stale)
    (hfilled : ∀ frame ∈ recoveredFrames codec wal, frame.payload.any (· != 0) = true) :
    replayedFrames codec wal = recoveredFrames codec wal := by
  have hstale : ∀ frame ∈ stale, frame.commits (.salts wal) = false := by
    intro frame hframe
    have hsalts := h.earlier frame hframe
    simp only [ne_eq, Prod.mk.injEq, not_and] at hsalts
    by_cases hsalt1 : frame.header.salt1 = (WalHeader.salts wal).salt1
    · simp [WalFrame.commits, WalFrameHeader.isValid, hsalts hsalt1]
    · simp [WalFrame.commits, WalFrameHeader.isValid, hsalt1]
  have hcommitted : committed (·.commits (.salts wal)) (walFrames codec wal) =
      recoveredFrames codec wal := by
    rw [recoveredFrames, if_pos h.sound]
    conv_lhs => rw [h.frames]
    rw [committed_append hstale]
    apply committed_congr
    intro frame hframe
    rw [WalFrame.commits, h.valid hframe, Bool.true_and]
  rw [replayedFrames, hcommitted, List.filter_eq_self]
  intro frame hframe
  have hvalid := hframe
  rw [recoveredFrames, if_pos h.sound] at hvalid
  rw [WalFrame.taken, h.valid (committed_sublist.subset hvalid), hfilled frame hframe, Bool.true_and]

/-- A log that nothing tore is applied as it is recovered, where its pages are not blank
and are decrypted, and its last commit does not shrink the database. -/
theorem Untorn.applied {stale : List WalFrame} (h : Untorn codec wal stale)
    (hfilled : ∀ frame ∈ recoveredFrames codec wal, frame.payload.any (· != 0) = true)
    (hdecrypts : ∀ frame ∈ recoveredFrames codec wal,
      ∃ page, codec.decryptPage frame.payload frame.number = .ok page)
    (hcounted : extent database.pageCount ((recoveredFrames codec wal).map (·.number)) =
      exposedCount codec database wal) : AppliedAsRecovered codec database wal := by
  have hsame := h.replayed hfilled
  have hmagic : knownMagic wal = true := by
    have hsound := h.sound
    simp only [soundHeader, Bool.and_eq_true] at hsound
    exact hsound.1.1.2
  apply ReplayAgrees.applied
  refine ⟨.inr hmagic, ?_, hsame ▸ hdecrypts, hsame ▸ hcounted, fun n _ hdiffer => ?_⟩
  · rw [refused, h.version, bne_self_eq_false, Bool.and_false]
  · exact absurd (by rw [hsame]) hdiffer

/-! A commit that was not written in full -/

/-- A page as it is, but for the salt of the first one. -/
def plainPage (buffer : List UInt8) (number : ℕ) : Except String (List UInt8) :=
  if buffer.length = 4096 then .ok (buffer.drop (if number = 0 then sqliteHeader.length else 0))
  else .error "page has another size"

theorem plainPage_length {buffer page : List UInt8} {number : ℕ}
    (h : plainPage buffer number = .ok page) :
    page.length + (if number = 0 then sqliteHeader.length else 0) = 4096 := by
  have hsalt : sqliteHeader.length = 16 := by decide
  by_cases hlength : buffer.length = 4096
  · rw [plainPage, if_pos hlength] at h
    obtain rfl := Except.ok.inj h
    rw [List.length_drop, hlength]
    split_ifs <;> omega
  · rw [plainPage, if_neg hlength] at h
    cases h

def plainCodec : PageCodec String where
  pageSize := 4096
  decryptPage := plainPage
  invalidWalHeader reason := reason
  salted := by decide
  decryptPage_length := plainPage_length

def twoPages : DatabaseImage plainCodec.pageSize where
  bytes := List.replicate 8192 0
  pageCount := 2
  whole := List.length_replicate

/-- A log whose only frame, a commit of three pages, does not have its checksum. -/
def tornLog : List UInt8 :=
  [0x37, 0x7f, 0x06, 0x82, 0x00, 0x2d, 0xe2, 0x18, 0, 0, 0x10, 0, 0, 0, 0, 0,
    0, 0, 0, 1, 0, 0, 0, 2, 0xd5, 0xe7, 0x03, 0x13, 0x8f, 0xce, 0xda, 0xb8] ++
  [0, 0, 0, 3, 0, 0, 0, 3, 0, 0, 0, 1, 0, 0, 0, 2, 0, 0, 0, 0, 0, 0, 0, 0] ++
  List.replicate 4096 1

theorem tornLog_replayed : (replayedFrames plainCodec tornLog).map (·.number) = [2] := by
  decide +kernel

theorem tornLog_recovered : recoveredFrames plainCodec tornLog = [] := by
  have hlength : (recoveredFrames plainCodec tornLog).length = 0 := by decide +kernel
  exact List.length_eq_zero_iff.mp hlength

/-- The commit is written into the database, though recovery ends in front of it. -/
theorem tornLog_applied : soundHeader plainCodec tornLog = true ∧
    ¬ AppliedAsRecovered plainCodec twoPages tornLog := by
  refine ⟨by decide +kernel, fun h => ?_⟩
  have hcounted := h.agrees.counted
  rw [tornLog_replayed, exposedCount, tornLog_recovered] at hcounted
  exact absurd hcounted (by decide)

end GreenBubbles.Restore
