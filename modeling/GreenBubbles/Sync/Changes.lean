import GreenBubbles.Library.Paging
import GreenBubbles.Sync.Runs

/-! # Reading the change log

A reader asks for the changes after a cursor and is given a page of them and the next
cursor. Rows that cannot be read are left out and counted. Cursors are kept decoded.
-/
namespace GreenBubbles.Sync

open Std Archive Library Paging Replay

structure ReplicaChangeCursor where
  formatVersion : ℕ
  accountId : String
  replicaId : String
  afterSequence : ℕ
  deriving DecidableEq

/-- A row of the table of changes; `none` if a column cannot be read. -/
structure ChangeRow where
  sequence : ℕ
  change : Option ReplicaChange

structure ReplicaChangePage where
  accountId : String
  items : List ReplicaChange
  nextCursor : Option ReplicaChangeCursor
  omittedItemCount : ℕ
  limitationCodes : List String

structure ChangeScan where
  items : List ReplicaChange
  omittedItemCount : ℕ
  lastScannedSequence : Option ℕ

def validReplicaId (value : String) : Bool :=
  value.utf8ByteSize == 32 && value.toList.all isAsciiHexDigit

/-- Goes through rows until the page is full. -/
def scanChanges (limit : ℕ) (scan : ChangeScan) : List ChangeRow → ChangeScan
  | [] => scan
  | row :: rows =>
    match row.change with
    | none =>
      scanChanges limit
        { scan with
          omittedItemCount := saturatingAdd 64 scan.omittedItemCount 1
          lastScannedSequence := some row.sequence } rows
    | some change =>
      let scan :=
        { scan with
          items := scan.items ++ [change]
          lastScannedSequence := some row.sequence }
      if scan.items.length = limit then scan else scanChanges limit scan rows

def clampLimit (requestedLimit : ℕ) : ℕ := max 1 (min requestedLimit 1000)

def scanLimit (limit : ℕ) : ℕ := min (limit * 8 + 1) 8001

/-- The rows a query for changes returns. -/
def changesAfter (rows : List ChangeRow) (after limit : ℕ) : List ChangeRow :=
  (rows.filter fun row => decide (after < row.sequence)).take (scanLimit limit)

def getReplicaChanges (store : ReplicaStore) (rows : List ChangeRow)
    (cursor : Option ReplicaChangeCursor) (requestedLimit : ℕ) :
    Except RestoreError ReplicaChangePage := do
  let accountId ← (match store.identity with
    | none => .error (.integrity "replica must be bootstrapped before reading changes")
    | some identity => .ok identity.accountId : Except RestoreError String)
  if accountId.isEmpty then
    throw (.integrity "replica change stream has an empty account identity")
  if !validReplicaId store.replicaId then
    throw (.integrity "replica generation identity is invalid")
  if cursor.any fun cursor => cursor.formatVersion != 1 || cursor.accountId != accountId ||
      cursor.replicaId != store.replicaId then
    throw (.integrity "change cursor belongs to another account or format")
  let after ← checkedI64 ((cursor.map (·.afterSequence)).getD 0)
  let limit := clampLimit requestedLimit
  let scan := scanChanges limit ⟨[], 0, none⟩ (changesAfter rows after limit)
  return {
    accountId
    items := scan.items
    nextCursor := scan.lastScannedSequence.map fun afterSequence =>
      { formatVersion := 1, accountId, replicaId := store.replicaId, afterSequence }
    omittedItemCount := scan.omittedItemCount
    limitationCodes :=
      if 0 < scan.omittedItemCount then ["malformedReplicaChangeOmitted"] else [] }

/-- The rows of a replica that only this program has written to. -/
def ReplicaStore.changeRows (store : ReplicaStore) : List ChangeRow :=
  store.changeLog.map fun change => ⟨change.sequence, some change⟩

/-- Following the cursors of a replica. -/
def changePages (store : ReplicaStore) (rows : List ChangeRow) (requestedLimit : ℕ)
    (cursor : Option ReplicaChangeCursor) : Except RestoreError (Page ReplicaChange ReplicaChangeCursor) :=
  (getReplicaChanges store rows cursor requestedLimit).map fun page => ⟨page.items, page.nextCursor⟩

/-! Scanning -/

def readable (rows : List ChangeRow) : List ReplicaChange := rows.filterMap (·.change)

/-- A scan stops at the end or with a full page. -/
theorem scanChanges_spec (limit : ℕ) (scan : ChangeScan) (rows : List ChangeRow) :
    ∃ front back, rows = front ++ back ∧
      (scanChanges limit scan rows).items = scan.items ++ readable front ∧
      (scanChanges limit scan rows).lastScannedSequence =
        (front.getLast?.map (·.sequence)).or scan.lastScannedSequence ∧
      (rows ≠ [] → front ≠ []) := by
  induction rows generalizing scan with
  | nil => exact ⟨[], [], rfl, by simp [scanChanges, readable], rfl, fun h => h⟩
  | cons row rows ih =>
    have hlast : ∀ (front : List ChangeRow), ((front.getLast?.map (·.sequence)).or
        (some row.sequence)) = (((row :: front).getLast?.map (·.sequence))) := by
      intro front
      rw [List.getLast?_cons]
      cases front.getLast? <;> rfl
    rw [scanChanges]
    split
    · next hchange =>
      obtain ⟨front, back, hrows, hitems, hsequence, -⟩ := ih
        { scan with
          omittedItemCount := saturatingAdd 64 scan.omittedItemCount 1
          lastScannedSequence := some row.sequence }
      refine ⟨row :: front, back, by rw [hrows, List.cons_append], ?_, ?_, fun _ => by simp⟩
      · rw [hitems]
        simp [readable, hchange]
      · rw [hsequence, hlast, List.getLast?_cons]
        rfl
    · next change hchange =>
      dsimp only
      split
      · refine ⟨[row], rows, rfl, ?_, rfl, fun _ => by simp⟩
        simp [readable, hchange]
      · obtain ⟨front, back, hrows, hitems, hsequence, -⟩ := ih
          { scan with
            items := scan.items ++ [change]
            lastScannedSequence := some row.sequence }
        refine ⟨row :: front, back, by rw [hrows, List.cons_append], ?_, ?_, fun _ => by simp⟩
        · rw [hitems]
          simp [readable, hchange]
        · rw [hsequence, hlast, List.getLast?_cons]
          rfl

/-- The rows are in the order of their primary key. -/
def Ascending (rows : List ChangeRow) : Prop := rows.Pairwise (·.sequence < ·.sequence)

/-- What comes after the last row of a part comes after the part. -/
theorem after_last {front back : List ChangeRow} {last : ChangeRow} (h : Ascending (front ++ back))
    (hlast : front.getLast? = some last) :
    (front ++ back).filter (fun row => decide (last.sequence < row.sequence)) = back := by
  obtain ⟨init, rfl⟩ := List.getLast?_eq_some_iff.mp hlast
  rw [Ascending, List.pairwise_append, List.pairwise_append] at h
  obtain ⟨⟨-, -, hinit⟩, -, hback⟩ := h
  rw [List.filter_append, List.filter_append]
  have hnone : init.filter (fun row => decide (last.sequence < row.sequence)) = [] := by
    rw [List.filter_eq_nil_iff]
    intro row hrow
    have hless := hinit row hrow last List.mem_cons_self
    simp only [decide_eq_true_eq]
    omega
  have hself : [last].filter (fun row => decide (last.sequence < row.sequence)) = [] := by simp
  have hall : back.filter (fun row => decide (last.sequence < row.sequence)) = back := by
    rw [List.filter_eq_self]
    intro row hrow
    exact decide_eq_true (hback last (List.mem_append_right _ List.mem_cons_self) row hrow)
  rw [hnone, hself, hall, List.nil_append, List.nil_append]

section Pages

variable {store : ReplicaStore} {rows : List ChangeRow} {requestedLimit : ℕ} {identity : ReplicaIdentity}

/-- The rows a reader with this cursor has not been given. -/
def pending (rows : List ChangeRow) (cursor : Option ReplicaChangeCursor) : List ChangeRow :=
  rows.filter fun row => decide ((cursor.map (·.afterSequence)).getD 0 < row.sequence)

/-- The items of one page. -/
def shownChanges (store : ReplicaStore) (rows : List ChangeRow) (requestedLimit : ℕ)
    (cursor : Option ReplicaChangeCursor) : List ReplicaChange :=
  match changePages store rows requestedLimit cursor with
  | .ok page => page.items
  | .error _ => []

/-- The rows after the last one that was shown. -/
theorem pending_next {cursor next : Option ReplicaChangeCursor} {front back : List ChangeRow}
    {last : ChangeRow} (hrows : Ascending rows) (hsplit : pending rows cursor = front ++ back)
    (hlast : front.getLast? = some last)
    (hnext : (next.map (·.afterSequence)).getD 0 = last.sequence) : pending rows next = back := by
  have hascending : Ascending (front ++ back) := by
    rw [← hsplit]
    exact hrows.filter _
  have hmem : last ∈ pending rows cursor := by
    rw [hsplit]
    exact List.mem_append_left _ (List.mem_of_getLast? hlast)
  have hafter := of_decide_eq_true (List.mem_filter.mp hmem).2
  rw [← after_last hascending hlast, ← hsplit, pending, pending, List.filter_filter, hnext]
  apply List.filter_congr
  intro row _
  by_cases hrow : last.sequence < row.sequence
  · have hlater := hafter.trans hrow
    simp [hrow, hlater]
  · simp [hrow]

/-- A cursor of this replica. -/
def OwnCursor (store : ReplicaStore) (accountId : String) (cursor : ReplicaChangeCursor) : Prop :=
  cursor.formatVersion = 1 ∧ cursor.accountId = accountId ∧ cursor.replicaId = store.replicaId ∧
    cursor.afterSequence < 2 ^ 63

variable (rows requestedLimit) in
/-- A page shows the readable rows of the first part of what is pending. -/
theorem changePages_ok (hidentity : store.identity = some identity) (haccount : identity.accountId ≠ "")
    (hreplica : validReplicaId store.replicaId = true) {cursor : Option ReplicaChangeCursor}
    (hcursor : ∀ c ∈ cursor, OwnCursor store identity.accountId c) :
    ∃ front back, pending rows cursor = front ++ back ∧ (pending rows cursor ≠ [] → front ≠ []) ∧
      changePages store rows requestedLimit cursor = .ok ⟨readable front,
        front.getLast?.map fun row => ⟨1, identity.accountId, store.replicaId, row.sequence⟩⟩ := by
  have hforeign : (cursor.any fun cursor => cursor.formatVersion != 1 ||
      cursor.accountId != identity.accountId || cursor.replicaId != store.replicaId) = false := by
    cases cursor with
    | none => rfl
    | some cursor =>
      obtain ⟨hversion, haccount, hreplica, -⟩ := hcursor cursor rfl
      simp [hversion, haccount, hreplica]
  have hafter : checkedI64 ((cursor.map (·.afterSequence)).getD 0) =
      .ok ((cursor.map (·.afterSequence)).getD 0) := by
    rw [checkedI64, if_pos]
    cases cursor with
    | none => simp
    | some cursor => exact (hcursor cursor rfl).2.2.2
  have hempty : identity.accountId.isEmpty = false := by
    rw [Bool.eq_false_iff]
    exact fun h => haccount (String.isEmpty_iff.mp h)
  have hfirst : ∀ {queried : List ChangeRow}, queried = changesAfter rows
      ((cursor.map (·.afterSequence)).getD 0) (clampLimit requestedLimit) →
        ∃ rest, pending rows cursor = queried ++ rest ∧
          (pending rows cursor ≠ [] → queried ≠ []) := by
    rintro queried rfl
    refine ⟨(pending rows cursor).drop (scanLimit (clampLimit requestedLimit)),
      (List.take_append_drop _ _).symm, ?_⟩
    intro hne htake
    rcases List.take_eq_nil_iff.mp htake with hlimit | hnil
    · simp only [scanLimit, clampLimit] at hlimit
      omega
    · exact hne hnil
  obtain ⟨rest, hrest, hnonempty⟩ := hfirst rfl
  obtain ⟨front, back, hsplit, hitems, hlast, hfront⟩ := scanChanges_spec (clampLimit requestedLimit)
    ⟨[], 0, none⟩ (changesAfter rows ((cursor.map (·.afterSequence)).getD 0)
      (clampLimit requestedLimit))
  refine ⟨front, back ++ rest, ?_, fun hne => hfront (hnonempty hne), ?_⟩
  · rw [hrest, hsplit, List.append_assoc]
  · simp only [changePages, getReplicaChanges, hidentity, hempty, hreplica, hforeign, hafter, bind,
      Except.bind, pure, Except.pure, Except.map, hitems, hlast, List.nil_append, Bool.not_true,
      Bool.false_eq_true, if_false, Option.or_none, Option.map_map, Function.comp_def]

variable (requestedLimit) in
theorem collected_pending (hrows : Ascending rows) (hbound : ∀ row ∈ rows, row.sequence < 2 ^ 63)
    (hidentity : store.identity = some identity) (haccount : identity.accountId ≠ "")
    (hreplica : validReplicaId store.replicaId = true) {cursor : Option ReplicaChangeCursor}
    (hcursor : ∀ c ∈ cursor, OwnCursor store identity.accountId c) :
    Collected (changePages store rows requestedLimit) cursor (readable (pending rows cursor)) := by
  have hown : ∀ c, Paging.Reached (changePages store rows requestedLimit) cursor c →
      ∀ c' ∈ c, OwnCursor store identity.accountId c' := by
    intro c hreached
    induction hreached with
    | start => exact hcursor
    | @next c items next _ hpage ih =>
      obtain ⟨front, back, hsplit, -, hok⟩ := changePages_ok rows requestedLimit hidentity haccount
        hreplica ih
      rw [hok, Except.ok.injEq, Page.mk.injEq, Option.map_eq_some_iff] at hpage
      obtain ⟨-, last, hlast, rfl⟩ := hpage
      rintro c' ⟨⟩
      have hmem : last ∈ pending rows c := by
        rw [hsplit]
        exact List.mem_append_left _ (List.mem_of_getLast? hlast)
      exact ⟨rfl, rfl, rfl, hbound last (List.mem_filter.mp hmem).1⟩
  have haccounts : ∀ c, Paging.Reached (changePages store rows requestedLimit) cursor c →
      Accounts (changePages store rows requestedLimit) (fun c => readable (pending rows c))
        (shownChanges store rows requestedLimit) (fun _ => []) (fun c => (pending rows c).length) c := by
    intro c hreached
    obtain ⟨front, back, hsplit, hfront, hok⟩ := changePages_ok rows requestedLimit hidentity haccount
      hreplica (hown c hreached)
    constructor
    · exact ⟨_, hok⟩
    · intro items hpage
      rw [hok, Except.ok.injEq, Page.mk.injEq, Option.map_eq_none_iff, List.getLast?_eq_none_iff]
        at hpage
      obtain ⟨rfl, rfl⟩ := hpage
      have hnone : pending rows c = [] := by
        by_contra hne
        exact hfront hne rfl
      simp only [shownChanges, hok, hnone, readable, List.filterMap_nil, List.append_nil]
    · intro items next hpage
      rw [hok, Except.ok.injEq, Page.mk.injEq, Option.map_eq_some_iff] at hpage
      obtain ⟨rfl, last, hlast, rfl⟩ := hpage
      have hnext : pending rows (some ⟨1, identity.accountId, store.replicaId, last.sequence⟩) = back :=
        pending_next hrows hsplit hlast rfl
      have hpositive : 0 < front.length := by
        rw [List.length_pos_iff]
        rintro rfl
        cases hlast
      simp only [shownChanges, hok, List.append_nil]
      constructor
      · rw [hnext, hsplit, readable, List.filterMap_append]
        rfl
      · rw [hnext, hsplit, List.length_append]
        omega
  refine collected_of_accounts haccounts ?_
  intro c result hreached hpage
  simp only [shownChanges, hpage, and_self]

/-- Whoever follows the cursors is given every readable change once, in order. -/
theorem changePages_complete (hrows : Ascending rows) (hbound : ∀ row ∈ rows, row.sequence < 2 ^ 63)
    (hidentity : store.identity = some identity) (haccount : identity.accountId ≠ "")
    (hreplica : validReplicaId store.replicaId = true) {cursor : Option ReplicaChangeCursor}
    (hcursor : ∀ c ∈ cursor, OwnCursor store identity.accountId c) {items : List ReplicaChange} :
    Collected (changePages store rows requestedLimit) cursor items ↔
      items = readable (rows.filter fun row =>
        decide ((cursor.map (·.afterSequence)).getD 0 < row.sequence)) := by
  have hcollected := collected_pending requestedLimit hrows hbound hidentity haccount hreplica hcursor
  constructor
  · exact fun hitems => hitems.unique hcollected
  · rintro rfl
    exact hcollected

end Pages

def sampleChange (sequence : ℕ) : ReplicaChange where
  sequence
  sourceFingerprint := "second"
  changeKind := .added
  entityKind := some .conversation
  entityId := "c"
  conversationId := some "c"
  recordSha256 := none
  observedAtUnixNanoseconds := 3

/-- A row that cannot be read lies between two that can. -/
def sampleRows : List ChangeRow := [⟨1, some (sampleChange 1)⟩, ⟨2, none⟩, ⟨3, some (sampleChange 3)⟩]

theorem sampleRows_complete : Collected (changePages (sampleStore [sampleBootstrap]) sampleRows 1)
    none [sampleChange 1, sampleChange 3] :=
  (changePages_complete (by unfold Ascending; decide) (by decide) rfl (by decide) (by decide)
    (fun _ h => by cases h)).mpr rfl

/-! A reader that keeps up -/

theorem Serving.changeRows_ascending {reader : LedgerReader} {archive : ReplicaArchive}
    {store : ReplicaStore} (h : Serving reader archive store) : Ascending store.changeRows := by
  rw [Ascending, ReplicaStore.changeRows, List.pairwise_map]
  have hsequences : (store.changeLog.map (·.sequence)).Pairwise (· < ·) := by
    rw [h.numbered]
    exact List.pairwise_lt_range' _
  exact List.pairwise_map.mp hsequences

/-- The changes logged after a point of a numbered log. -/
theorem Since.pending {before after : ReplicaStore} {changes : List ReplicaChange}
    (h : Since before after changes) (hbefore : Numbered before.changeLog)
    (hafter : Numbered after.changeLog) (version : ℕ) (accountId replicaId : String) :
    readable (pending after.changeRows (some ⟨version, accountId, replicaId, before.changeLog.length⟩)) =
      changes := by
  have hsplit : after.changeLog.map (·.sequence) =
      before.changeLog.map (·.sequence) ++ changes.map (·.sequence) := by
    rw [h.changeLog, List.map_append]
  have hlater : ∀ change ∈ changes, before.changeLog.length < change.sequence := by
    intro change hchange
    have hrange : changes.map (·.sequence) =
        List.range' (1 + before.changeLog.length) changes.length := by
      rw [Numbered, hsplit, hbefore, h.changeLog, List.length_append, ← List.range'_append_1] at hafter
      exact List.append_cancel_left hafter
    have hmem : change.sequence ∈ changes.map (·.sequence) := List.mem_map_of_mem hchange
    rw [hrange, List.mem_range'_1] at hmem
    omega
  have hearlier : ∀ change ∈ before.changeLog, ¬before.changeLog.length < change.sequence := by
    intro change hchange
    have hmem : change.sequence ∈ before.changeLog.map (·.sequence) := List.mem_map_of_mem hchange
    rw [hbefore, List.mem_range'_1] at hmem
    omega
  have hkept : after.changeLog.filter (fun change =>
      decide (before.changeLog.length < change.sequence)) = changes := by
    rw [h.changeLog, List.filter_append, List.filter_eq_nil_iff.mpr, List.nil_append,
      List.filter_eq_self]
    · exact fun change hchange => decide_eq_true (hlater change hchange)
    · exact fun change hchange => by simpa using hearlier change hchange
  rw [Sync.pending, readable, ReplicaStore.changeRows, List.filter_map, List.filterMap_map]
  simp only [Function.comp_def, Option.map_some, Option.getD_some, hkept]
  exact List.filterMap_some

end GreenBubbles.Sync
