import GreenBubbles.Library.Ordered
import GreenBubbles.Library.Sql
import GreenBubbles.Send.Config
import Mathlib.Data.List.TakeWhile

/-! # The metadata scan of a corpus

The rows of a conversation's tables are read page by page. A page starts after
the last row that was decoded, and the scan of a table ends with the first page
that does not decode as many rows as it asked for.
-/
namespace GreenBubbles.LiveQuery

open Library Library.Ordered Library.Sql
open Send (isWhiteSpace)

def corpusMetadataPageRows : ℕ := 10000
def maxSourceIdentifierBytes : ℕ := 512

/-- The row number a scan starts after. -/
def minimumRowId : ℤ := -2 ^ 63

def isControl (c : Char) : Bool :=
  c.toNat ≤ 0x1f || (0x7f ≤ c.toNat && c.toNat ≤ 0x9f)

/-- An identifier without spaces, control characters and angle brackets. -/
def normalizedSourceIdentifier (value : String) : Option String :=
  if value ≠ "" ∧ value.utf8ByteSize ≤ maxSourceIdentifierBytes ∧
      value.toList.all (fun c => !isWhiteSpace c && !isControl c) = true ∧
      '<' ∉ value.toList ∧ '>' ∉ value.toList then
    some value
  else none

structure CorpusMessageLocation where
  sortSequence : ℤ
  createTime : ℤ
  serverId : ℤ
  shardId : ℕ
  rowId : ℤ
  deriving DecidableEq

/-- Locations compare field by field. -/
def CorpusMessageLocation.key (location : CorpusMessageLocation) : ℤ × ℤ × ℤ × ℕ × ℤ :=
  (location.sortSequence, location.createTime, location.serverId, location.shardId, location.rowId)

structure CorpusMessageMetadata where
  location : CorpusMessageLocation
  localType : ℤ
  sender : Option String
  isAccountHolder : Option Bool
  deriving DecidableEq

structure QueryWarning where
  code : String
  message : String
  shardId : Option ℕ
  count : Option ℕ
  deriving DecidableEq

structure CorpusMetadataScan where
  messages : List CorpusMessageMetadata
  warnings : List QueryWarning
  coverageComplete : Bool

/-- A row of a message table as the statement of the scan yields it. -/
structure CorpusRow where
  rowId : ℤ
  sortSeq : SqlValue
  serverId : SqlValue
  localType : SqlValue
  sender : SqlValue
  createTime : SqlValue
  /-- SQLite fails to step to the row. -/
  unreadable : Bool

structure MessageTable where
  /-- The columns, if they could be inspected. -/
  columns : Option (List String)
  prepared : Bool
  queried : Bool
  rows : List CorpusRow
  ordered : rows.Pairwise (·.rowId < ·.rowId)
  bounded : ∀ row ∈ rows, minimumRowId ≤ row.rowId

structure MessageShard where
  shardId : ℕ
  tables : String → Option MessageTable

structure CorpusConversation where
  tableName : String
  shardIds : List ℕ

section Rows

variable (accountHolder : Option String) (shardId : ℕ)

def CorpusRow.decoded (row : CorpusRow) : Option CorpusMessageMetadata := do
  let sortSequence ← row.sortSeq.getInteger
  let serverId ← row.serverId.getInteger
  let localType ← row.localType.getInteger
  let sender ← SqlValue.getNullable SqlValue.getText row.sender
  let sender := sender.bind normalizedSourceIdentifier
  let createTime ← row.createTime.getInteger
  return {
    location := { sortSequence, createTime, serverId, shardId, rowId := row.rowId }
    localType
    sender
    isAccountHolder := sender.bind fun sender => accountHolder.map (sender == ·) }

/-- The metadata of a row that can be read. -/
def CorpusRow.metadata (row : CorpusRow) : Option CorpusMessageMetadata :=
  if row.unreadable then none else row.decoded accountHolder shardId

def warning (code message : String) (count : Option ℕ) : QueryWarning :=
  ⟨code, message, some shardId, count⟩

def CorpusMetadataScan.append (first second : CorpusMetadataScan) : CorpusMetadataScan where
  messages := first.messages ++ second.messages
  warnings := first.warnings ++ second.warnings
  coverageComplete := first.coverageComplete && second.coverageComplete

/-- A page ends where SQLite cannot step on. -/
def readPage : List CorpusRow → CorpusMetadataScan
  | [] => ⟨[], [], true⟩
  | row :: rest =>
    if row.unreadable then
      ⟨[], [warning shardId "corpusMetadataRowFailed"
        "a metadata row became unreadable during a bounded page" (some 1)], false⟩
    else
      match row.decoded accountHolder shardId with
      | some message => .append ⟨[message], [], true⟩ (readPage rest)
      | none => .append ⟨[], [warning shardId "corpusMetadataRowFailed"
          "a metadata row had incompatible SQLite value types" (some 1)], false⟩ (readPage rest)

end Rows

/-- The rows of a table beyond a row number. -/
def MessageTable.after (table : MessageTable) (rowId : ℤ) : List CorpusRow :=
  table.rows.filter (rowId < ·.rowId)

section Reading

variable {accountHolder : Option String} {shardId : ℕ}

theorem CorpusRow.decoded_rowId {row : CorpusRow} {message : CorpusMessageMetadata}
    (h : row.decoded accountHolder shardId = some message) : message.location.rowId = row.rowId := by
  simp only [decoded, Option.bind_eq_bind, Option.bind_eq_some_iff] at h
  rcases h with ⟨_, -, _, -, _, -, _, -, _, -, h⟩
  cases h
  rfl

theorem CorpusRow.metadata_rowId {row : CorpusRow} {message : CorpusMessageMetadata}
    (h : row.metadata accountHolder shardId = some message) :
    message.location.rowId = row.rowId := by
  rw [metadata] at h
  split_ifs at h
  exact decoded_rowId h

/-- A page yields what it decodes of the rows in front of the first unreadable one. -/
theorem readPage_messages (rows : List CorpusRow) :
    (readPage accountHolder shardId rows).messages =
      (rows.takeWhile (!·.unreadable)).filterMap (·.metadata accountHolder shardId) := by
  induction rows with
  | nil => rfl
  | cons row rows ih =>
    cases hrow : row.unreadable with
    | true => simp [readPage, hrow]
    | false =>
      cases hdecoded : row.decoded accountHolder shardId with
      | none => simp [readPage, hrow, hdecoded, ih, CorpusMetadataScan.append, CorpusRow.metadata]
      | some message =>
        simp [readPage, hrow, hdecoded, ih, CorpusMetadataScan.append, CorpusRow.metadata]

theorem readPage_coverage (rows : List CorpusRow) :
    (readPage accountHolder shardId rows).coverageComplete = false ↔
      ∃ row ∈ rows, row.metadata accountHolder shardId = none := by
  induction rows with
  | nil => simp [readPage]
  | cons row rows ih =>
    cases hrow : row.unreadable with
    | true => simp [readPage, hrow, CorpusRow.metadata]
    | false =>
      cases hdecoded : row.decoded accountHolder shardId with
      | none => simp [readPage, hrow, hdecoded, CorpusMetadataScan.append, CorpusRow.metadata]
      | some message =>
        simp [readPage, hrow, hdecoded, ih, CorpusMetadataScan.append, CorpusRow.metadata]

theorem mem_of_readPage {rows : List CorpusRow} {message : CorpusMessageMetadata}
    (h : message ∈ (readPage accountHolder shardId rows).messages) :
    ∃ row ∈ rows, row.metadata accountHolder shardId = some message := by
  rw [readPage_messages, List.mem_filterMap] at h
  rcases h with ⟨row, hrow, hmetadata⟩
  exact ⟨row, (List.takeWhile_prefix _).subset hrow, hmetadata⟩

/-- A later start leaves the rows beyond it. -/
theorem after_after (table : MessageTable) {before rowId : ℤ} (h : before ≤ rowId) :
    table.after rowId = (table.after before).filter (rowId < ·.rowId) := by
  rw [MessageTable.after, MessageTable.after, List.filter_filter]
  apply List.filter_congr
  intro row _
  rw [← Bool.decide_and, decide_eq_decide]
  omega

theorem after_length_lt {table : MessageTable} {before : ℤ} {row : CorpusRow}
    (hrow : row ∈ table.after before) :
    (table.after row.rowId).length < (table.after before).length := by
  have hlater : before < row.rowId := by
    rw [MessageTable.after, List.mem_filter, decide_eq_true_eq] at hrow
    exact hrow.2
  rw [after_after table hlater.le]
  exact List.length_filter_lt_length_iff_exists.mpr ⟨row, hrow, by simp⟩

end Reading

section Scanning

variable (accountHolder : Option String) (pageRows : ℕ)

/-- The page after a row, and the next ones while a page is full of decoded rows. -/
def scanPages (shardId : ℕ) (table : MessageTable) (afterRowId : ℤ) : CorpusMetadataScan :=
  let page := readPage accountHolder shardId ((table.after afterRowId).take pageRows)
  match _hlast : page.messages.getLast? with
  | none => page
  | some last =>
    if last.location.rowId ≤ afterRowId ∨ page.messages.length < pageRows then page
    else page.append (scanPages shardId table last.location.rowId)
termination_by (table.after afterRowId).length
decreasing_by
  rcases mem_of_readPage (List.mem_of_getLast? _hlast) with ⟨row, hrow, hmetadata⟩
  rw [CorpusRow.metadata_rowId hmetadata]
  exact after_length_lt (List.mem_of_mem_take hrow)

def corpusRequiredColumns : List String :=
  ["sort_seq", "server_id", "local_type", "create_time", "message_content"]

/-- What keeps a table from being scanned. -/
def MessageTable.refusal (shardId : ℕ) (table : MessageTable) : Option QueryWarning :=
  match table.columns with
  | none => some (warning shardId "unsupportedCorpusMessageSchema"
      "a message table schema could not be inspected for corpus selection" none)
  | some columns =>
    if corpusRequiredColumns.any (!columns.contains ·) then
      some (warning shardId "unsupportedCorpusMessageSchema"
        "a message table is missing required corpus-selection columns" none)
    else if !table.prepared then
      some (warning shardId "corpusMetadataQueryFailed"
        "a bounded metadata page could not be prepared" none)
    else if !table.queried then
      some (warning shardId "corpusMetadataQueryFailed"
        "a bounded metadata page could not be read" none)
    else none

def scanTable (shardId : ℕ) (table : MessageTable) : CorpusMetadataScan :=
  match table.refusal shardId with
  | some warning => ⟨[], [warning], false⟩
  | none => scanPages accountHolder pageRows shardId table minimumRowId

def scanShard (conversation : CorpusConversation) (shard : MessageShard) : CorpusMetadataScan :=
  match shard.tables conversation.tableName with
  | none => ⟨[], [], true⟩
  | some table => scanTable accountHolder pageRows shard.shardId table

/-- Warnings of one kind about one shard are counted together. -/
def coalesceWarnings (warnings : List QueryWarning) : List QueryWarning :=
  warnings.foldl (fun coalesced warning =>
    if coalesced.any fun existing =>
        existing.code == warning.code && existing.shardId == warning.shardId then
      coalesced.modify (coalesced.findIdx fun existing =>
        existing.code == warning.code && existing.shardId == warning.shardId) fun existing =>
          { existing with count := some (saturatingAdd 64 (existing.count.getD 1)
            (warning.count.getD 1)) }
    else coalesced ++ [warning]) []

def scanMetadata (shards : List MessageShard) (conversation : CorpusConversation) :
    CorpusMetadataScan :=
  let scan := ((shards.filter (conversation.shardIds.contains ·.shardId)).map
    (scanShard accountHolder pageRows conversation)).foldr CorpusMetadataScan.append ⟨[], [], true⟩
  { messages := sortBy (·.location.key) scan.messages
    warnings := coalesceWarnings scan.warnings
    coverageComplete := scan.coverageComplete }

end Scanning

/-! What a scan visits -/

section Pages

variable {accountHolder : Option String} {shardId pageRows : ℕ}

/-- A page of decoded rows only, as many as were asked for. -/
def Full (accountHolder : Option String) (shardId pageRows : ℕ) (rows : List CorpusRow) : Prop :=
  pageRows ≤ rows.length ∧
    ∀ row ∈ rows.take pageRows, (row.metadata accountHolder shardId).isSome = true

theorem takeWhile_eq_self_of_metadata {rows : List CorpusRow}
    (h : ∀ row ∈ rows, (row.metadata accountHolder shardId).isSome = true) :
    rows.takeWhile (!·.unreadable) = rows := by
  rw [List.takeWhile_eq_self_iff]
  intro row hrow
  have hsome := h row hrow
  cases hunreadable : row.unreadable with
  | true => simp [CorpusRow.metadata, hunreadable] at hsome
  | false => rfl

theorem length_filterMap_of_isSome {α β : Type} {f : α → Option β} {values : List α}
    (h : ∀ a ∈ values, (f a).isSome = true) : (values.filterMap f).length = values.length := by
  induction values with
  | nil => rfl
  | cons a values ih =>
    rw [List.forall_mem_cons] at h
    rcases Option.isSome_iff_exists.mp h.1 with ⟨b, hb⟩
    rw [List.filterMap_cons_some hb, List.length_cons, List.length_cons, ih h.2]

theorem isSome_of_length_filterMap {α β : Type} {f : α → Option β} {values : List α}
    (h : values.length ≤ (values.filterMap f).length) : ∀ a ∈ values, (f a).isSome = true := by
  induction values with
  | nil => simp
  | cons a values ih =>
    have hbound := List.length_filterMap_le f values
    cases hvalue : f a with
    | none =>
      rw [List.filterMap_cons_none hvalue, List.length_cons] at h
      omega
    | some b =>
      rw [List.filterMap_cons_some hvalue, List.length_cons, List.length_cons] at h
      exact List.forall_mem_cons.mpr ⟨by rw [hvalue]; rfl, ih (by omega)⟩

theorem page_length_eq_iff {rows : List CorpusRow} :
    (readPage accountHolder shardId (rows.take pageRows)).messages.length = pageRows ↔
      Full accountHolder shardId pageRows rows := by
  rw [readPage_messages]
  constructor
  · intro h
    have htaken := List.length_filterMap_le (·.metadata accountHolder shardId)
      ((rows.take pageRows).takeWhile (!·.unreadable))
    have hstarts := (List.takeWhile_prefix (l := rows.take pageRows) (!·.unreadable)).length_le
    rw [List.length_take] at hstarts
    have hwhole : (rows.take pageRows).takeWhile (!·.unreadable) = rows.take pageRows := by
      apply (List.takeWhile_prefix _).eq_of_length
      rw [List.length_take]
      omega
    have hlength : pageRows ≤ rows.length := by omega
    rw [hwhole] at h
    refine ⟨hlength, isSome_of_length_filterMap ?_⟩
    rw [h, List.length_take]
    exact min_le_left ..
  · rintro ⟨hlength, hdecoded⟩
    rw [takeWhile_eq_self_of_metadata hdecoded, length_filterMap_of_isSome hdecoded,
      List.length_take, min_eq_left hlength]

theorem page_length_le {rows : List CorpusRow} :
    (readPage accountHolder shardId (rows.take pageRows)).messages.length ≤ pageRows := by
  rw [readPage_messages]
  have htaken := List.length_filterMap_le (·.metadata accountHolder shardId)
    ((rows.take pageRows).takeWhile (!·.unreadable))
  have hstarts := (List.takeWhile_prefix (l := rows.take pageRows) (!·.unreadable)).length_le
  rw [List.length_take] at hstarts
  omega

/-- A full page is followed by the page of the rows behind it. -/
theorem next_rows {table : MessageTable} {before : ℤ} (hpage : 0 < pageRows)
    (hfull : Full accountHolder shardId pageRows (table.after before)) :
    ∃ last, (readPage accountHolder shardId ((table.after before).take pageRows)).messages.getLast? =
        some last ∧ before < last.location.rowId ∧
      table.after last.location.rowId = (table.after before).drop pageRows := by
  have hne : (table.after before).take pageRows ≠ [] := by
    intro hnil
    have hlength := congrArg List.length hnil
    rw [List.length_take, min_eq_left hfull.1, List.length_nil] at hlength
    omega
  have hsplit := List.dropLast_append_getLast hne
  set row := ((table.after before).take pageRows).getLast hne
  rcases Option.isSome_iff_exists.mp (hfull.2 row (List.getLast_mem hne)) with ⟨last, hlast⟩
  have hrow : row ∈ table.after before := List.mem_of_mem_take (List.getLast_mem hne)
  have hlater : before < row.rowId := by
    rw [MessageTable.after, List.mem_filter, decide_eq_true_eq] at hrow
    exact hrow.2
  have hrowId := CorpusRow.metadata_rowId hlast
  refine ⟨last, ?_, hrowId ▸ hlater, ?_⟩
  · rw [readPage_messages, takeWhile_eq_self_of_metadata hfull.2, ← hsplit, List.filterMap_append,
      List.filterMap_cons_some hlast, List.filterMap_nil, List.getLast?_concat]
  · have hordered : (table.after before).Pairwise (·.rowId < ·.rowId) := table.ordered.filter _
    have hrows : table.after before = ((table.after before).take pageRows).dropLast ++
        ([row] ++ (table.after before).drop pageRows) := by
      rw [← List.append_assoc, hsplit, List.take_append_drop]
    rw [hrows, List.pairwise_append, List.singleton_append, List.pairwise_cons] at hordered
    rw [hrowId, after_after table hlater.le]
    nth_rewrite 1 [hrows]
    rw [List.filter_append, List.singleton_append, List.filter_cons_of_neg (by simp),
      List.filter_eq_nil_iff.mpr, List.filter_eq_self.mpr, List.nil_append]
    · intro next hnext
      exact decide_eq_true (hordered.2.1.1 next hnext)
    · intro earlier hearlier
      have hbefore := hordered.2.2 earlier hearlier row List.mem_cons_self
      simp only [decide_eq_true_eq]
      omega

/-- A scan goes on behind a full page and ends with any other one. -/
theorem scanPages_full {table : MessageTable} {before : ℤ} (hpage : 0 < pageRows)
    (hfull : Full accountHolder shardId pageRows (table.after before)) :
    ∃ last, table.after last = (table.after before).drop pageRows ∧
      scanPages accountHolder pageRows shardId table before =
        (readPage accountHolder shardId ((table.after before).take pageRows)).append
          (scanPages accountHolder pageRows shardId table last) := by
  rcases next_rows hpage hfull with ⟨last, hlast, hlater, hrows⟩
  refine ⟨last.location.rowId, hrows, ?_⟩
  have hlength := page_length_eq_iff.mpr hfull
  rw [scanPages]
  split
  · rename_i hnone
    rw [hlast] at hnone
    cases hnone
  · rename_i found hfound
    rw [hlast] at hfound
    cases hfound
    rw [if_neg (by omega)]

theorem scanPages_last {table : MessageTable} {before : ℤ}
    (hfull : ¬ Full accountHolder shardId pageRows (table.after before)) :
    scanPages accountHolder pageRows shardId table before =
      readPage accountHolder shardId ((table.after before).take pageRows) := by
  have hlength := mt page_length_eq_iff.mp hfull
  have hbound := @page_length_le accountHolder shardId pageRows (table.after before)
  rw [scanPages]
  split
  · rfl
  · rw [if_pos (.inr (by omega))]

/-- No row is decoded beyond the page of a row that is not, nor behind one that is unreadable. -/
def Covered (accountHolder : Option String) (shardId pageRows : ℕ) (rows : List CorpusRow) : Prop :=
  ∀ place later row row', rows[place]? = some row → row.metadata accountHolder shardId = none →
    rows[later]? = some row' → (row'.metadata accountHolder shardId).isSome = true →
      later < (place / pageRows + 1) * pageRows ∧ (row.unreadable = true → later < place)

theorem covered_drop {rows : List CorpusRow} (hpage : 0 < pageRows)
    (hfull : Full accountHolder shardId pageRows rows) :
    Covered accountHolder shardId pageRows rows ↔
      Covered accountHolder shardId pageRows (rows.drop pageRows) := by
  have hshift : ∀ place, ((pageRows + place) / pageRows + 1) * pageRows =
      pageRows + (place / pageRows + 1) * pageRows := by
    intro place
    rw [Nat.add_div_left place hpage]
    simp only [Nat.add_mul, Nat.one_mul]
    omega
  constructor
  · intro hcovered place later row row' hrow hmissing hrow' hdecoded
    rw [List.getElem?_drop] at hrow hrow'
    have hlater := hcovered _ _ row row' hrow hmissing hrow' hdecoded
    rw [hshift] at hlater
    exact ⟨by omega, fun hunreadable => by have := hlater.2 hunreadable; omega⟩
  · intro hcovered place later row row' hrow hmissing hrow' hdecoded
    have hplace : pageRows ≤ place := by
      by_contra hearly
      have hmem : row ∈ rows.take pageRows := by
        apply List.mem_of_getElem? (i := place)
        rw [List.getElem?_take_of_lt (by omega), hrow]
      have hsome := hfull.2 row hmem
      simp [hmissing] at hsome
    by_cases hlater : pageRows ≤ later
    · have hbound := hcovered (place - pageRows) (later - pageRows) row row'
        (by rw [List.getElem?_drop, Nat.add_sub_cancel' hplace, hrow]) hmissing
        (by rw [List.getElem?_drop, Nat.add_sub_cancel' hlater, hrow']) hdecoded
      have hpages := hshift (place - pageRows)
      rw [Nat.add_sub_cancel' hplace] at hpages
      rw [hpages]
      exact ⟨by omega, fun hunreadable => by have := hbound.2 hunreadable; omega⟩
    · have hpages : pageRows ≤ (place / pageRows + 1) * pageRows :=
        Nat.le_mul_of_pos_left pageRows (Nat.succ_pos _)
      exact ⟨by omega, fun _ => by omega⟩

/-- What a page visits of the rows it is asked for. -/
theorem visited_stops {rows : List CorpusRow} :
    let visited := ((rows.take pageRows).takeWhile (!·.unreadable)).length
    visited ≤ pageRows ∧ (visited = rows.length ∨ visited = pageRows ∨
      ∃ row, rows[visited]? = some row ∧ row.unreadable = true) := by
  intro visited
  have hsplit := List.takeWhile_append_dropWhile (p := (!·.unreadable)) (l := rows.take pageRows)
  have hlength := congrArg List.length hsplit
  rw [List.length_append, List.length_take] at hlength
  refine ⟨by omega, ?_⟩
  have hhead := List.head?_dropWhile_not (!·.unreadable) (rows.take pageRows)
  cases hstopped : (rows.take pageRows).dropWhile (!·.unreadable) with
  | nil =>
    rw [hstopped, List.length_nil] at hlength
    omega
  | cons row rest =>
    rw [hstopped, List.head?_cons] at hhead
    refine .inr (.inr ⟨row, ?_, by simpa using hhead⟩)
    have hrow : (rows.take pageRows)[visited]? = some row := by
      rw [← hsplit, List.getElem?_append_right le_rfl, Nat.sub_self, hstopped,
        List.getElem?_cons_zero]
    rw [List.getElem?_take] at hrow
    split_ifs at hrow
    exact hrow

theorem filterMap_eq_nil_iff_metadata {rows : List CorpusRow} :
    rows.filterMap (·.metadata accountHolder shardId) = [] ↔
      ∀ row ∈ rows, row.metadata accountHolder shardId = none :=
  List.filterMap_eq_nil_iff

/-- The last page yields all that can be decoded exactly when what follows cannot. -/
theorem last_page_covers {rows : List CorpusRow}
    (hfull : ¬ Full accountHolder shardId pageRows rows) :
    (readPage accountHolder shardId (rows.take pageRows)).messages =
        rows.filterMap (·.metadata accountHolder shardId) ↔
      Covered accountHolder shardId pageRows rows := by
  have hstarts : (rows.take pageRows).takeWhile (!·.unreadable) <+: rows :=
    (List.takeWhile_prefix _).trans (List.take_prefix ..)
  rcases hstarts with ⟨rest, hrest⟩
  have hstops := @visited_stops pageRows rows
  have hreadable : ∀ row ∈ (rows.take pageRows).takeWhile (!·.unreadable),
      row.unreadable = false := by
    intro row hrow
    simpa using List.mem_takeWhile_imp hrow
  rw [readPage_messages]
  set visited := (rows.take pageRows).takeWhile (!·.unreadable) with hvisited
  have hmessages : visited.filterMap (·.metadata accountHolder shardId) =
      rows.filterMap (·.metadata accountHolder shardId) ↔
        ∀ row ∈ rest, row.metadata accountHolder shardId = none := by
    rw [← hrest, List.filterMap_append, ← filterMap_eq_nil_iff_metadata]
    exact List.self_eq_append_right
  rw [hmessages]
  constructor
  · intro hnone place later row row' hrow hmissing hrow' hdecoded
    have hlater : later < visited.length := by
      by_contra hbeyond
      rw [← hrest, List.getElem?_append_right (by omega)] at hrow'
      rw [hnone row' (List.mem_of_getElem? hrow')] at hdecoded
      cases hdecoded
    have hpages : pageRows ≤ (place / pageRows + 1) * pageRows :=
      Nat.le_mul_of_pos_left pageRows (Nat.succ_pos _)
    refine ⟨by omega, fun hunreadable => ?_⟩
    by_contra hearly
    rw [← hrest, List.getElem?_append_left (by omega)] at hrow
    have hread := hreadable row (List.mem_of_getElem? hrow)
    rw [hunreadable] at hread
    cases hread
  · intro hcovered row' hrow'
    by_contra hdecoded
    rcases List.getElem?_of_mem hrow' with ⟨offset, hoffset⟩
    have hsome : (row'.metadata accountHolder shardId).isSome = true :=
      Option.isSome_iff_ne_none.mpr hdecoded
    have hlater : rows[visited.length + offset]? = some row' := by
      rw [← hrest, List.getElem?_append_right (by omega), Nat.add_sub_cancel_left, hoffset]
    rcases hstops.2 with hall | hpageful | ⟨row, hrow, hunreadable⟩
    · rw [← hrest, List.length_append] at hall
      have hempty := List.length_pos_of_mem hrow'
      omega
    · have hbad : ∃ row ∈ rows.take pageRows, row.metadata accountHolder shardId = none := by
        by_contra hall
        refine hfull ⟨?_, fun row hrow => Option.isSome_iff_ne_none.mpr fun hmissing =>
          hall ⟨row, hrow, hmissing⟩⟩
        rw [← hrest, List.length_append]
        omega
      rcases hbad with ⟨row, hrow, hmissing⟩
      rcases List.getElem?_of_mem hrow with ⟨place, hplace⟩
      rw [List.getElem?_take] at hplace
      split_ifs at hplace with hearly
      have hbound := (hcovered place _ row row' hplace hmissing hlater hsome).1
      rw [Nat.div_eq_of_lt hearly] at hbound
      omega
    · have hmissing : row.metadata accountHolder shardId = none := by
        rw [CorpusRow.metadata, if_pos hunreadable]
      have hbound := (hcovered _ _ row row' hrow hmissing hlater hsome).2 hunreadable
      omega

variable (accountHolder shardId) in
/-- Page by page: a full page goes on behind it, any other one is the last. -/
theorem scan_induction (table : MessageTable) (hpage : 0 < pageRows) {motive : ℤ → Prop}
    (hnext : ∀ before last, Full accountHolder shardId pageRows (table.after before) →
      table.after last = (table.after before).drop pageRows →
      scanPages accountHolder pageRows shardId table before =
        (readPage accountHolder shardId ((table.after before).take pageRows)).append
          (scanPages accountHolder pageRows shardId table last) → motive last → motive before)
    (hlast : ∀ before, ¬ Full accountHolder shardId pageRows (table.after before) → motive before)
    (before : ℤ) : motive before := by
  induction hlength : (table.after before).length using Nat.strong_induction_on
    generalizing before with
  | _ length ih =>
    by_cases hfull : Full accountHolder shardId pageRows (table.after before)
    · rcases scanPages_full hpage hfull with ⟨last, hrows, hscan⟩
      have hshorter : (table.after last).length < length := by
        rw [hrows, List.length_drop]
        have hbound := hfull.1
        omega
      exact hnext before last hfull hrows hscan (ih _ hshorter last rfl)
    · exact hlast before hfull

/-- The rows of a full page and those behind it. -/
theorem filterMap_page (rows : List CorpusRow) :
    rows.filterMap (·.metadata accountHolder shardId) =
      (rows.take pageRows).filterMap (·.metadata accountHolder shardId) ++
        (rows.drop pageRows).filterMap (·.metadata accountHolder shardId) := by
  rw [← List.filterMap_append, List.take_append_drop]

/-- A scan of a table returns what can be decoded of it exactly when it is covered. -/
theorem scanPages_covers {table : MessageTable} {before : ℤ} (hpage : 0 < pageRows) :
    (scanPages accountHolder pageRows shardId table before).messages =
        (table.after before).filterMap (·.metadata accountHolder shardId) ↔
      Covered accountHolder shardId pageRows (table.after before) := by
  induction before using scan_induction accountHolder shardId table hpage with
  | hnext before last hfull hrows hscan ih =>
    rw [hrows] at ih
    rw [hscan, CorpusMetadataScan.append, readPage_messages,
      takeWhile_eq_self_of_metadata hfull.2, @filterMap_page _ _ pageRows (table.after before),
      List.append_cancel_left_eq, ih, covered_drop hpage hfull]
  | hlast before hfull =>
    rw [scanPages_last hfull]
    exact last_page_covers hfull

/-- What a scan returns is in the table, in its order. -/
theorem scanPages_starts {table : MessageTable} {before : ℤ} (hpage : 0 < pageRows) :
    (scanPages accountHolder pageRows shardId table before).messages <+:
      (table.after before).filterMap (·.metadata accountHolder shardId) := by
  induction before using scan_induction accountHolder shardId table hpage with
  | hnext before last hfull hrows hscan ih =>
    rw [hrows] at ih
    rw [hscan, CorpusMetadataScan.append, readPage_messages,
      takeWhile_eq_self_of_metadata hfull.2, @filterMap_page _ _ pageRows (table.after before)]
    exact (List.prefix_append_right_inj _).mpr ih
  | hlast before hfull =>
    rw [scanPages_last hfull, readPage_messages]
    exact ((List.takeWhile_prefix _).trans (List.take_prefix ..)).filterMap _

/-- The coverage is incomplete exactly when some row is not decoded. -/
theorem scanPages_coverage {table : MessageTable} {before : ℤ} (hpage : 0 < pageRows) :
    (scanPages accountHolder pageRows shardId table before).coverageComplete = false ↔
      ∃ row ∈ table.after before, row.metadata accountHolder shardId = none := by
  induction before using scan_induction accountHolder shardId table hpage with
  | hnext before last hfull hrows hscan ih =>
    have hfirst : (readPage accountHolder shardId
        ((table.after before).take pageRows)).coverageComplete = true := by
      rw [← Bool.not_eq_false, readPage_coverage]
      rintro ⟨row, hrow, hmissing⟩
      have hsome := hfull.2 row hrow
      simp [hmissing] at hsome
    rw [hscan, CorpusMetadataScan.append, hfirst, Bool.true_and, ih, hrows]
    constructor
    · rintro ⟨row, hrow, hmissing⟩
      exact ⟨row, List.mem_of_mem_drop hrow, hmissing⟩
    · rintro ⟨row, hrow, hmissing⟩
      rw [← List.take_append_drop pageRows (table.after before), List.mem_append] at hrow
      rcases hrow with hrow | hrow
      · have hsome := hfull.2 row hrow
        simp [hmissing] at hsome
      · exact ⟨row, hrow, hmissing⟩
  | hlast before hfull =>
    rw [scanPages_last hfull, readPage_coverage]
    constructor
    · rintro ⟨row, hrow, hmissing⟩
      exact ⟨row, List.mem_of_mem_take hrow, hmissing⟩
    · rintro ⟨row, hrow, hmissing⟩
      by_contra hall
      have hdecoded : ∀ row ∈ (table.after before).take pageRows,
          (row.metadata accountHolder shardId).isSome = true := fun row hrow =>
        Option.isSome_iff_ne_none.mpr fun hmissing => hall ⟨row, hrow, hmissing⟩
      have hshort : (table.after before).length < pageRows := by
        by_contra hlong
        exact hfull ⟨by omega, hdecoded⟩
      rw [List.take_of_length_le hshort.le] at hall
      exact hall ⟨row, hrow, hmissing⟩

end Pages

/-! The whole scan -/

section Conversations

variable (accountHolder : Option String) (pageRows : ℕ)

/-- The tables of a conversation, each with its shard. -/
def CorpusConversation.tables (conversation : CorpusConversation) (shards : List MessageShard) :
    List (ℕ × MessageTable) :=
  (shards.filter (conversation.shardIds.contains ·.shardId)).filterMap fun shard =>
    (shard.tables conversation.tableName).map (shard.shardId, ·)

/-- What can be decoded of a table that can be read. -/
def decodable (entry : ℕ × MessageTable) : List CorpusMessageMetadata :=
  if (entry.2.refusal entry.1).isSome then []
  else entry.2.rows.filterMap (·.metadata accountHolder entry.1)

/-- The table, or one of its rows, could not be read. -/
def Unread (entry : ℕ × MessageTable) : Prop :=
  (entry.2.refusal entry.1).isSome = true ∨
    ∃ row ∈ entry.2.rows, row.metadata accountHolder entry.1 = none

/-- Every row that can be decoded is returned once, in the order of the locations, and the
coverage tells whether something could not be read. -/
structure Exhaustive (tables : List (ℕ × MessageTable)) (scan : CorpusMetadataScan) : Prop where
  returned : scan.messages.Perm (tables.flatMap (decodable accountHolder))
  ordered : scan.messages.Pairwise fun left right =>
    (compare left.location.key right.location.key).isLE = true
  coverage : scan.coverageComplete = false ↔ ∃ entry ∈ tables, Unread accountHolder entry

/-- Each table is covered by its pages. A row under the least number is never visited: it can
not be decoded, and something else can not be read either. -/
structure Scannable (tables : List (ℕ × MessageTable)) : Prop where
  covered : ∀ entry ∈ tables, entry.2.refusal entry.1 = none →
    Covered accountHolder entry.1 pageRows (entry.2.after minimumRowId)
  least : ∀ entry ∈ tables, entry.2.refusal entry.1 = none → ∀ row ∈ entry.2.rows,
    row.rowId = minimumRowId → row.metadata accountHolder entry.1 = none ∧
      ∃ other ∈ tables, (other.2.refusal other.1).isSome = true ∨
        ∃ row ∈ other.2.after minimumRowId, row.metadata accountHolder other.1 = none

variable {accountHolder pageRows}

theorem scanShards_messages (conversation : CorpusConversation) (shards : List MessageShard) :
    ((shards.map (scanShard accountHolder pageRows conversation)).foldr CorpusMetadataScan.append
        ⟨[], [], true⟩).messages =
      (shards.filterMap fun shard => (shard.tables conversation.tableName).map
        (shard.shardId, ·)).flatMap fun entry =>
          (scanTable accountHolder pageRows entry.1 entry.2).messages := by
  induction shards with
  | nil => rfl
  | cons shard shards ih =>
    rw [List.map_cons, List.foldr_cons, CorpusMetadataScan.append]
    cases htable : shard.tables conversation.tableName with
    | none => simp [scanShard, htable, ih]
    | some table => simp [scanShard, htable, ih]

theorem scanShards_coverage (conversation : CorpusConversation) (shards : List MessageShard) :
    ((shards.map (scanShard accountHolder pageRows conversation)).foldr CorpusMetadataScan.append
        ⟨[], [], true⟩).coverageComplete = false ↔
      ∃ entry ∈ shards.filterMap fun shard => (shard.tables conversation.tableName).map
        (shard.shardId, ·), (scanTable accountHolder pageRows entry.1 entry.2).coverageComplete =
          false := by
  induction shards with
  | nil => simp
  | cons shard shards ih =>
    rw [List.map_cons, List.foldr_cons, CorpusMetadataScan.append, Bool.and_eq_false_iff, ih,
      List.filterMap_cons]
    cases htable : shard.tables conversation.tableName with
    | none => simp [scanShard, htable]
    | some table => simp only [scanShard, htable, Option.map_some, List.exists_mem_cons_iff]

theorem flatMap_sublist {α β : Type} {part whole : α → List β} {values : List α}
    (hpart : ∀ a ∈ values, (part a).Sublist (whole a)) :
    (values.flatMap part).Sublist (values.flatMap whole) := by
  induction values with
  | nil => simp
  | cons a values ih =>
    rw [List.forall_mem_cons] at hpart
    exact hpart.1.append (ih hpart.2)

/-- Lists that are parts of others are together as long as these exactly when each is. -/
theorem flatMap_perm_iff {α β : Type} {part whole : α → List β} {values : List α}
    (hpart : ∀ a ∈ values, (part a).Sublist (whole a)) :
    (values.flatMap part).Perm (values.flatMap whole) ↔ ∀ a ∈ values, part a = whole a := by
  constructor
  · intro hperm
    replace hperm := hperm.length_eq
    induction values with
    | nil => simp
    | cons a values ih =>
      rw [List.forall_mem_cons] at hpart ⊢
      have hhead := hpart.1.length_le
      have htail := (flatMap_sublist hpart.2).length_le
      rw [List.flatMap_cons, List.flatMap_cons, List.length_append, List.length_append] at hperm
      exact ⟨hpart.1.eq_of_length (by omega), ih hpart.2 (by omega)⟩
  · intro hsame
    rw [List.flatMap_congr hsame]

/-- The rows under the least number come first. -/
theorem rows_split (table : MessageTable) :
    table.rows = table.rows.filter (·.rowId = minimumRowId) ++ table.after minimumRowId := by
  have hordered := table.ordered
  have hbounded := table.bounded
  rw [MessageTable.after]
  generalize table.rows = rows at hordered hbounded ⊢
  induction rows with
  | nil => rfl
  | cons row rows ih =>
    rw [List.pairwise_cons] at hordered
    rw [List.forall_mem_cons] at hbounded
    by_cases hleast : row.rowId = minimumRowId
    · have hlater : ∀ next ∈ rows, minimumRowId < next.rowId := fun next hnext =>
        hleast ▸ hordered.1 next hnext
      have hnone : rows.filter (·.rowId = minimumRowId) = [] := by
        rw [List.filter_eq_nil_iff]
        intro next hnext
        simpa using (hlater next hnext).ne'
      have hall : rows.filter (minimumRowId < ·.rowId) = rows := by
        rw [List.filter_eq_self]
        intro next hnext
        simpa using hlater next hnext
      rw [List.filter_cons_of_pos (by simpa using hleast), hnone,
        List.filter_cons_of_neg (by simp [hleast]), hall]
      rfl
    · have hlater : minimumRowId < row.rowId := lt_of_le_of_ne hbounded.1 (Ne.symm hleast)
      have hnone : rows.filter (·.rowId = minimumRowId) = [] := by
        rw [List.filter_eq_nil_iff]
        intro next hnext
        have hnext' := hordered.1 next hnext
        simp only [decide_eq_true_eq]
        omega
      have hrest := ih hordered.2 hbounded.2
      rw [hnone, List.nil_append] at hrest
      rw [List.filter_cons_of_neg (by simpa using hleast), hnone,
        List.filter_cons_of_pos (by simpa using hlater), ← hrest, List.nil_append]

theorem scanTable_sublist (entry : ℕ × MessageTable) (hpage : 0 < pageRows) :
    (scanTable accountHolder pageRows entry.1 entry.2).messages.Sublist
      (decodable accountHolder entry) := by
  rw [scanTable, decodable]
  cases entry.2.refusal entry.1 with
  | some warning => exact List.nil_sublist _
  | none =>
    have hstarts := @scanPages_starts accountHolder entry.1 pageRows entry.2 minimumRowId hpage
    refine hstarts.sublist.trans ?_
    exact List.filter_sublist.filterMap _

theorem scanTable_messages (entry : ℕ × MessageTable) (hpage : 0 < pageRows) :
    (scanTable accountHolder pageRows entry.1 entry.2).messages = decodable accountHolder entry ↔
      (entry.2.refusal entry.1 = none →
        Covered accountHolder entry.1 pageRows (entry.2.after minimumRowId) ∧
        ∀ row ∈ entry.2.rows, row.rowId = minimumRowId →
          row.metadata accountHolder entry.1 = none) := by
  rw [scanTable, decodable]
  cases entry.2.refusal entry.1 with
  | some warning => simp
  | none =>
    have hleast : (entry.2.rows.filter (·.rowId = minimumRowId)).filterMap
        (·.metadata accountHolder entry.1) = [] ↔
          ∀ row ∈ entry.2.rows, row.rowId = minimumRowId →
            row.metadata accountHolder entry.1 = none := by
      rw [filterMap_eq_nil_iff_metadata]
      simp only [List.mem_filter, decide_eq_true_eq, and_imp]
    have hsplit := congrArg (·.filterMap (·.metadata accountHolder entry.1)) (rows_split entry.2)
    simp only [List.filterMap_append] at hsplit
    have hstarts := @scanPages_starts accountHolder entry.1 pageRows entry.2 minimumRowId hpage
    simp only [Option.isSome_none, Bool.false_eq_true, if_false, true_imp_iff]
    rw [← hleast, hsplit, ← @scanPages_covers accountHolder entry.1 pageRows entry.2 minimumRowId
      hpage]
    constructor
    · intro hsame
      have hlength := hstarts.length_le
      have hwhole := congrArg List.length hsame
      rw [List.length_append] at hwhole
      have hnone := List.eq_nil_of_length_eq_zero (by omega : ((entry.2.rows.filter
        (·.rowId = minimumRowId)).filterMap (·.metadata accountHolder entry.1)).length = 0)
      rw [hnone, List.nil_append] at hsame
      exact ⟨hsame, hnone⟩
    · rintro ⟨hsame, hnone⟩
      rw [hnone, hsame, List.nil_append]

theorem scanTable_coverage (entry : ℕ × MessageTable) (hpage : 0 < pageRows) :
    (scanTable accountHolder pageRows entry.1 entry.2).coverageComplete = false ↔
      (entry.2.refusal entry.1).isSome = true ∨
        ∃ row ∈ entry.2.after minimumRowId, row.metadata accountHolder entry.1 = none := by
  rw [scanTable]
  cases hrefusal : entry.2.refusal entry.1 with
  | some warning => simp
  | none =>
    simp only [Option.isSome_none, Bool.false_eq_true, false_or]
    exact scanPages_coverage hpage

theorem returned_iff (shards : List MessageShard) (conversation : CorpusConversation)
    (hpage : 0 < pageRows) :
    (scanMetadata accountHolder pageRows shards conversation).messages.Perm
        ((conversation.tables shards).flatMap (decodable accountHolder)) ↔
      ∀ entry ∈ conversation.tables shards,
        (scanTable accountHolder pageRows entry.1 entry.2).messages =
          decodable accountHolder entry := by
  rw [scanMetadata, (sortBy_perm _ _).congr_left, scanShards_messages]
  exact flatMap_perm_iff fun entry _ => scanTable_sublist entry hpage

theorem coverage_iff (shards : List MessageShard) (conversation : CorpusConversation)
    (hpage : 0 < pageRows) :
    (scanMetadata accountHolder pageRows shards conversation).coverageComplete = false ↔
      ∃ entry ∈ conversation.tables shards, (entry.2.refusal entry.1).isSome = true ∨
        ∃ row ∈ entry.2.after minimumRowId, row.metadata accountHolder entry.1 = none := by
  rw [scanMetadata, scanShards_coverage]
  exact exists_congr fun entry => and_congr_right fun _ => scanTable_coverage entry hpage

theorem Exhaustive.scannable {shards : List MessageShard} {conversation : CorpusConversation}
    (hpage : 0 < pageRows) (h : Exhaustive accountHolder (conversation.tables shards)
      (scanMetadata accountHolder pageRows shards conversation)) :
    Scannable accountHolder pageRows (conversation.tables shards) := by
  have hall := (returned_iff shards conversation hpage).mp h.returned
  have hentries := fun entry hentry => (scanTable_messages entry hpage).mp (hall entry hentry)
  refine ⟨fun entry hentry hread => (hentries entry hentry hread).1, ?_⟩
  intro entry hentry hread row hrow hleast
  have hmissing := (hentries entry hentry hread).2 row hrow hleast
  exact ⟨hmissing, (coverage_iff shards conversation hpage).mp
    (h.coverage.mpr ⟨entry, hentry, .inr ⟨row, hrow, hmissing⟩⟩)⟩

theorem Scannable.exhaustive {shards : List MessageShard} {conversation : CorpusConversation}
    (hpage : 0 < pageRows)
    (h : Scannable accountHolder pageRows (conversation.tables shards)) :
    Exhaustive accountHolder (conversation.tables shards)
      (scanMetadata accountHolder pageRows shards conversation) := by
  refine ⟨(returned_iff shards conversation hpage).mpr fun entry hentry =>
    (scanTable_messages entry hpage).mpr fun hread => ⟨h.covered entry hentry hread,
      fun row hrow hleast => (h.least entry hentry hread row hrow hleast).1⟩,
    sortBy_pairwise _ _, ?_⟩
  rw [coverage_iff shards conversation hpage]
  constructor
  · rintro ⟨entry, hentry, hrefused | ⟨row, hrow, hmissing⟩⟩
    · exact ⟨entry, hentry, .inl hrefused⟩
    · exact ⟨entry, hentry, .inr ⟨row, List.mem_of_mem_filter hrow, hmissing⟩⟩
  · rintro ⟨entry, hentry, hrefused | ⟨row, hrow, hmissing⟩⟩
    · exact ⟨entry, hentry, .inl hrefused⟩
    · cases hread : entry.2.refusal entry.1 with
      | some warning => exact ⟨entry, hentry, .inl (by rw [hread]; rfl)⟩
      | none =>
        by_cases hleast : row.rowId = minimumRowId
        · exact (h.least entry hentry hread row hrow hleast).2
        · have hlater : minimumRowId < row.rowId :=
            lt_of_le_of_ne (entry.2.bounded row hrow) (Ne.symm hleast)
          refine ⟨entry, hentry, .inr ⟨row, ?_, hmissing⟩⟩
          rw [MessageTable.after, List.mem_filter]
          exact ⟨hrow, decide_eq_true hlater⟩

/-- The scan of a conversation is exhaustive exactly when its tables can be scanned. -/
theorem scan_exhaustive_iff (accountHolder : Option String) (shards : List MessageShard)
    (conversation : CorpusConversation) :
    Exhaustive accountHolder (conversation.tables shards)
        (scanMetadata accountHolder corpusMetadataPageRows shards conversation) ↔
      Scannable accountHolder corpusMetadataPageRows (conversation.tables shards) :=
  ⟨Exhaustive.scannable (by decide), Scannable.exhaustive (by decide)⟩

end Conversations

/-! A row more than a page, the first one of a type that is not an integer -/

def sampleRow (number : ℕ) : CorpusRow where
  rowId := number
  sortSeq := if number = 0 then .null else .integer 1
  serverId := .integer 1
  localType := .integer 1
  sender := .text "friend"
  createTime := .integer 1
  unreadable := false

def sampleTable (count : ℕ) : MessageTable where
  columns := some corpusRequiredColumns
  prepared := true
  queried := true
  rows := (List.range count).map sampleRow
  ordered := by
    rw [List.pairwise_map]
    exact List.pairwise_lt_range.imp fun hlt => Int.ofNat_lt.mpr hlt
  bounded := by
    intro row hrow
    rcases List.mem_map.mp hrow with ⟨number, -, rfl⟩
    exact Int.le_trans (by decide) (Int.natCast_nonneg number)

theorem sampleTable_after (count : ℕ) :
    (sampleTable count).after minimumRowId = (List.range count).map sampleRow := by
  have hleast : minimumRowId < 0 := by decide
  rw [MessageTable.after, sampleTable, List.filter_eq_self]
  intro row hrow
  rcases List.mem_map.mp hrow with ⟨number, -, rfl⟩
  exact decide_eq_true (Int.lt_of_lt_of_le hleast (Int.natCast_nonneg number))

theorem sampleTable_row {number count : ℕ} (h : number < count) :
    ((sampleTable count).after minimumRowId)[number]? = some (sampleRow number) := by
  rw [sampleTable_after, List.getElem?_map, List.getElem?_range h, Option.map_some]

theorem sampleRow_decoded {number : ℕ} (h : number ≠ 0) :
    ((sampleRow number).metadata none 0).isSome = true := by
  simp [sampleRow, CorpusRow.metadata, CorpusRow.decoded, h, SqlValue.getInteger,
    SqlValue.getNullable, SqlValue.getText]

/-- A row of another type in front of a page of rows keeps the last one from being read. -/
theorem sampleTable_not_scannable {count : ℕ} (hcount : 0 < count) :
    ¬ Scannable none count [(0, sampleTable (count + 1))] := by
  intro hscannable
  have hcovered := hscannable.covered (0, sampleTable (count + 1)) (List.mem_singleton.mpr rfl) rfl
  have hbound := (hcovered 0 count (sampleRow 0) (sampleRow count)
    (sampleTable_row (Nat.succ_pos count)) rfl (sampleTable_row (Nat.lt_succ_self count))
    (sampleRow_decoded hcount.ne')).1
  rw [Nat.zero_div, Nat.zero_add, Nat.one_mul] at hbound
  exact absurd hbound (Nat.lt_irrefl count)

/-- The last row is never asked for: the first page decoded one row less than it could hold. -/
theorem sampleTable_lost : ¬ ∀ (accountHolder : Option String) (shards : List MessageShard)
    (conversation : CorpusConversation),
    Exhaustive accountHolder (conversation.tables shards)
      (scanMetadata accountHolder corpusMetadataPageRows shards conversation) := by
  intro hall
  have hpage : 0 < corpusMetadataPageRows := by decide
  have htables : ∀ table, CorpusConversation.tables ⟨"Msg", [0]⟩ [⟨0, fun _ => some table⟩] =
      [(0, table)] := fun _ => rfl
  have hexhaustive := hall none [⟨0, fun _ => some (sampleTable (corpusMetadataPageRows + 1))⟩]
    ⟨"Msg", [0]⟩
  have hscannable := Exhaustive.scannable hpage hexhaustive
  rw [htables] at hscannable
  exact sampleTable_not_scannable hpage hscannable

end GreenBubbles.LiveQuery
