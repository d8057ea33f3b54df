import Mathlib.Logic.Relation
import GreenBubbles.Replica.Search

/-! # Following the pages of a message search

The rows a filter matches stand in a strict order, and a page inspects a window
of those that follow its cursor. A reader is shown every healthy row exactly
when no window ends where rows behind it are passed over.
-/
namespace GreenBubbles.Replica

open Library Library.Bytes Library.Sql Library.Paging
open Archive (CanonicalMessage)

def ReplicaMessageCursor.key (cursor : ReplicaMessageCursor) : RowKey :=
  toLex (SqlValue.key (.integer cursor.afterSortTime),
    toLex (SqlValue.key (.text cursor.afterConversationId),
      toLex (SqlValue.key (.integer cursor.afterConversationOrdinal),
        SqlValue.key (.text cursor.afterCanonicalId))))

theorem MessageRow.sortTime_ne_null (row : MessageRow) : row.sortTime ≠ .null := by
  rw [sortTime, SqlValue.coalesce]
  split_ifs with h
  · simp
  · exact h

/-- The nested condition of the query is the order the rows stand in. -/
theorem MessageRow.isAfter_iff {row : MessageRow} (hconversation : row.conversationId ≠ .null)
    (hordinal : row.conversationOrdinal ≠ .null) (hcanonical : row.canonicalId ≠ .null)
    (cursor : ReplicaMessageCursor) : row.isAfter cursor = true ↔ cursor.key < row.key := by
  have htime := row.sortTime_ne_null
  simp only [isAfter, SqlValue.precedes, SqlValue.equals, ReplicaMessageCursor.key, key,
    four_lt_iff, Bool.or_eq_true, Bool.and_eq_true, bne_iff_ne, ne_eq, htime, hconversation,
    hordinal, hcanonical, not_false_eq_true, reduceCtorEq, and_self, true_and, decide_eq_true_eq,
    beq_iff_eq]

section Healthy

variable (decode : List UInt8 → Option CanonicalMessage) (accountId : String)

/-- The message of a row whose indexed columns are exactly those of its record. -/
def MessageRow.healthyRecord (row : MessageRow) : Option CanonicalMessage := do
  let bytes ← row.recordJson.getBlob
  let message ← decode bytes
  if message.accountId = accountId ∧ message.canonicalId ≠ "" ∧ message.conversationId ≠ "" ∧
      row.canonicalId = .text message.canonicalId ∧
      row.conversationId = .text message.conversationId ∧
      row.conversationOrdinal = .integer message.conversationOrdinal ∧
      row.createdAtUnix = .ofOption .integer message.createdAtUnix then some message
  else none

/-- What the scan takes from a row. -/
def MessageRow.released (row : MessageRow) : Option CanonicalMessage :=
  row.readIdentity.bind (row.readRecord decode accountId)

variable {decode accountId}

theorem MessageRow.healthyRecord_eq_some {row : MessageRow} {message : CanonicalMessage} :
    row.healthyRecord decode accountId = some message ↔
      (∃ bytes, row.recordJson = .blob bytes ∧ decode bytes = some message) ∧
        message.accountId = accountId ∧ message.canonicalId ≠ "" ∧ message.conversationId ≠ "" ∧
        row.canonicalId = .text message.canonicalId ∧
        row.conversationId = .text message.conversationId ∧
        row.conversationOrdinal = .integer message.conversationOrdinal ∧
        row.createdAtUnix = .ofOption .integer message.createdAtUnix := by
  cases hblob : row.recordJson with
  | blob bytes =>
    cases hdecode : decode bytes with
    | none => simp [healthyRecord, hblob, SqlValue.getBlob, hdecode]
    | some stored =>
      simp only [healthyRecord, hblob, SqlValue.getBlob, hdecode, Option.bind_eq_bind,
        Option.bind_some, Option.ite_none_right_eq_some, SqlValue.blob.injEq]
      constructor
      · rintro ⟨h, hmessage⟩
        cases hmessage
        exact ⟨⟨bytes, rfl, hdecode⟩, h⟩
      · rintro ⟨⟨_, rfl, hsame⟩, h⟩
        rw [hdecode] at hsame
        cases hsame
        exact ⟨h, rfl⟩
  | _ => simp [healthyRecord, hblob, SqlValue.getBlob]

theorem MessageRow.readIdentity_eq_some {row : MessageRow} {identity : MessageIdentity} :
    row.readIdentity = some identity ↔
      row.createdAtUnix = .ofOption .integer identity.createdAtUnix ∧
        row.conversationId = .text identity.conversationId ∧
        (∃ ordinal : ℤ, row.conversationOrdinal = .integer ordinal ∧
          identity.conversationOrdinal = ordinal.toNat) ∧
        row.canonicalId = .text identity.canonicalId := by
  have hnullable : ∀ value : SqlValue, value.getNullable SqlValue.getInteger =
      some identity.createdAtUnix ↔ value = .ofOption .integer identity.createdAtUnix := by
    intro value
    cases value <;> cases identity.createdAtUnix <;>
      simp [SqlValue.getNullable, SqlValue.getInteger, SqlValue.ofOption]
  simp only [readIdentity, Option.bind_eq_bind, Option.bind_eq_some_iff,
    SqlValue.getText_eq_some, SqlValue.getInteger_eq_some, ← hnullable]
  constructor
  · rintro ⟨created, hcreated, conversation, hconversation, ordinal, hordinal, canonical,
      hcanonical, h⟩
    cases h
    exact ⟨hcreated, hconversation, ⟨ordinal, hordinal, rfl⟩, hcanonical⟩
  · rintro ⟨hcreated, hconversation, ⟨ordinal, hordinal, hsame⟩, hcanonical⟩
    refine ⟨_, hcreated, _, hconversation, ordinal, hordinal, _, hcanonical, ?_⟩
    rw [← hsame]
    rfl

theorem MessageRow.readRecord_eq_some {row : MessageRow} {identity : MessageIdentity}
    {message : CanonicalMessage} : row.readRecord decode accountId identity = some message ↔
      (∃ bytes, row.recordJson = .blob bytes ∧ decode bytes = some message) ∧
        message.accountId = accountId ∧ message.canonicalId ≠ "" ∧ message.conversationId ≠ "" ∧
        message.canonicalId = identity.canonicalId ∧
        message.conversationId = identity.conversationId ∧
        message.conversationOrdinal = identity.conversationOrdinal ∧
        message.createdAtUnix = identity.createdAtUnix := by
  cases hblob : row.recordJson with
  | blob bytes =>
    cases hdecode : decode bytes with
    | none => simp [readRecord, hblob, SqlValue.getBlob, hdecode]
    | some stored =>
      simp only [readRecord, hblob, SqlValue.getBlob, hdecode, Option.bind_eq_bind,
        Option.bind_some, Option.ite_none_left_eq_some, SqlValue.blob.injEq, not_or, not_not]
      constructor
      · rintro ⟨h, hmessage⟩
        cases hmessage
        exact ⟨⟨bytes, rfl, hdecode⟩, h⟩
      · rintro ⟨⟨_, rfl, hsame⟩, h⟩
        rw [hdecode] at hsame
        cases hsame
        exact ⟨h, rfl⟩
  | _ => simp [readRecord, hblob, SqlValue.getBlob]

/-- What a cursor made from a healthy row says. -/
def MessageIdentity.ofRecord (message : CanonicalMessage) : MessageIdentity :=
  ⟨message.createdAtUnix, message.conversationId, message.conversationOrdinal, message.canonicalId⟩

theorem MessageRow.readIdentity_of_healthy {row : MessageRow} {message : CanonicalMessage}
    (h : row.healthyRecord decode accountId = some message) :
    row.readIdentity = some (.ofRecord message) := by
  rcases healthyRecord_eq_some.mp h with
    ⟨-, -, -, -, hcanonical, hconversation, hordinal, hcreated⟩
  exact readIdentity_eq_some.mpr ⟨hcreated, hconversation, ⟨_, hordinal, rfl⟩, hcanonical⟩

theorem MessageRow.released_of_healthy {row : MessageRow} {message : CanonicalMessage}
    (h : row.healthyRecord decode accountId = some message) :
    row.released decode accountId = some message := by
  rw [released, row.readIdentity_of_healthy h, Option.bind_some, readRecord_eq_some]
  rcases healthyRecord_eq_some.mp h with ⟨hstored, haccount, hcanonical, hconversation, -⟩
  exact ⟨hstored, haccount, hcanonical, hconversation, rfl, rfl, rfl, rfl⟩

/-- A row that is released though it is not healthy has a negative ordinal and
a record that says zero. -/
theorem MessageRow.healthy_of_released {row : MessageRow} {message : CanonicalMessage}
    (h : row.released decode accountId = some message) :
    row.healthyRecord decode accountId = some message ∨
      ∃ ordinal < 0, row.conversationOrdinal = .integer ordinal ∧
        message.conversationOrdinal = 0 := by
  rcases Option.bind_eq_some_iff.mp h with ⟨identity, hidentity, hrecord⟩
  rcases readIdentity_eq_some.mp hidentity with
    ⟨hcreated, hconversation, ⟨ordinal, hordinal, hread⟩, hcanonical⟩
  rcases readRecord_eq_some.mp hrecord with
    ⟨hstored, haccount, hnonempty, hnonempty', hcanonical', hconversation', hordinal', hcreated'⟩
  by_cases hnegative : ordinal < 0
  · right
    refine ⟨ordinal, hnegative, hordinal, ?_⟩
    rw [hordinal', hread]
    omega
  · left
    rw [healthyRecord_eq_some, hcanonical', hconversation', hcreated']
    refine ⟨hstored, haccount, hcanonical' ▸ hnonempty, hconversation' ▸ hnonempty', hcanonical,
      hconversation, ?_, hcreated⟩
    rw [hordinal, hordinal', hread, Int.toNat_of_nonneg (by omega)]

end Healthy

section Scanning

variable (decode : List UInt8 → Option CanonicalMessage) (accountId : String)

/-- The rows a page looks at: it stops at the last message it has room for. -/
def inspected : ℕ → List MessageRow → List MessageRow
  | 0, _ => []
  | _, [] => []
  | wanted + 1, row :: rows =>
    row :: inspected (if (row.released decode accountId).isSome then wanted else wanted + 1) rows

def window (limit : ℕ) (rows : List MessageRow) : List MessageRow :=
  inspected decode accountId limit (rows.take (scanLimit limit))

/-- The last identity a page can make a cursor from. -/
def lastIdentity (rows : List MessageRow) : Option MessageIdentity :=
  (rows.filterMap MessageRow.readIdentity).getLast?

/-- A page that may have left rows behind. -/
def IsFull (limit : ℕ) (rows : List MessageRow) : Prop :=
  (rows.filterMap (MessageRow.released decode accountId)).length = limit ∨
    rows.length = scanLimit limit

instance (limit : ℕ) (rows : List MessageRow) : Decidable (IsFull decode accountId limit rows) :=
  inferInstanceAs (Decidable (_ ∨ _))

variable {decode accountId}

variable (decode accountId) in
theorem inspected_starts (wanted : ℕ) (rows : List MessageRow) :
    inspected decode accountId wanted rows <+: rows := by
  fun_induction inspected decode accountId wanted rows with
  | case1 => exact List.nil_prefix
  | case2 => exact List.nil_prefix
  | case3 wanted row rows ih => exact (List.prefix_cons_inj row).mpr ih

variable (decode accountId) in
theorem window_starts (limit : ℕ) (rows : List MessageRow) :
    window decode accountId limit rows <+: rows :=
  (inspected_starts decode accountId limit _).trans (List.take_prefix _ _)

theorem lastIdentity_cons (row : MessageRow) (rows : List MessageRow) :
    lastIdentity (row :: rows) = (lastIdentity rows).or row.readIdentity := by
  rw [lastIdentity, lastIdentity, List.filterMap_cons]
  cases hidentity : row.readIdentity with
  | none => simp
  | some identity =>
    rw [List.getLast?_cons]
    cases (rows.filterMap MessageRow.readIdentity).getLast? <;> rfl

variable (decode accountId) in
theorem scanRows_spec {limit : ℕ} (rows : List MessageRow) (scan : Scan)
    (hroom : scan.items.length < limit) (hmore : scan.hasMore = false) :
    let seen := inspected decode accountId (limit - scan.items.length) rows
    let after := scanRows decode accountId limit scan (rows.map some)
    after.items = scan.items ++ seen.filterMap (MessageRow.released decode accountId) ∧
      after.lastScannedIdentity = (lastIdentity seen).or scan.lastScannedIdentity ∧
      after.scannedCount = scan.scannedCount + seen.length ∧
      (after.hasMore = true ↔ after.items.length = limit) := by
  have hwanted : limit - scan.items.length = limit - scan.items.length - 1 + 1 := by omega
  induction rows generalizing scan with
  | nil =>
    rw [hwanted]
    simp [inspected, scanRows, lastIdentity, hmore]
    omega
  | cons row rows ih =>
    cases hidentity : row.readIdentity with
    | none =>
      have hreleased : row.released decode accountId = none := by
        rw [MessageRow.released, hidentity, Option.bind_none]
      have hrest := ih { scan with
        scannedCount := scan.scannedCount + 1
        omittedItemCount := scan.omittedItemCount + 1 } hroom hmore hwanted
      simp only [List.map_cons, scanRows, Option.bind_some, hidentity, Option.map_none]
      rw [hwanted, inspected, hreleased, lastIdentity_cons, hidentity, List.filterMap_cons,
        hreleased, Option.or_none]
      simp only [Option.isSome_none, Bool.false_eq_true, if_false, ← hwanted, List.length_cons]
      refine ⟨hrest.1, hrest.2.1, ?_, hrest.2.2.2⟩
      rw [hrest.2.2.1, Nat.add_right_comm, Nat.add_assoc]
    | some identity =>
      cases hrecord : row.readRecord decode accountId identity with
      | none =>
        have hreleased : row.released decode accountId = none := by
          rw [MessageRow.released, hidentity, Option.bind_some, hrecord]
        have hrest := ih { scan with
          scannedCount := scan.scannedCount + 1
          lastScannedIdentity := some identity
          omittedItemCount := scan.omittedItemCount + 1 } hroom hmore hwanted
        simp only [List.map_cons, scanRows, Option.bind_some, hidentity, Option.map_some, hrecord]
        rw [hwanted, inspected, hreleased, lastIdentity_cons, hidentity, List.filterMap_cons,
          hreleased]
        simp only [Option.isSome_none, Bool.false_eq_true, if_false, ← hwanted, List.length_cons]
        refine ⟨hrest.1, ?_, ?_, hrest.2.2.2⟩
        · rw [hrest.2.1, Option.or_assoc, Option.some_or]
        · rw [hrest.2.2.1, Nat.add_right_comm, Nat.add_assoc]
      | some message =>
        have hreleased : row.released decode accountId = some message := by
          rw [MessageRow.released, hidentity, Option.bind_some, hrecord]
        have hlength : (scan.items ++ [message]).length = scan.items.length + 1 := by simp
        simp only [List.map_cons, scanRows, Option.bind_some, hidentity, Option.map_some, hrecord]
        rw [hwanted, inspected, hreleased, lastIdentity_cons, hidentity, List.filterMap_cons,
          hreleased]
        simp only [Option.isSome_some, if_true, List.length_cons]
        by_cases hfull : (scan.items ++ [message]).length = limit
        · -- The page has no room for another message.
          have hnone : limit - scan.items.length - 1 = 0 := by omega
          rw [if_pos hfull, hnone, inspected]
          exact ⟨rfl, by simp [lastIdentity], rfl, by simp [hfull]⟩
        · have hnext : limit - scan.items.length - 1 = limit - (scan.items ++ [message]).length := by
            omega
          have hrest := ih { scan with
            scannedCount := scan.scannedCount + 1
            lastScannedIdentity := some identity
            items := scan.items ++ [message] } (by dsimp only; omega) hmore (by dsimp only; omega)
          rw [if_neg hfull, hnext]
          refine ⟨?_, ?_, ?_, hrest.2.2.2⟩
          · rw [hrest.1, List.append_assoc, List.singleton_append]
          · rw [hrest.2.1, Option.or_assoc, Option.some_or]
          · rw [hrest.2.2.1, Nat.add_right_comm, Nat.add_assoc]

/-- A page that is not full has looked at every row. -/
theorem inspected_eq {wanted : ℕ} {rows : List MessageRow}
    (h : ((inspected decode accountId wanted rows).filterMap
      (MessageRow.released decode accountId)).length ≠ wanted) :
    inspected decode accountId wanted rows = rows := by
  fun_induction inspected decode accountId wanted rows with
  | case1 => simp at h
  | case2 => rfl
  | case3 wanted row rows ih =>
    rw [ih]
    intro hrest
    apply h
    rw [List.filterMap_cons]
    cases hreleased : row.released decode accountId with
    | none => simpa [hreleased] using hrest
    | some message => simpa [hreleased] using hrest

variable (decode accountId) in
theorem inspected_released_le (wanted : ℕ) (rows : List MessageRow) :
    ((inspected decode accountId wanted rows).filterMap
      (MessageRow.released decode accountId)).length ≤ wanted := by
  fun_induction inspected decode accountId wanted rows with
  | case1 => simp
  | case2 => simp
  | case3 wanted row rows ih =>
    rw [List.filterMap_cons]
    cases hreleased : row.released decode accountId with
    | none => simpa [hreleased] using ih
    | some message => simpa [hreleased] using ih

theorem window_eq {limit : ℕ} {rows : List MessageRow}
    (h : ¬ IsFull decode accountId limit (window decode accountId limit rows)) :
    window decode accountId limit rows = rows := by
  rcases not_or.mp h with ⟨hitems, hscanned⟩
  have htake : window decode accountId limit rows = rows.take (scanLimit limit) := inspected_eq hitems
  rw [htake, List.length_take] at hscanned
  rw [htake, List.take_of_length_le (by omega)]

/-- The last readable row, with nothing readable behind it. -/
theorem lastIdentity_eq_some {rows : List MessageRow} {identity : MessageIdentity}
    (h : lastIdentity rows = some identity) :
    ∃ before row after, rows = before ++ row :: after ∧ row.readIdentity = some identity ∧
      ∀ other ∈ after, other.readIdentity = none := by
  induction rows with
  | nil => simp [lastIdentity] at h
  | cons row rows ih =>
    rw [lastIdentity_cons] at h
    cases hrest : lastIdentity rows with
    | some found =>
      rw [hrest, Option.some_or] at h
      rcases ih (hrest.trans h) with ⟨before, last, after, rfl, hlast, hafter⟩
      exact ⟨row :: before, last, after, rfl, hlast, hafter⟩
    | none =>
      rw [hrest, Option.none_or] at h
      have hunreadable : ∀ other ∈ rows, other.readIdentity = none := by
        rw [lastIdentity, List.getLast?_eq_none_iff, List.filterMap_eq_nil_iff] at hrest
        exact hrest
      exact ⟨[], row, rows, rfl, h, hunreadable⟩

def MessageIdentity.key (identity : MessageIdentity) : RowKey :=
  toLex (SqlValue.key (.integer (identity.createdAtUnix.getD minimumI64)),
    toLex (SqlValue.key (.text identity.conversationId),
      toLex (SqlValue.key (.integer identity.conversationOrdinal),
        SqlValue.key (.text identity.canonicalId))))

/-- A cursor never stands before the row it is made from. -/
theorem MessageRow.key_le {row : MessageRow} {identity : MessageIdentity}
    (h : row.readIdentity = some identity) : row.key ≤ identity.key := by
  rcases readIdentity_eq_some.mp h with
    ⟨hcreated, hconversation, ⟨ordinal, hordinal, hread⟩, hcanonical⟩
  have htime : row.sortTime = .integer (identity.createdAtUnix.getD minimumI64) := by
    rw [sortTime, hcreated]
    cases identity.createdAtUnix <;> rfl
  have hle : ordinal ≤ identity.conversationOrdinal := by
    rw [hread]
    exact Int.self_le_toNat ordinal
  rw [key, MessageIdentity.key, htime, hconversation, hordinal, hcanonical]
  rcases eq_or_lt_of_le hle with heq | hlt
  · rw [heq]
  · apply le_of_lt
    rw [four_lt_iff]
    exact .inl (.inr ⟨⟨rfl, rfl⟩, SqlValue.key_integer_lt.mpr hlt⟩)

end Scanning

section Pages

variable (decode : List UInt8 → Option CanonicalMessage) (accountId : String) (limit : ℕ)

/-- The rows a page that starts behind a key has before it. -/
def rowsBeyond (rows : List MessageRow) (bound : Option RowKey) : List MessageRow :=
  rows.filter fun row => bound.all fun bound => decide (bound < row.key)

/-- Where the pages of a search start: behind the last readable row of each full one. -/
inductive PageStart (rows : List MessageRow) : Option RowKey → Prop
  | first : PageStart rows none
  | next {bound : Option RowKey} {identity : MessageIdentity} (h : PageStart rows bound)
      (hfull : IsFull decode accountId limit (window decode accountId limit (rowsBeyond rows bound)))
      (hlast : lastIdentity (window decode accountId limit (rowsBeyond rows bound)) =
        some identity) : PageStart rows (some identity.key)

/-- The rows a page does not look at and the next one does not start before. -/
def passedOver (rows : List MessageRow) : List MessageRow :=
  let seen := window decode accountId limit rows
  (rows.drop seen.length).filter fun row =>
    (lastIdentity seen).all fun identity => decide (row.key ≤ identity.key)

/-- A page releases healthy rows only and passes over none. -/
structure PageSound (rows : List MessageRow) : Prop where
  genuine : ∀ row ∈ window decode accountId limit rows,
    (row.released decode accountId).isSome → (row.healthyRecord decode accountId).isSome
  complete : ∀ row ∈ passedOver decode accountId limit rows,
    row.healthyRecord decode accountId = none

def healthyRecords (rows : List MessageRow) : List CanonicalMessage :=
  rows.filterMap (MessageRow.healthyRecord decode accountId)

variable {decode accountId limit} {rows : List MessageRow}

theorem rowsBeyond_sorted (h : rows.Pairwise fun left right => left.key < right.key)
    (bound : Option RowKey) :
    (rowsBeyond rows bound).Pairwise fun left right => left.key < right.key :=
  h.filter _

/-- The last readable row of a window, the rows up to it and the bound it sets. -/
theorem lastIdentity_window {bound : Option RowKey} {identity : MessageIdentity}
    (h : rows.Pairwise fun left right => left.key < right.key)
    (hlast : lastIdentity (window decode accountId limit (rowsBeyond rows bound)) = some identity) :
    ∃ row ∈ rowsBeyond rows bound, row.key ≤ identity.key ∧
      ∀ other ∈ window decode accountId limit (rowsBeyond rows bound),
        other.readIdentity.isSome → other.key ≤ identity.key := by
  rcases lastIdentity_eq_some hlast with ⟨before, row, after, hsplit, hrow, hafter⟩
  have hbegin := window_starts decode accountId limit
    (rowsBeyond rows bound)
  have hsorted := (rowsBeyond_sorted h bound).sublist hbegin.sublist
  have hle := MessageRow.key_le hrow
  refine ⟨row, hbegin.subset (by simp [hsplit]), hle, ?_⟩
  intro other hother hreadable
  rw [hsplit] at hother hsorted
  rcases List.mem_append.mp hother with hbefore | htail
  · rw [List.pairwise_append] at hsorted
    exact (hsorted.2.2 other hbefore row (by simp)).le.trans hle
  · rcases List.mem_cons.mp htail with rfl | hlater
    · exact hle
    · rw [hafter other hlater] at hreadable
      cases hreadable

theorem rowsBeyond_rowsBeyond {bound : Option RowKey} {row : MessageRow} {next : RowKey}
    (hrow : row ∈ rowsBeyond rows bound) (hnext : row.key ≤ next) :
    (rowsBeyond rows bound).filter (fun row => decide (next < row.key)) =
      rowsBeyond rows (some next) := by
  rw [rowsBeyond, rowsBeyond, List.filter_filter]
  apply List.filter_congr
  intro other _
  have hbound := (List.mem_filter.mp hrow).2
  cases bound with
  | none => simp
  | some bound =>
    simp only [Option.all_some, decide_eq_true_eq] at hbound
    by_cases hlater : next < other.key
    · simp [hlater, hbound.trans (hnext.trans_lt hlater)]
    · simp [hlater]

/-- The healthy rows before a page are those it looks at, those it passes over
and those before the next one. -/
theorem healthyRecords_split (h : rows.Pairwise fun left right => left.key < right.key)
    {bound : Option RowKey} {identity : MessageIdentity}
    (hlast : lastIdentity (window decode accountId limit (rowsBeyond rows bound)) = some identity) :
    healthyRecords decode accountId (rowsBeyond rows bound) =
      healthyRecords decode accountId (window decode accountId limit (rowsBeyond rows bound)) ++
        healthyRecords decode accountId
          (passedOver decode accountId limit (rowsBeyond rows bound)) ++
        healthyRecords decode accountId (rowsBeyond rows (some identity.key)) := by
  rcases lastIdentity_window h hlast with ⟨row, hrow, hle, hseen⟩
  have hsorted := rowsBeyond_sorted h bound
  have hlater := rowsBeyond_rowsBeyond hrow hle
  have hbegin := window_starts decode accountId limit
    (rowsBeyond rows bound)
  rw [passedOver, ← hlater]
  generalize window decode accountId limit (rowsBeyond rows bound) = seen at *
  generalize rowsBeyond rows bound = before at *
  rcases hbegin with ⟨behind, rfl⟩
  have hnone : healthyRecords decode accountId
      (seen.filter fun row => decide (identity.key < row.key)) = [] := by
    apply List.filterMap_eq_nil_iff.mpr
    intro other hother
    rcases List.mem_filter.mp hother with ⟨hmem, hbeyond⟩
    by_contra hhealthy
    rcases Option.ne_none_iff_exists'.mp hhealthy with ⟨message, hmessage⟩
    have hreadable : other.readIdentity.isSome := by
      rw [MessageRow.readIdentity_of_healthy hmessage]
      rfl
    exact absurd (of_decide_eq_true hbeyond) (not_lt.mpr (hseen other hmem hreadable))
  have hsplit := filter_append_filter MessageRow.key (List.pairwise_append.mp hsorted).2.1
    identity.key
  have hbehind := congrArg (healthyRecords decode accountId) hsplit
  simp only [healthyRecords, List.filterMap_append] at hnone hbehind ⊢
  simp only [hlast, Option.all_some, List.drop_left]
  rw [List.filter_append, List.filterMap_append, hnone, List.nil_append, List.append_assoc, hbehind]

/-- A page with nothing to start the next one from passes over all it has not looked at. -/
theorem healthyRecords_last {rows : List MessageRow}
    (h : IsFull decode accountId limit (window decode accountId limit rows) →
      lastIdentity (window decode accountId limit rows) = none) :
    healthyRecords decode accountId rows =
      healthyRecords decode accountId (window decode accountId limit rows) ++
        healthyRecords decode accountId (passedOver decode accountId limit rows) := by
  by_cases hfull : IsFull decode accountId limit (window decode accountId limit rows)
  · rcases window_starts decode accountId limit rows with ⟨behind, hrows⟩
    have hdrop : rows.drop (window decode accountId limit rows).length = behind := by
      have hleft : (window decode accountId limit rows ++ behind).drop
          (window decode accountId limit rows).length = behind := List.drop_left
      rw [hrows] at hleft
      exact hleft
    have hpassed : passedOver decode accountId limit rows = behind := by
      simp [passedOver, h hfull, hdrop]
    rw [hpassed, healthyRecords, healthyRecords, healthyRecords, ← List.filterMap_append, hrows]
  · have hrows := window_eq hfull
    have hpassed : passedOver decode accountId limit rows = [] := by
      simp [passedOver, hrows]
    rw [hpassed, hrows]
    simp [healthyRecords]

end Pages

section Search

variable (cursors : ReplicaMessageCursor.Decoder) (decode : List UInt8 → Option CanonicalMessage)
  (store : MessageStore) (filter : ReplicaMessageFilter)

/-- The rows a filter matches, in the order of the query. -/
def matchingRows (accountId : String) : List MessageRow :=
  match fullTextHits store filter with
  | some (.matches hits) => selectRows store accountId filter (some hits) none
  | none => selectRows store accountId filter none none
  | _ => []

def messagePages (requestedLimit : ℕ) (cursor : Option String) :
    Except RestoreError (Page CanonicalMessage String) :=
  (searchReplicaMessages cursors decode store filter cursor requestedLimit).map fun page =>
    ⟨page.items, page.nextCursor⟩

variable {store filter}

theorem isMatch_account {accountId : String} {hits : Option (List (SqlValue × SqlValue))}
    {row : MessageRow} (h : row.isMatch store accountId filter hits = true) :
    row.accountId.key = (SqlValue.text accountId).key := by
  simp only [MessageRow.isMatch, SqlValue.equals, Bool.and_eq_true, beq_iff_eq] at h
  exact h.1.1.2

/-- Matching rows are told apart by their canonical ids. -/
theorem matching_inj {accountId : String} {hits : Option (List (SqlValue × SqlValue))}
    {left right : MessageRow} (hleft : left ∈ store.messages.rows)
    (hright : right ∈ store.messages.rows)
    (hmatch : left.isMatch store accountId filter hits = true)
    (hmatch' : right.isMatch store accountId filter hits = true)
    (h : left.canonicalId.key = right.canonicalId.key) : left = right := by
  apply List.inj_on_of_nodup_map store.messages.primaryKey hleft hright
  rw [isMatch_account hmatch, isMatch_account hmatch', h]

theorem matching_keys (accountId : String) (hits : Option (List (SqlValue × SqlValue))) :
    ((store.messages.rows.filter (·.isMatch store accountId filter hits)).map
      MessageRow.key).Nodup := by
  apply List.Nodup.map_on _ ((List.Nodup.of_map _ store.messages.primaryKey).filter _)
  intro left hleft right hright h
  rcases List.mem_filter.mp hleft with ⟨hleft, hmatch⟩
  rcases List.mem_filter.mp hright with ⟨hright, hmatch'⟩
  simp only [MessageRow.key, EmbeddingLike.apply_eq_iff_eq, Prod.mk.injEq] at h
  exact matching_inj hleft hright hmatch hmatch' h.2.2.2

theorem mem_selectRows {accountId : String} {hits : Option (List (SqlValue × SqlValue))}
    {row : MessageRow} : row ∈ selectRows store accountId filter hits none ↔
      row ∈ store.messages.rows ∧ row.isMatch store accountId filter hits = true := by
  rw [selectRows, mem_orderBy, List.mem_filter]
  simp

theorem selectRows_sorted (accountId : String) (hits : Option (List (SqlValue × SqlValue))) :
    (selectRows store accountId filter hits none).Pairwise
      fun left right => left.key < right.key := by
  rw [selectRows]
  simp only [Option.all_none, Bool.and_true]
  exact orderBy_strict MessageRow.key (matching_keys accountId hits)

/-- Continuing after a cursor drops the rows that do not follow it. -/
theorem selectRows_cursor (accountId : String) (hits : Option (List (SqlValue × SqlValue)))
    (cursor : Option ReplicaMessageCursor) : selectRows store accountId filter hits cursor =
      rowsBeyond (selectRows store accountId filter hits none) (cursor.map (·.key)) := by
  rw [selectRows, selectRows, rowsBeyond]
  simp only [Option.all_none, Bool.and_true]
  rw [← orderBy_filter MessageRow.key (matching_keys accountId hits), List.filter_filter]
  congr 1
  apply List.filter_congr
  intro row hrow
  rcases store.messages.required row hrow with ⟨-, hcanonical, hconversation, hordinal⟩
  cases cursor with
  | none => simp
  | some cursor =>
    have hafter : row.isAfter cursor = decide (cursor.key < row.key) := by
      rw [Bool.eq_iff_iff, MessageRow.isAfter_iff hconversation hordinal hcanonical,
        decide_eq_true_eq]
    simp only [Option.all_some, Option.map_some, hafter, Bool.and_comm]

variable (store filter) in
theorem matchingRows_sorted (accountId : String) :
    (matchingRows store filter accountId).Pairwise fun left right => left.key < right.key := by
  unfold matchingRows
  split
  · exact selectRows_sorted accountId _
  · exact selectRows_sorted accountId _
  · exact List.Pairwise.nil

theorem mem_matchingRows {accountId : String} {row : MessageRow}
    (h : row ∈ matchingRows store filter accountId) : ∃ hits, row ∈ store.messages.rows ∧
      row.isMatch store accountId filter hits = true := by
  unfold matchingRows at h
  split at h
  · exact ⟨_, mem_selectRows.mp h⟩
  · exact ⟨_, mem_selectRows.mp h⟩
  · cases h

/-- One page of the scan, by the rows it looks at. -/
theorem scanPage_spec (decode : List UInt8 → Option CanonicalMessage) (accountId : String)
    {limit : ℕ} (hlimit : 0 < limit) (rows : List MessageRow) :
    let seen := window decode accountId limit rows
    let scan := scanPage decode accountId limit ((rows.take (scanLimit limit)).map some)
    scan.items = seen.filterMap (MessageRow.released decode accountId) ∧
      scan.lastScannedIdentity = lastIdentity seen ∧
      (scan.lastScannedIdentity.isSome →
        (scan.hasMore = true ↔ IsFull decode accountId limit seen)) := by
  have hscan := scanRows_spec decode accountId (rows.take (scanLimit limit))
    ⟨[], 0, none, false, 0⟩ hlimit rfl
  simp only [List.length_nil, Nat.sub_zero, List.nil_append, Option.or_none, Nat.zero_add] at hscan
  rcases hscan with ⟨hitems, hlast, hcount, hmore⟩
  simp only [window, scanPage]
  split_ifs with hfew
  · refine ⟨hitems, hlast, fun _ => ?_⟩
    simp only [true_iff]
    right
    rw [← hcount]
    exact hfew.2.1
  · refine ⟨hitems, hlast, fun hsome => ?_⟩
    rw [hmore, IsFull, hitems, ← hcount]
    constructor
    · exact .inl
    · rintro (hfull | hfull)
      · exact hfull
      · have hle := inspected_released_le decode accountId limit
          (rows.take (scanLimit limit))
        rw [← hitems] at hle ⊢
        by_contra hne
        exact hfew ⟨by omega, hfull, hsome⟩

variable {cursors decode} {checkpoint : MessageStore.Checkpoint} {replicaId : String}

variable (store filter) in
/-- A statement that is not prepared, one that fails, and one that selects the
matching rows behind the cursor. -/
theorem queryRows_eq (accountId : String) (cursor : Option ReplicaMessageCursor) (count : ℕ) :
    queryRows store accountId filter cursor count = none ∧
        matchingRows store filter accountId = [] ∨
      queryRows store accountId filter cursor count = some [none] ∧
        matchingRows store filter accountId = [] ∨
      queryRows store accountId filter cursor count =
        some (((rowsBeyond (matchingRows store filter accountId) (cursor.map (·.key))).take
          count).map some) := by
  cases hhits : fullTextHits store filter with
  | none =>
    right; right
    simp only [queryRows, matchingRows, hhits]
    rw [selectRows_cursor]
  | some result =>
    cases result with
    | unavailable => simp [queryRows, matchingRows, hhits]
    | failed => simp [queryRows, matchingRows, hhits]
    | «matches» hits =>
      right; right
      simp only [queryRows, matchingRows, hhits]
      rw [selectRows_cursor]

/-- The page behind an accepted cursor. -/
theorem messagePages_eq {requestedLimit : ℕ} {cursor : Option String}
    {decoded : Option ReplicaMessageCursor} (hfilter : filter.validate = .ok ())
    (hcheckpoint : store.currentReplicaCheckpoint = .ok checkpoint)
    (hreplica : store.readReplicaId = .ok replicaId)
    (hdecoded : decodeCursor cursors cursor = .ok decoded)
    (haccepted : decoded.toList.forM (acceptCursor checkpoint replicaId filter.sha256) = .ok ())
    (hordinal : decoded.all (fun cursor => cursor.afterConversationOrdinal ≤ maximumI64) = true) :
    messagePages cursors decode store filter requestedLimit cursor =
      let limit := pageLimit requestedLimit
      let seen := window decode checkpoint.accountId limit
        (rowsBeyond (matchingRows store filter checkpoint.accountId) (decoded.map (·.key)))
      .ok ⟨seen.filterMap (MessageRow.released decode checkpoint.accountId),
        if IsFull decode checkpoint.accountId limit seen then
          (lastIdentity seen).map fun identity =>
            (issueCursor checkpoint replicaId filter.sha256 identity).encode
        else none⟩ := by
  have hlimit : 0 < pageLimit requestedLimit := by
    rw [pageLimit]
    omega
  have hscan : 0 < scanLimit (pageLimit requestedLimit) := by
    rw [scanLimit]
    omega
  have hordinal' : require (decoded.all fun cursor => cursor.afterConversationOrdinal ≤ maximumI64)
      "replica count exceeds SQLite range" = .ok () := require_ok.mpr hordinal
  have hnothing : window decode checkpoint.accountId (pageLimit requestedLimit) [] = [] := by
    rw [← List.prefix_nil]
    exact window_starts decode checkpoint.accountId _ []
  simp only [messagePages, searchReplicaMessages, hfilter, hcheckpoint, hreplica, hdecoded, bind,
    Except.bind, haccepted, hordinal']
  rcases queryRows_eq store filter checkpoint.accountId decoded
    (scanLimit (pageLimit requestedLimit)) with ⟨hquery, hrows⟩ | ⟨hquery, hrows⟩ | hquery
  · rw [hquery, hrows]
    simp [rowsBeyond, hnothing, lastIdentity, pure, Except.pure, Except.map]
  · rw [hquery, hrows]
    have hscanned : (scanPage decode checkpoint.accountId (pageLimit requestedLimit) [none]).items =
          [] ∧
        (scanPage decode checkpoint.accountId (pageLimit requestedLimit)
          [none]).lastScannedIdentity = none := by
      simp [scanPage, scanRows]
    simp [rowsBeyond, hnothing, lastIdentity, pure, Except.pure, Except.map, hscanned]
  · rw [hquery]
    rcases scanPage_spec decode checkpoint.accountId hlimit
      (rowsBeyond (matchingRows store filter checkpoint.accountId) (decoded.map (·.key))) with
      ⟨hitems, hlast, hmore⟩
    simp only [pure, Except.pure, Except.map]
    clear hnothing
    generalize scanPage _ _ _ _ = scan at *
    generalize window _ _ _ _ = seen at *
    have hnext : (if scan.hasMore = true then
          scan.lastScannedIdentity.map fun identity =>
            (issueCursor checkpoint replicaId filter.sha256 identity).encode
        else none) =
        if IsFull decode checkpoint.accountId (pageLimit requestedLimit) seen then
          (lastIdentity seen).map fun identity =>
            (issueCursor checkpoint replicaId filter.sha256 identity).encode
        else none := by
      rw [hlast] at hmore ⊢
      cases hidentity : lastIdentity seen with
      | none => simp
      | some identity => simp only [hmore (by rw [hidentity]; rfl)]
    rw [hitems, hnext]

variable (cursors checkpoint replicaId filter) in
/-- A cursor text a search accepts, with the key it starts behind. -/
structure Honoured (cursor : Option String) (bound : Option RowKey) : Prop where
  decoded : ∃ decoded, decodeCursor cursors cursor = .ok decoded ∧
    decoded.toList.forM (acceptCursor checkpoint replicaId filter.sha256) = .ok () ∧
    decoded.all (fun cursor => cursor.afterConversationOrdinal ≤ maximumI64) = true ∧
    decoded.map (·.key) = bound

def cursorBound (cursors : ReplicaMessageCursor.Decoder) (cursor : Option String) :
    Option RowKey :=
  match decodeCursor cursors cursor with
  | .ok decoded => decoded.map (·.key)
  | .error _ => none

theorem Honoured.first : Honoured cursors filter checkpoint replicaId none none :=
  ⟨none, rfl, rfl, rfl, rfl⟩

theorem Honoured.issued {identity : MessageIdentity}
    (h : (identity.conversationOrdinal : ℤ) ≤ maximumI64) :
    Honoured cursors filter checkpoint replicaId
      (some (issueCursor checkpoint replicaId filter.sha256 identity).encode)
      (some identity.key) := by
  refine ⟨some (issueCursor checkpoint replicaId filter.sha256 identity), ?_, ?_, ?_, rfl⟩
  · simp only [decodeCursor, cursors.decode_encode, Except.map]
  · rw [forM_ok]
    intro cursor hcursor
    rw [Option.toList_some, List.mem_singleton] at hcursor
    subst hcursor
    simp [acceptCursor, issueCursor]
  · simpa [issueCursor] using h

theorem Honoured.bound_eq {cursor : Option String} {bound : Option RowKey}
    (h : Honoured cursors filter checkpoint replicaId cursor bound) :
    cursorBound cursors cursor = bound := by
  rcases h.decoded with ⟨decoded, hdecoded, -, -, hbound⟩
  rw [cursorBound, hdecoded]
  exact hbound

/-- Identities come from the table, so their ordinals fit a signed number. -/
theorem lastIdentity_bounded {accountId : String} {limit : ℕ} {bound : Option RowKey}
    {identity : MessageIdentity}
    (h : lastIdentity (window decode accountId limit
      (rowsBeyond (matchingRows store filter accountId) bound)) = some identity) :
    (identity.conversationOrdinal : ℤ) ≤ maximumI64 := by
  rcases lastIdentity_eq_some h with ⟨before, row, after, hsplit, hrow, -⟩
  have hmem : row ∈ matchingRows store filter accountId := by
    have hwindow := (window_starts decode accountId limit _).subset
      (hsplit ▸ List.mem_append_right before (List.mem_cons_self (a := row) (l := after)))
    exact List.mem_of_mem_filter hwindow
  rcases mem_matchingRows hmem with ⟨_, htable, -⟩
  rcases MessageRow.readIdentity_eq_some.mp hrow with ⟨-, -, ⟨ordinal, hordinal, hread⟩, -⟩
  have hbounded := store.messages.bounded row htable ordinal hordinal
  rw [hread, Int.toNat_eq_max]
  exact max_le hbounded (by decide)

section Follow

variable (requestedLimit : ℕ) (hfilter : filter.validate = .ok ())
  (hcheckpoint : store.currentReplicaCheckpoint = .ok checkpoint)
  (hreplica : store.readReplicaId = .ok replicaId)
include hfilter hcheckpoint hreplica

variable (decode) in
theorem messagePages_honoured {cursor : Option String} {bound : Option RowKey}
    (h : Honoured cursors filter checkpoint replicaId cursor bound) :
    messagePages cursors decode store filter requestedLimit cursor =
      let limit := pageLimit requestedLimit
      let seen := window decode checkpoint.accountId limit
        (rowsBeyond (matchingRows store filter checkpoint.accountId) bound)
      .ok ⟨seen.filterMap (MessageRow.released decode checkpoint.accountId),
        if IsFull decode checkpoint.accountId limit seen then
          (lastIdentity seen).map fun identity =>
            (issueCursor checkpoint replicaId filter.sha256 identity).encode
        else none⟩ := by
  rcases h.decoded with ⟨decoded, hdecoded, haccepted, hordinal, rfl⟩
  exact messagePages_eq hfilter hcheckpoint hreplica hdecoded haccepted hordinal

/-- A next cursor is issued for the last readable row of a full page. -/
theorem messagePages_next {cursor : Option String} {bound : Option RowKey}
    (h : Honoured cursors filter checkpoint replicaId cursor bound)
    {items : List CanonicalMessage} {text : String}
    (hpage : messagePages cursors decode store filter requestedLimit cursor =
      .ok ⟨items, some text⟩) :
    let seen := window decode checkpoint.accountId (pageLimit requestedLimit)
      (rowsBeyond (matchingRows store filter checkpoint.accountId) bound)
    ∃ identity, IsFull decode checkpoint.accountId (pageLimit requestedLimit) seen ∧
      lastIdentity seen = some identity ∧
      text = (issueCursor checkpoint replicaId filter.sha256 identity).encode := by
  rw [messagePages_honoured decode requestedLimit hfilter hcheckpoint hreplica h] at hpage
  simp only [Except.ok.injEq, Page.mk.injEq, Option.ite_none_right_eq_some,
    Option.map_eq_some_iff] at hpage
  rcases hpage with ⟨-, hfull, identity, hlast, rfl⟩
  exact ⟨identity, hfull, hlast, rfl⟩

theorem honoured_of_reached {cursor : Option String}
    (h : Reached (messagePages cursors decode store filter requestedLimit) none cursor) :
    ∃ bound, Honoured cursors filter checkpoint replicaId cursor bound ∧
      PageStart decode checkpoint.accountId (pageLimit requestedLimit)
        (matchingRows store filter checkpoint.accountId) bound := by
  induction h with
  | start => exact ⟨none, .first, .first⟩
  | next _ hpage ih =>
    rcases ih with ⟨bound, hhonoured, hstart⟩
    rcases messagePages_next requestedLimit hfilter hcheckpoint hreplica hhonoured hpage with
      ⟨identity, hfull, hlast, rfl⟩
    exact ⟨some identity.key, .issued (lastIdentity_bounded hlast), hstart.next hfull hlast⟩

theorem reached_of_pageStart {bound : Option RowKey}
    (h : PageStart decode checkpoint.accountId (pageLimit requestedLimit)
      (matchingRows store filter checkpoint.accountId) bound) :
    ∃ cursor, Reached (messagePages cursors decode store filter requestedLimit) none cursor ∧
      Honoured cursors filter checkpoint replicaId cursor bound := by
  induction h with
  | first => exact ⟨none, .start, .first⟩
  | @next bound identity _ hfull hlast ih =>
    rcases ih with ⟨cursor, hreached, hhonoured⟩
    have hpage := messagePages_honoured decode requestedLimit hfilter hcheckpoint hreplica
      hhonoured
    simp only [hlast, if_pos hfull, Option.map_some] at hpage
    exact ⟨_, hreached.next hpage, .issued (lastIdentity_bounded hlast)⟩

end Follow

end Search

end GreenBubbles.Replica
