import GreenBubbles.Replica.Pages

/-! # What following the cursors of a message search shows

A reader that follows the cursors is shown exactly the healthy matching rows, in
order, if every page it comes by is sound. A commit takes a revision no cursor
issued before it carries, unless the revisions are used up.
-/
namespace GreenBubbles.Replica

open Library Library.Bytes Library.Sql Library.Paging
open Archive (CanonicalMessage)

section Complete

variable {cursors : ReplicaMessageCursor.Decoder} {decode : List UInt8 → Option CanonicalMessage}
  {store : MessageStore} {filter : ReplicaMessageFilter} {checkpoint : MessageStore.Checkpoint}
  {replicaId : String} {accountId : String}

theorem MessageRow.canonicalId_of_released {row : MessageRow} {message : CanonicalMessage}
    (h : row.released decode accountId = some message) :
    row.canonicalId = .text message.canonicalId := by
  rcases Option.bind_eq_some_iff.mp h with ⟨identity, hidentity, hrecord⟩
  rcases readRecord_eq_some.mp hrecord with ⟨-, -, -, -, hcanonical, -⟩
  rw [(readIdentity_eq_some.mp hidentity).2.2.2, hcanonical]

theorem matchingRows_inj {left right : MessageRow} (hleft : left ∈ matchingRows store filter accountId)
    (hright : right ∈ matchingRows store filter accountId)
    (h : left.canonicalId = right.canonicalId) : left = right := by
  rcases mem_matchingRows hleft with ⟨_, hleft, hmatch⟩
  rcases mem_matchingRows hright with ⟨_, hright, hmatch'⟩
  apply List.inj_on_of_nodup_map store.messages.primaryKey hleft hright
  rw [isMatch_account hmatch, isMatch_account hmatch', h]

/-- A message that is released and belongs to a healthy row comes from that row. -/
theorem healthyRecord_of_mem {row : MessageRow} {message : CanonicalMessage}
    (hrow : row ∈ matchingRows store filter accountId)
    (hreleased : row.released decode accountId = some message)
    (hmem : message ∈ healthyRecords decode accountId (matchingRows store filter accountId)) :
    row.healthyRecord decode accountId = some message := by
  rcases List.mem_filterMap.mp hmem with ⟨other, hother, hhealthy⟩
  have hcanonical := (MessageRow.healthyRecord_eq_some.mp hhealthy).2.2.2.2.1
  have hsame : row = other := by
    apply matchingRows_inj hrow hother
    rw [row.canonicalId_of_released hreleased, hcanonical]
  rw [hsame, hhealthy]

theorem window_subset {limit : ℕ} {bound : Option RowKey} {row : MessageRow}
    (h : row ∈ window decode accountId limit
      (rowsBeyond (matchingRows store filter accountId) bound)) :
    row ∈ matchingRows store filter accountId :=
  List.mem_of_mem_filter ((window_starts decode accountId limit _).subset h)

/-- A page that shows nothing but messages of healthy rows shows those it looks at. -/
theorem released_window {limit : ℕ} {bound : Option RowKey}
    (h : ∀ message ∈ (window decode accountId limit
        (rowsBeyond (matchingRows store filter accountId) bound)).filterMap
          (MessageRow.released decode accountId),
      message ∈ healthyRecords decode accountId (matchingRows store filter accountId)) :
    (window decode accountId limit (rowsBeyond (matchingRows store filter accountId) bound)).filterMap
        (MessageRow.released decode accountId) =
      healthyRecords decode accountId (window decode accountId limit
        (rowsBeyond (matchingRows store filter accountId) bound)) := by
  apply List.filterMap_congr
  intro row hrow
  cases hreleased : row.released decode accountId with
  | none =>
    symm
    by_contra hhealthy
    rcases Option.ne_none_iff_exists'.mp hhealthy with ⟨message, hmessage⟩
    rw [row.released_of_healthy hmessage] at hreleased
    cases hreleased
  | some message =>
    symm
    apply healthyRecord_of_mem (window_subset hrow) hreleased
    exact h message (List.mem_filterMap.mpr ⟨row, hrow, hreleased⟩)

section Follow

variable (requestedLimit : ℕ) (hfilter : filter.validate = .ok ())
  (hcheckpoint : store.currentReplicaCheckpoint = .ok checkpoint)
  (hreplica : store.readReplicaId = .ok replicaId)
include hfilter hcheckpoint hreplica

/-- The healthy rows before a cursor are those of its page, those the page passes
over and those before the next cursor, which has fewer rows before it. -/
theorem messagePages_accounts {cursor : Option String}
    (h : Reached (messagePages cursors decode store filter requestedLimit) none cursor) :
    let before := fun cursor => rowsBeyond (matchingRows store filter checkpoint.accountId)
      (cursorBound cursors cursor)
    let limit := pageLimit requestedLimit
    Accounts (messagePages cursors decode store filter requestedLimit)
      (fun cursor => healthyRecords decode checkpoint.accountId (before cursor))
      (fun cursor => healthyRecords decode checkpoint.accountId
        (window decode checkpoint.accountId limit (before cursor)))
      (fun cursor => healthyRecords decode checkpoint.accountId
        (passedOver decode checkpoint.accountId limit (before cursor)))
      (fun cursor => (before cursor).length) cursor := by
  rcases honoured_of_reached requestedLimit hfilter hcheckpoint hreplica h with
    ⟨bound, hhonoured, -⟩
  have hpage := messagePages_honoured decode requestedLimit hfilter hcheckpoint hreplica hhonoured
  have hbound := hhonoured.bound_eq
  have hsorted := matchingRows_sorted store filter checkpoint.accountId
  constructor
  · exact ⟨_, hpage⟩
  · intro items hlast
    rw [hpage] at hlast
    simp only [Except.ok.injEq, Page.mk.injEq, ite_eq_right_iff, Option.map_eq_none_iff] at hlast
    simp only [hbound]
    exact healthyRecords_last hlast.2
  · intro items next hmore
    rcases messagePages_next requestedLimit hfilter hcheckpoint hreplica hhonoured hmore with
      ⟨identity, -, hlast, rfl⟩
    have hissued : Honoured cursors filter checkpoint replicaId
        (some (issueCursor checkpoint replicaId filter.sha256 identity).encode)
        (some identity.key) := .issued (lastIdentity_bounded hlast)
    simp only [hbound, hissued.bound_eq]
    refine ⟨healthyRecords_split hsorted hlast, ?_⟩
    rcases lastIdentity_window hsorted hlast with ⟨row, hrow, hle, -⟩
    rw [← rowsBeyond_rowsBeyond hrow hle]
    apply List.length_filter_lt_length_iff_exists.mpr
    exact ⟨row, hrow, by simpa using hle⟩

/-- Following the cursors of a search shows every healthy matching row exactly
once and in order if and only if every page is sound where it starts. -/
theorem messagePages_collected_iff :
    Collected (messagePages cursors decode store filter requestedLimit) none
        (healthyRecords decode checkpoint.accountId
          (matchingRows store filter checkpoint.accountId)) ↔
      ∀ bound, PageStart decode checkpoint.accountId (pageLimit requestedLimit)
          (matchingRows store filter checkpoint.accountId) bound →
        PageSound decode checkpoint.accountId (pageLimit requestedLimit)
          (rowsBeyond (matchingRows store filter checkpoint.accountId) bound) := by
  have hall : rowsBeyond (matchingRows store filter checkpoint.accountId)
      (cursorBound cursors none) = matchingRows store filter checkpoint.accountId := by
    simp [cursorBound, decodeCursor, rowsBeyond]
  have haccounts := fun cursor (h : Reached (messagePages cursors decode store filter
      requestedLimit) none cursor) =>
    messagePages_accounts requestedLimit hfilter hcheckpoint hreplica h
  have hpages := collected_iff haccounts
  simp only [hall] at hpages
  rw [hpages]
  · constructor
    · intro h bound hstart
      have hreach : ∃ cursor, Reached (messagePages cursors decode store filter requestedLimit) none
          cursor ∧ Honoured cursors filter checkpoint replicaId cursor bound :=
        reached_of_pageStart requestedLimit hfilter hcheckpoint hreplica hstart
      rcases hreach with ⟨cursor, hreached, hhonoured⟩
      rcases h cursor _ hreached (messagePages_honoured decode requestedLimit hfilter hcheckpoint
        hreplica hhonoured) with ⟨hitems, hlost⟩
      rw [hhonoured.bound_eq] at hlost
      constructor
      · intro row hrow hsome
        rcases Option.isSome_iff_exists.mp hsome with ⟨message, hreleased⟩
        rw [healthyRecord_of_mem (window_subset hrow) hreleased
          (hitems message (List.mem_filterMap.mpr ⟨row, hrow, hreleased⟩))]
        rfl
      · exact List.filterMap_eq_nil_iff.mp hlost
    · intro h cursor result hreached hpage
      rcases honoured_of_reached requestedLimit hfilter hcheckpoint hreplica hreached with
        ⟨bound, hhonoured, hstart⟩
      have hsound := h bound hstart
      rw [messagePages_honoured decode requestedLimit hfilter hcheckpoint hreplica hhonoured]
        at hpage
      cases hpage
      rw [hhonoured.bound_eq]
      refine ⟨?_, List.filterMap_eq_nil_iff.mpr hsound.complete⟩
      intro message hmessage
      rcases List.mem_filterMap.mp hmessage with ⟨row, hrow, hreleased⟩
      rcases Option.isSome_iff_exists.mp (hsound.genuine row hrow (by rw [hreleased]; rfl)) with
        ⟨stored, hhealthy⟩
      have hsame := row.released_of_healthy hhealthy
      rw [hreleased] at hsame
      cases hsame
      exact List.mem_filterMap.mpr ⟨row, window_subset hrow, hhealthy⟩
  · intro cursor result hreached hpage hmem
    rcases honoured_of_reached requestedLimit hfilter hcheckpoint hreplica hreached with
      ⟨bound, hhonoured, -⟩
    rw [messagePages_honoured decode requestedLimit hfilter hcheckpoint hreplica hhonoured] at hpage
    cases hpage
    rw [hhonoured.bound_eq]
    exact released_window hmem

end Follow

end Complete

section Stale

theorem parseU128_toString {n : ℕ} (h : n < 2 ^ 128) : parseU128 (toString n) = some n := by
  have htext : (toString n).toList = Nat.toDigits 10 n := Nat.toList_repr
  have hdigits : ∀ c ∈ Nat.toDigits 10 n, c.isDigit = true :=
    fun c hc => Nat.isDigit_of_mem_toDigits (by decide) (by decide) hc
  rw [parseU128, htext]
  split
  · next rest hplus =>
    have hsign := hdigits '+' (by rw [hplus]; exact List.mem_cons_self)
    exact absurd hsign (by decide)
  · have hgood : ¬ (Nat.toDigits 10 n = [] ∨
        (Nat.toDigits 10 n).any (fun c => !c.isDigit) = true) := by
      simp only [Nat.toDigits_ne_nil, List.any_eq_true, Bool.not_eq_true', false_or, not_exists,
        not_and, Bool.not_eq_false]
      exact hdigits
    simp only [if_neg hgood, Nat.ofDigitChars_ten_toDigits, if_pos h]

theorem parseU128_lt {text : String} {n : ℕ} (h : parseU128 text = some n) : n < 2 ^ 128 := by
  simp only [parseU128] at h
  split_ifs at h with _ hbound
  cases h
  exact hbound

/-- A committed synchronization of the replica. What it does to the tables is left open. -/
structure Synchronizes (now : ℕ) (fingerprint : String) (before after : MessageStore) : Prop where
  clock : now < 2 ^ 128
  committed : ∃ identity revision, before.identity = some identity ∧
    nextCheckpointRevision before now = .ok revision ∧
    after.identity = some { identity with
      currentSourceFingerprint := some fingerprint
      updatedAtUnixNanoseconds := toString revision }

def Synchronized (before after : MessageStore) : Prop :=
  ∃ now fingerprint, Synchronizes now fingerprint before after

/-- The revision of a replica, if its text is one. -/
def MessageStore.revision (store : MessageStore) : Option ℕ :=
  store.identity.bind fun identity => parseU128 identity.updatedAtUnixNanoseconds

theorem MessageStore.revision_eq {store : MessageStore} {identity : ReplicaIdentity}
    (h : store.identity = some identity) :
    store.revision = parseU128 identity.updatedAtUnixNanoseconds := by
  rw [revision, h, Option.bind_some]

def lastRevision : ℕ := 2 ^ 128 - 1

theorem Synchronized.later {before after : MessageStore} (h : Synchronized before after) :
    ∃ identity previous revision, before.revision = some previous ∧
      after.identity = some identity ∧ identity.updatedAtUnixNanoseconds = toString revision ∧
      after.revision = some revision ∧ min (previous + 1) lastRevision ≤ revision := by
  rcases h with ⟨now, fingerprint, hclock, identity, revision, hbefore, hnext, hafter⟩
  simp only [nextCheckpointRevision, hbefore] at hnext
  cases hparse : parseU128 identity.updatedAtUnixNanoseconds with
  | none => simp [hparse] at hnext
  | some previous =>
    simp only [hparse, Except.ok.injEq] at hnext
    have hbound : revision < 2 ^ 128 := by
      rw [← hnext, saturatingAdd]
      omega
    refine ⟨_, previous, revision, ?_, hafter, rfl, ?_, ?_⟩
    · rw [MessageStore.revision_eq hbefore, hparse]
    · rw [MessageStore.revision_eq hafter, parseU128_toString hbound]
    · rw [← hnext, saturatingAdd, lastRevision]
      exact le_max_right now _

/-- Commits only raise the revision, until it is the last one there is. -/
theorem transGen_synchronized {before after : MessageStore}
    (h : Relation.TransGen Synchronized before after) :
    ∃ identity previous revision, before.revision = some previous ∧
      after.identity = some identity ∧ identity.updatedAtUnixNanoseconds = toString revision ∧
      after.revision = some revision ∧ min (previous + 1) lastRevision ≤ revision := by
  induction h with
  | single hstep => exact hstep.later
  | tail _ hstep ih =>
    rcases ih with ⟨_, previous, middle, hbefore, -, -, hmiddle, hless⟩
    rcases hstep.later with ⟨identity, previous', revision, hmiddle', hafter, htext, hrevision,
      hless'⟩
    rw [hmiddle] at hmiddle'
    cases hmiddle'
    exact ⟨identity, previous, revision, hbefore, hafter, htext, hrevision, by omega⟩

theorem currentReplicaCheckpoint_ok {store : MessageStore} {checkpoint : MessageStore.Checkpoint}
    (h : store.currentReplicaCheckpoint = .ok checkpoint) :
    ∃ identity previous, store.identity = some identity ∧ store.revision = some previous ∧
      identity.updatedAtUnixNanoseconds = checkpoint.revision ∧
      identity.currentSourceFingerprint = some checkpoint.sourceFingerprint := by
  rw [MessageStore.currentReplicaCheckpoint] at h
  cases hidentity : store.identity with
  | none => simp [hidentity] at h
  | some identity =>
    simp only [hidentity] at h
    split at h
    · cases h
    · next fingerprint hfingerprint =>
      split_ifs at h with hinvalid
      cases h
      cases hparse : parseU128 identity.updatedAtUnixNanoseconds with
      | none => simp [hparse] at hinvalid
      | some previous =>
        refine ⟨identity, previous, rfl, ?_, rfl, (Option.filter_eq_some_iff.mp hfingerprint).1⟩
        rw [MessageStore.revision_eq hidentity, hparse]

/-- A text that is the revision before and after a commit is the last one. -/
theorem checkpoint_revision_ne {before after : MessageStore}
    {checkpoint checkpoint' : MessageStore.Checkpoint}
    (h : Relation.TransGen Synchronized before after)
    (hbefore : before.currentReplicaCheckpoint = .ok checkpoint)
    (hafter : after.currentReplicaCheckpoint = .ok checkpoint')
    (hrevision : checkpoint.revision ≠ toString lastRevision) :
    checkpoint'.revision ≠ checkpoint.revision := by
  rcases transGen_synchronized h with
    ⟨identity', previous, revision, hprevious, hidentity', htext', hparse', hless⟩
  rcases currentReplicaCheckpoint_ok hbefore with ⟨identity, _, hidentity, -, htext, -⟩
  rcases currentReplicaCheckpoint_ok hafter with ⟨_, _, hsame, -, htext'', -⟩
  rw [hidentity'] at hsame
  cases hsame
  intro hequal
  have hstay : previous = revision := by
    rw [MessageStore.revision_eq hidentity, htext, ← hequal, ← htext''] at hprevious
    rw [MessageStore.revision_eq hidentity', hprevious] at hparse'
    exact Option.some.inj hparse'
  have hbound := parseU128_lt (MessageStore.revision_eq hidentity' ▸ hparse')
  have hlast : revision = lastRevision := by
    rw [lastRevision] at hless ⊢
    omega
  rw [← hequal, ← htext'', htext', hlast] at hrevision
  exact hrevision rfl

/-- With the last revision a commit leaves a replica as it was. -/
theorem synchronized_self {store : MessageStore} {checkpoint : MessageStore.Checkpoint}
    (h : store.currentReplicaCheckpoint = .ok checkpoint)
    (hlast : checkpoint.revision = toString lastRevision) : Synchronized store store := by
  rcases currentReplicaCheckpoint_ok h with ⟨identity, _, hidentity, -, htext, hfingerprint⟩
  rw [hlast] at htext
  refine ⟨0, checkpoint.sourceFingerprint, by decide, identity, lastRevision, hidentity, ?_, ?_⟩
  · simp only [nextCheckpointRevision, hidentity, htext, parseU128_toString (by decide :
      lastRevision < 2 ^ 128)]
    rfl
  · rw [hidentity, ← hfingerprint, ← htext]

end Stale

section LosesNothing

variable (cursors : ReplicaMessageCursor.Decoder) (decode : List UInt8 → Option CanonicalMessage)
  (store : MessageStore) (filter : ReplicaMessageFilter) (accountId : String) (requestedLimit : ℕ)

/-- Following the cursors of a search shows every healthy row it matches, once
and in order, and no cursor on the way is honoured after a commit. -/
structure LosesNothing : Prop where
  collected : Collected (messagePages cursors decode store filter requestedLimit) none
    (healthyRecords decode accountId (matchingRows store filter accountId))
  ordered : (healthyRecords decode accountId (matchingRows store filter accountId)).Pairwise
    fun left right => (MessageIdentity.ofRecord left).key < (MessageIdentity.ofRecord right).key
  stale : ∀ text later,
    Reached (messagePages cursors decode store filter requestedLimit) none (some text) →
    Relation.TransGen Synchronized store later → ∀ laterFilter laterLimit, ∃ error,
      searchReplicaMessages cursors decode later laterFilter (some text) laterLimit = .error error

variable {cursors decode store filter accountId}

theorem MessageRow.key_of_healthy {row : MessageRow} {message : CanonicalMessage}
    (h : row.healthyRecord decode accountId = some message) :
    row.key = (MessageIdentity.ofRecord message).key := by
  rcases healthyRecord_eq_some.mp h with
    ⟨-, -, -, -, hcanonical, hconversation, hordinal, hcreated⟩
  rw [key, sortTime, hcanonical, hconversation, hordinal, hcreated]
  cases hnull : message.createdAtUnix <;>
    simp [MessageIdentity.key, MessageIdentity.ofRecord, hnull, SqlValue.ofOption,
      SqlValue.coalesce]

theorem healthyRecords_ordered :
    (healthyRecords decode accountId (matchingRows store filter accountId)).Pairwise
      fun left right =>
        (MessageIdentity.ofRecord left).key < (MessageIdentity.ofRecord right).key := by
  rw [healthyRecords, List.pairwise_filterMap]
  apply (matchingRows_sorted store filter accountId).imp
  intro left right hless message hmessage message' hmessage'
  rw [← left.key_of_healthy hmessage, ← right.key_of_healthy hmessage']
  exact hless

variable {checkpoint : MessageStore.Checkpoint} {replicaId : String}

theorem decodeCursor_some {text : String} {decoded : Option ReplicaMessageCursor}
    (h : decodeCursor cursors (some text) = .ok decoded) : ∃ cursor, decoded = some cursor := by
  rw [decodeCursor] at h
  cases hdecode : cursors.decode text with
  | error error =>
    rw [hdecode] at h
    cases h
  | ok cursor =>
    rw [hdecode] at h
    cases h
    exact ⟨cursor, rfl⟩

/-- A cursor is refused by every replica with another revision. -/
theorem stale_refused {text : String} {bound : Option RowKey} {later : MessageStore}
    (hhonoured : Honoured cursors filter checkpoint replicaId (some text) bound)
    (h : ∀ checkpoint', later.currentReplicaCheckpoint = .ok checkpoint' →
      checkpoint'.revision ≠ checkpoint.revision)
    (laterFilter : ReplicaMessageFilter) (laterLimit : ℕ) : ∃ error,
      searchReplicaMessages cursors decode later laterFilter (some text) laterLimit =
        .error error := by
  cases hresult : searchReplicaMessages cursors decode later laterFilter (some text) laterLimit with
  | error error => exact ⟨error, rfl⟩
  | ok page =>
    exfalso
    rcases hhonoured.decoded with ⟨decoded, hdecoded, haccepted, -⟩
    rw [searchReplicaMessages, check_bind_ok, bind_ok] at hresult
    rcases hresult with ⟨-, checkpoint', hcheckpoint, hresult⟩
    rw [bind_ok] at hresult
    rcases hresult with ⟨replicaId', -, hresult⟩
    rw [hdecoded, bind_ok] at hresult
    rcases hresult with ⟨_, hsame, hresult⟩
    cases hsame
    rw [check_bind_ok] at hresult
    rcases hresult with ⟨haccepted', -⟩
    rcases decodeCursor_some hdecoded with ⟨cursor, rfl⟩
    rw [forM_ok] at haccepted haccepted'
    have hnow := haccepted cursor (by simp)
    have hlater := haccepted' cursor (by simp)
    simp only [acceptCursor, require_ok, Bool.and_eq_true, beq_iff_eq] at hnow hlater
    exact h checkpoint' hcheckpoint (hlater.1.2.symm.trans hnow.1.2)

/-- Pages lose nothing exactly when each shows healthy rows only and passes over
none, and no page follows another one under the last revision there is. -/
theorem losesNothing_iff (hfilter : filter.validate = .ok ())
    (hcheckpoint : store.currentReplicaCheckpoint = .ok checkpoint)
    (hreplica : store.readReplicaId = .ok replicaId) :
    LosesNothing cursors decode store filter checkpoint.accountId requestedLimit ↔
      (∀ bound, PageStart decode checkpoint.accountId (pageLimit requestedLimit)
          (matchingRows store filter checkpoint.accountId) bound →
        PageSound decode checkpoint.accountId (pageLimit requestedLimit)
          (rowsBeyond (matchingRows store filter checkpoint.accountId) bound)) ∧
      (checkpoint.revision = toString lastRevision →
        ∀ bound, PageStart decode checkpoint.accountId (pageLimit requestedLimit)
          (matchingRows store filter checkpoint.accountId) bound → bound = none) := by
  constructor
  · rintro ⟨hcollected, -, hstale⟩
    refine ⟨(messagePages_collected_iff requestedLimit hfilter hcheckpoint hreplica).mp hcollected,
      ?_⟩
    intro hlast bound hstart
    have hreach : ∃ cursor, Reached (messagePages cursors decode store filter requestedLimit) none
        cursor ∧ Honoured cursors filter checkpoint replicaId cursor bound :=
      reached_of_pageStart requestedLimit hfilter hcheckpoint hreplica hstart
    rcases hreach with ⟨cursor, hreached, hhonoured⟩
    cases cursor with
    | none => exact hhonoured.bound_eq.symm
    | some text =>
      exfalso
      have hsame : Relation.TransGen Synchronized store store :=
        .single (synchronized_self hcheckpoint hlast)
      rcases hstale text store hreached hsame filter requestedLimit with ⟨error, hrefused⟩
      have hpage := messagePages_honoured decode requestedLimit hfilter hcheckpoint hreplica
        hhonoured
      rw [messagePages, hrefused] at hpage
      cases hpage
  · rintro ⟨hsound, hlast⟩
    refine ⟨(messagePages_collected_iff requestedLimit hfilter hcheckpoint hreplica).mpr hsound,
      healthyRecords_ordered, ?_⟩
    intro text later hreached hlater laterFilter laterLimit
    rcases honoured_of_reached requestedLimit hfilter hcheckpoint hreplica hreached with
      ⟨bound, hhonoured, hstart⟩
    apply stale_refused hhonoured
    intro checkpoint' hcheckpoint'
    apply checkpoint_revision_ne hlater hcheckpoint hcheckpoint'
    intro hrevision
    rcases hhonoured.decoded with ⟨decoded, hdecoded, -, -, hbound⟩
    rcases decodeCursor_some hdecoded with ⟨cursor, rfl⟩
    rw [hlast hrevision bound hstart] at hbound
    cases hbound

end LosesNothing

section Sample

/-- A reader of cursor texts, by the one cursor each of them stands for. -/
noncomputable def ReplicaMessageCursor.inverse : Decoder where
  decode text :=
    open Classical in
    if h : ∃ cursor, encode cursor = text then .ok h.choose
    else .error (.integrity "message cursor is not valid base64url")
  decode_encode cursor := by
    have h : ∃ other, encode other = encode cursor := ⟨cursor, rfl⟩
    rw [dif_pos h, encode_injective h.choose_spec]

def sampleMessage (canonicalId : String) : CanonicalMessage where
  canonicalId
  accountId := "account"
  sourceSetId := "set"
  sourceLogicalPath := "message.db"
  sourceTableId := "table"
  sourceTableName := "Chat"
  sourceRowId := 1
  conversationId := "chat"
  conversationSourceIdentifierBase64 := "Y2hhdA=="
  senderId := none
  senderSourceIdentifierBase64 := none
  localId := none
  serverId := none
  sortSequence := none
  createdAtUnix := none
  conversationOrdinal := 0
  orderingBasis := .hybridSourceFallback
  rawType := none
  logicalType := none
  subType := none
  status := none
  direction := .unknown
  directionEvidence := .unresolved
  contentBase64 := none
  packedInfoBase64 := none
  compressionType := none
  rawColumns := ∅
  typedPayload := .unknown "missing"
  semanticDecodeState := .missingType
  semanticGapReason := none
  relationships := []
  artifactReferences := []

/-- The record of a sample message as the replica stores it. -/
def sampleRecord (canonicalId : String) : Json :=
  .obj
    [("canonicalId", .str canonicalId), ("accountId", .str "account"),
     ("sourceSetId", .str "set"), ("sourceLogicalPath", .str "message.db"),
     ("sourceTableId", .str "table"), ("sourceTableName", .str "Chat"),
     ("sourceRowId", .int 1), ("conversationId", .str "chat"),
     ("conversationSourceIdentifierBase64", .str "Y2hhdA=="), ("senderId", .null),
     ("senderSourceIdentifierBase64", .null), ("localId", .null), ("serverId", .null),
     ("sortSequence", .null), ("createdAtUnix", .null), ("conversationOrdinal", .int 0),
     ("orderingBasis", .str "hybridSourceFallback"), ("rawType", .null), ("logicalType", .null),
     ("subType", .null), ("status", .null), ("direction", .str "unknown"),
     ("directionEvidence", .str "unresolved"), ("contentBase64", .null),
     ("packedInfoBase64", .null), ("compressionType", .null), ("rawColumns", .obj []),
     ("typedPayload", .obj [("kind", .str "unknown"),
       ("value", .obj [("reason", .str "missing")])]),
     ("semanticDecodeState", .str "missingType"), ("semanticGapReason", .null),
     ("relationships", .arr []), ("artifactReferences", .arr [])]

def sampleBytes (canonicalId : String) : List UInt8 := utf8 (sampleRecord canonicalId).toText

/-- Two records are read, anything else is malformed. -/
def sampleDecode (bytes : List UInt8) : Option CanonicalMessage :=
  if bytes = sampleBytes "early" then some (sampleMessage "early")
  else if bytes = sampleBytes "late" then some (sampleMessage "late")
  else none

def sampleRow (canonicalId : String) (ordinal : ℤ) : MessageRow where
  accountId := .text "account"
  canonicalId := .text canonicalId
  conversationId := .text "chat"
  senderId := .null
  conversationOrdinal := .integer ordinal
  createdAtUnix := .null
  direction := .text "unknown"
  logicalType := .null
  subType := .null
  recordJson := .blob (sampleBytes canonicalId)

/-- A row with a negative ordinal, and a healthy one it is read like. -/
def sampleStore : MessageStore where
  identity := some ⟨"account", some "fingerprint", "1"⟩
  replicaId := String.ofList (List.replicate 32 '0')
  messages :=
    { rows := [sampleRow "late" (-1), sampleRow "early" 0]
      required := by simp [sampleRow]
      bounded := by simp [sampleRow, maximumI64]
      primaryKey := by simp [sampleRow, SqlValue.key_text_inj]
      ordinals := by simp [sampleRow, SqlValue.key_integer_inj] }
  relationships := []
  artifactLinks := []
  fullText _ := .unavailable

def sampleFilter : ReplicaMessageFilter :=
  ⟨none, none, none, none, none, none, none, none, none, none⟩

theorem sampleBytes_inj {left right : String} (h : sampleBytes left = sampleBytes right) :
    left = right := by
  have hrecord := Json.toText_inj (utf8_injective h)
  simpa [sampleRecord] using hrecord

theorem sampleDecode_early : sampleDecode (sampleBytes "early") = some (sampleMessage "early") :=
  if_pos rfl

theorem sampleDecode_late : sampleDecode (sampleBytes "late") = some (sampleMessage "late") := by
  have hdistinct : sampleBytes "late" ≠ sampleBytes "early" :=
    fun h => absurd (sampleBytes_inj h) (by decide)
  rw [sampleDecode, if_neg hdistinct, if_pos rfl]

theorem sampleRow_lt : (sampleRow "late" (-1)).key < (sampleRow "early" 0).key := by
  rw [MessageRow.key, MessageRow.key, four_lt_iff]
  exact .inl (.inr ⟨⟨rfl, rfl⟩, SqlValue.key_integer_lt.mpr (by decide)⟩)

theorem sampleRows : matchingRows sampleStore sampleFilter "account" =
    [sampleRow "late" (-1), sampleRow "early" 0] := by
  have hmatch : ∀ canonicalId ordinal, (sampleRow canonicalId ordinal).isMatch sampleStore
      "account" sampleFilter none = true := by
    intro canonicalId ordinal
    simp [MessageRow.isMatch, MessageRow.matchesColumns, MessageRow.matchesLinks, sampleFilter,
      sampleRow, SqlValue.equals]
  have hselected : sampleStore.messages.rows.filter (fun row =>
      row.isMatch sampleStore "account" sampleFilter none &&
        (none : Option ReplicaMessageCursor).all fun cursor => row.isAfter cursor) =
      [sampleRow "late" (-1), sampleRow "early" 0] := by
    simp only [sampleStore, Option.all_none, Bool.and_true] at hmatch ⊢
    rw [List.filter_cons_of_pos (hmatch "late" (-1)), List.filter_cons_of_pos (hmatch "early" 0),
      List.filter_nil]
  change selectRows sampleStore "account" sampleFilter none none = _
  rw [selectRows, hselected, orderBy, List.insertionSort_cons, List.insertionSort_cons,
    List.insertionSort_nil, List.orderedInsert_nil, List.orderedInsert_cons,
    if_pos sampleRow_lt.le]

def sampleCheckpoint : MessageStore.Checkpoint := ⟨"account", "fingerprint", "1"⟩

theorem sampleFilter_validate : sampleFilter.validate = .ok () := rfl

theorem sampleStore_checkpoint :
    sampleStore.currentReplicaCheckpoint = .ok sampleCheckpoint := by
  decide +kernel

theorem sampleStore_replicaId :
    sampleStore.readReplicaId = .ok (String.ofList (List.replicate 32 '0')) := by
  decide +kernel

/-- A row with a negative ordinal is shown, and the cursor made from it stands
behind a healthy row that comes after it. -/
theorem healthy_row_passed_over : ¬ LosesNothing ReplicaMessageCursor.inverse sampleDecode
    sampleStore sampleFilter "account" 1 := by
  intro h
  have hsound := (messagePages_collected_iff 1 sampleFilter_validate sampleStore_checkpoint
    sampleStore_replicaId).mp h.collected none .first
  have hrows : rowsBeyond (matchingRows sampleStore sampleFilter "account") none =
      [sampleRow "late" (-1), sampleRow "early" 0] := by
    rw [sampleRows]
    rfl
  have hidentity : (sampleRow "late" (-1)).readIdentity = some ⟨none, "chat", 0, "late"⟩ := rfl
  have hreleased : (sampleRow "late" (-1)).released sampleDecode "account" =
      some (sampleMessage "late") := by
    rw [MessageRow.released, hidentity, Option.bind_some, MessageRow.readRecord_eq_some]
    exact ⟨⟨_, rfl, sampleDecode_late⟩, rfl, by decide, by decide, rfl, rfl, rfl, rfl⟩
  have hhealthy : (sampleRow "early" 0).healthyRecord sampleDecode "account" =
      some (sampleMessage "early") := by
    rw [MessageRow.healthyRecord_eq_some]
    exact ⟨⟨_, rfl, sampleDecode_early⟩, rfl, by decide, by decide, rfl, rfl, rfl, rfl⟩
  have hwindow : window sampleDecode "account" 1 [sampleRow "late" (-1), sampleRow "early" 0] =
      [sampleRow "late" (-1)] := by
    rw [window, List.take_of_length_le (by decide), inspected, hreleased]
    rfl
  have hpassed : sampleRow "early" 0 ∈
      passedOver sampleDecode "account" 1 [sampleRow "late" (-1), sampleRow "early" 0] := by
    have hlast : lastIdentity [sampleRow "late" (-1)] = some ⟨none, "chat", 0, "late"⟩ := by
      rw [lastIdentity, List.filterMap_cons, hidentity]
      rfl
    rw [passedOver, hwindow, hlast]
    apply List.mem_filter.mpr
    refine ⟨List.mem_cons_self, ?_⟩
    rw [Option.all_some, decide_eq_true_eq]
    apply le_of_lt
    rw [MessageRow.key, MessageIdentity.key, four_lt_iff]
    exact .inr ⟨⟨⟨rfl, rfl⟩, rfl⟩, by decide +kernel⟩
  change PageSound sampleDecode "account" 1
    (rowsBeyond (matchingRows sampleStore sampleFilter "account") none) at hsound
  rw [hrows] at hsound
  have hnone := hsound.complete _ hpassed
  rw [hhealthy] at hnone
  cases hnone

/-- The pages of the sample, told by where they start. -/
theorem sample_losesNothing_iff :
    LosesNothing ReplicaMessageCursor.inverse sampleDecode sampleStore sampleFilter "account" 1 ↔
      (∀ bound, PageStart sampleDecode "account" 1
          (matchingRows sampleStore sampleFilter "account") bound →
        PageSound sampleDecode "account" 1
          (rowsBeyond (matchingRows sampleStore sampleFilter "account") bound)) ∧
      ("1" = toString lastRevision →
        ∀ bound, PageStart sampleDecode "account" 1
          (matchingRows sampleStore sampleFilter "account") bound → bound = none) :=
  losesNothing_iff 1 sampleFilter_validate sampleStore_checkpoint sampleStore_replicaId

end Sample

end GreenBubbles.Replica
