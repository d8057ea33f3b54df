import GreenBubbles.Library.Upserts
import GreenBubbles.Sync.Reconcile

/-! # One record at a time

What a bootstrap and a synchronization do with one text of a ledger: the record
it stands for is written with everything that goes with it, or is already there.
-/
namespace GreenBubbles.Sync

open Std Archive Library Upserts

/-- The row a text is stored as, under the identity of its record. -/
def LedgerReader.rowOf (reader : LedgerReader) (kind : EntityKind) (text : String) :
    Option (String × RecordRow kind) :=
  match reader.read kind text with
  | .ok record => (reader.row kind record text).toOption.map (kind.identifier record, ·)
  | .error _ => none

section Rows

variable {reader : LedgerReader} {kind : EntityKind} {text : String} {record : kind.Record}
  {row : RecordRow kind} {identifier : String}

theorem LedgerReader.row_ok (h : reader.row kind record text = .ok row) :
    row.recordJson = text ∧ row.recordSha256 = Sha256.hexDigest (Bytes.utf8 text) ∧
      reader.columns kind record = .ok row.columns := by
  obtain ⟨columns, hcolumns, h⟩ := bind_ok.mp h
  obtain rfl := Except.ok.inj h
  exact ⟨rfl, rfl, hcolumns⟩

theorem LedgerReader.rowOf_eq (hread : reader.read kind text = .ok record)
    (hrow : reader.row kind record text = .ok row) :
    reader.rowOf kind text = some (kind.identifier record, row) := by
  simp [rowOf, hread, hrow, Except.toOption]

theorem LedgerReader.rowOf_some (h : reader.rowOf kind text = some (identifier, row)) :
    ∃ record, reader.read kind text = .ok record ∧ reader.row kind record text = .ok row ∧
      kind.identifier record = identifier := by
  unfold rowOf at h
  split at h
  · next record hread =>
    obtain ⟨found, hfound, hpair⟩ := Option.map_eq_some_iff.mp h
    obtain ⟨rfl, rfl⟩ := Prod.mk.inj hpair
    refine ⟨record, hread, ?_, rfl⟩
    cases hrow : reader.row kind record text with
    | error error => simp [hrow, Except.toOption] at hfound
    | ok row => simpa [hrow, Except.toOption] using hfound
  · cases h

theorem LedgerReader.recordJson_of_rowOf (h : reader.rowOf kind text = some (identifier, row)) :
    row.recordJson = text := by
  obtain ⟨record, -, hrow, -⟩ := rowOf_some h
  exact (row_ok hrow).1

end Rows

/-! Writing a record -/

namespace ReplicaTables

variable (tables : ReplicaTables)

/-- The records of a kind by their identities. -/
def view (kind : EntityKind) (identifier : String) : Option (RecordRow kind) :=
  (tables.records kind)[identifier]?

/-- A record in its table with all that goes with it. -/
def write (kind : EntityKind) (record : kind.Record) (row : RecordRow kind) : ReplicaTables :=
  let identifier := kind.identifier record
  (((tables.setRecord kind identifier row).unindex kind identifier).index kind identifier row).link
    kind record

variable {tables} {kind : EntityKind} {record : kind.Record} {row : RecordRow kind}
  {identifier : String}

theorem view_setRecord :
    (tables.setRecord kind identifier row).view kind =
      Function.update (tables.view kind) identifier (some row) := by
  funext other
  simp only [view, setRecord, Function.update_self, ExtTreeMap.getElem?_insert,
    Std.compare_eq_iff_eq]
  by_cases h : identifier = other
  · subst h
    simp
  · rw [if_neg h, Function.update_of_ne (Ne.symm h)]
    rfl

@[simp] theorem unindex_records : (tables.unindex kind identifier).records = tables.records := by
  cases kind <;> rfl

@[simp] theorem index_records :
    (tables.index kind identifier row).records = tables.records := by
  cases kind <;> rfl

@[simp] theorem link_records : (tables.link kind record).records = tables.records := by
  cases kind <;> rfl

theorem write_records : (tables.write kind record row).records =
    (tables.setRecord kind (kind.identifier record) row).records := by
  simp [write]

theorem view_write : (tables.write kind record row).view kind =
    Function.update (tables.view kind) (kind.identifier record) (some row) := by
  rw [← view_setRecord]
  funext other
  rw [view, view, write_records]

theorem write_records_of_ne {other : EntityKind} (h : other ≠ kind) :
    (tables.write kind record row).records other = tables.records other := by
  rw [write_records]
  exact Function.update_of_ne h _ _

@[simp] theorem write_conversationParticipant :
    (tables.write kind record row).conversationParticipant = tables.conversationParticipant := by
  cases kind <;> rfl

@[simp] theorem write_cachedSurfaceState :
    (tables.write kind record row).cachedSurfaceState = tables.cachedSurfaceState := by
  cases kind <;> rfl

@[simp] theorem write_coverageState :
    (tables.write kind record row).coverageState = tables.coverageState := by
  cases kind <;> rfl

section Messages

variable {message : CanonicalMessage} {row : RecordRow .message}

theorem write_messageFts (identifier : String) :
    (tables.write .message message row).messageFts[identifier]? =
      if message.canonicalId = identifier then some [fullTextRow row.columns]
      else tables.messageFts[identifier]? := by
  simp only [write, link, replaceMessageLinks, index, unindex, setRecord, EntityKind.identifier,
    ExtTreeMap.getElem?_insert, ExtTreeMap.getElem?_erase, ExtTreeMap.getD_erase,
    Std.compare_eq_iff_eq]
  by_cases h : message.canonicalId = identifier <;> simp [h]

theorem write_messageRelationship (identifier : String) :
    (tables.write .message message row).messageRelationship[identifier]? =
      if message.canonicalId = identifier then some (relationshipRows message)
      else tables.messageRelationship[identifier]? := by
  simp only [write, link, replaceMessageLinks, index, unindex, setRecord, EntityKind.identifier,
    ExtTreeMap.getElem?_insert, Std.compare_eq_iff_eq]

theorem write_messageArtifact (identifier : String) :
    (tables.write .message message row).messageArtifact[identifier]? =
      if message.canonicalId = identifier then some (tables.listedLinks message)
      else tables.messageArtifact[identifier]? := by
  have hartifacts : (((tables.setRecord .message message.canonicalId row).unindex .message
      message.canonicalId).index .message message.canonicalId row).listedLinks message =
        tables.listedLinks message := by
    simp only [listedLinks, index_records, unindex_records, setRecord]
    rw [Function.update_of_ne (by decide)]
  rw [write, link, replaceMessageLinks, EntityKind.identifier, hartifacts]
  simp only [ExtTreeMap.getElem?_insert, Std.compare_eq_iff_eq]
  rfl

end Messages

theorem write_of_ne (h : kind ≠ .message) :
    tables.write kind record row = tables.setRecord kind (kind.identifier record) row := by
  cases kind <;> first | rfl | exact absurd rfl h

end ReplicaTables

/-- The relationships of the message a row stands for. -/
def LedgerReader.relationships (reader : LedgerReader) (row : RecordRow .message) :
    List RelationshipRow :=
  ((reader.read .message row.recordJson).toOption.map relationshipRows).getD []

/-- The artifacts that the message a row stands for refers to. -/
def LedgerReader.links (reader : LedgerReader) (row : RecordRow .message) : List ArtifactLinkRow :=
  ((reader.read .message row.recordJson).toOption.map artifactRows).getD []

/-- The links to artifacts there are. -/
def ReplicaTables.listed (tables : ReplicaTables) (links : List ArtifactLinkRow) :
    List ArtifactLinkRow :=
  links.filter fun link => (tables.view .artifact link.artifactId).isSome

theorem ReplicaTables.listedLinks_eq (tables : ReplicaTables) (message : CanonicalMessage) :
    tables.listedLinks message = tables.listed (artifactRows message) := by
  simp only [listedLinks, listed, view, ExtTreeMap.contains_eq_isSome_getElem?]

theorem ReplicaTables.listed_congr {tables other : ReplicaTables}
    (h : other.records .artifact = tables.records .artifact) :
    other.listed = tables.listed := by
  funext links
  simp only [listed, view, h]

section Rows

variable {reader : LedgerReader} {text : String}

theorem LedgerReader.links_of_row {message : CanonicalMessage} {row : RecordRow .message}
    (hread : reader.read .message text = .ok message)
    (hrow : reader.row .message message text = .ok row) :
    reader.links row = artifactRows message := by
  simp [links, (row_ok hrow).1, hread, Except.toOption]

end Rows

/-- Every row is what its text is stored as, and messages are indexed and related alike. -/
structure Consistent (reader : LedgerReader) (tables : ReplicaTables) : Prop where
  sound : ∀ kind identifier row, tables.view kind identifier = some row →
    reader.rowOf kind row.recordJson = some (identifier, row)
  indexed : ∀ identifier, tables.messageFts[identifier]? =
    (tables.view .message identifier).map fun row => [fullTextRow row.columns]
  related : ∀ identifier, tables.messageRelationship[identifier]? =
    (tables.view .message identifier).map reader.relationships
  linked : ∀ identifier, tables.messageArtifact[identifier]?.isSome =
    (tables.view .message identifier).isSome

section Steps

variable {reader : LedgerReader} {archive : ReplicaArchive} {observedAt : ℕ} {kind : EntityKind}
  {tables : ReplicaTables} {text : String} {record : kind.Record} {row : RecordRow kind}

theorem consistent_empty : Consistent reader .empty where
  sound kind identifier row h := by simp [ReplicaTables.view, ReplicaTables.empty] at h
  indexed identifier := by simp [ReplicaTables.view, ReplicaTables.empty]
  related identifier := by simp [ReplicaTables.view, ReplicaTables.empty]
  linked identifier := by simp [ReplicaTables.view, ReplicaTables.empty]

theorem Consistent.write (h : Consistent reader tables) (hread : reader.read kind text = .ok record)
    (hrow : reader.row kind record text = .ok row) :
    Consistent reader (tables.write kind record row) where
  sound other identifier found hfound := by
    by_cases hkind : other = kind
    · subst hkind
      rw [ReplicaTables.view_write] at hfound
      by_cases hidentifier : identifier = other.identifier record
      · subst hidentifier
        rw [Function.update_self, Option.some.injEq] at hfound
        subst hfound
        rw [(LedgerReader.row_ok hrow).1]
        exact LedgerReader.rowOf_eq hread hrow
      · rw [Function.update_of_ne hidentifier] at hfound
        exact h.sound other identifier found hfound
    · rw [ReplicaTables.view, ReplicaTables.write_records_of_ne hkind] at hfound
      exact h.sound other identifier found hfound
  indexed identifier := by
    by_cases hkind : kind = .message
    · subst hkind
      rw [ReplicaTables.write_messageFts, ReplicaTables.view_write]
      by_cases hidentifier : record.canonicalId = identifier
      · subst hidentifier
        simp [EntityKind.identifier]
      · have hne : identifier ≠ EntityKind.message.identifier record := Ne.symm hidentifier
        rw [if_neg hidentifier, Function.update_of_ne hne]
        exact h.indexed identifier
    · rw [ReplicaTables.view, ReplicaTables.write_records_of_ne (Ne.symm hkind),
        ReplicaTables.write_of_ne hkind]
      exact h.indexed identifier
  related identifier := by
    by_cases hkind : kind = .message
    · subst hkind
      rw [ReplicaTables.write_messageRelationship, ReplicaTables.view_write]
      by_cases hidentifier : record.canonicalId = identifier
      · subst hidentifier
        simp [EntityKind.identifier, LedgerReader.relationships, (LedgerReader.row_ok hrow).1, hread,
          Except.toOption]
      · have hne : identifier ≠ EntityKind.message.identifier record := Ne.symm hidentifier
        rw [if_neg hidentifier, Function.update_of_ne hne]
        exact h.related identifier
    · rw [ReplicaTables.view, ReplicaTables.write_records_of_ne (Ne.symm hkind),
        ReplicaTables.write_of_ne hkind]
      exact h.related identifier
  linked identifier := by
    by_cases hkind : kind = .message
    · subst hkind
      rw [ReplicaTables.write_messageArtifact, ReplicaTables.view_write]
      by_cases hidentifier : record.canonicalId = identifier
      · subst hidentifier
        simp [EntityKind.identifier]
      · have hne : identifier ≠ EntityKind.message.identifier record := Ne.symm hidentifier
        rw [if_neg hidentifier, Function.update_of_ne hne]
        exact h.linked identifier
    · rw [ReplicaTables.view, ReplicaTables.write_records_of_ne (Ne.symm hkind),
        ReplicaTables.write_of_ne hkind]
      exact h.linked identifier

/-- A message that was not there has left nothing behind in the index. -/
theorem Consistent.link_insert (h : Consistent reader tables)
    (hnew : tables.view kind (kind.identifier record) = none) :
    ((tables.setRecord kind (kind.identifier record) row).index kind (kind.identifier record)
      row).link kind record = tables.write kind record row := by
  by_cases hkind : kind = .message
  · subst hkind
    have habsent : tables.messageFts[EntityKind.message.identifier record]? = none := by
      rw [h.indexed, hnew, Option.map_none]
    have hunindexed : (tables.setRecord .message (EntityKind.message.identifier record) row).unindex
        .message (EntityKind.message.identifier record) =
          tables.setRecord .message (EntityKind.message.identifier record) row := by
      have herase : tables.messageFts.erase (EntityKind.message.identifier record) =
          tables.messageFts := by
        apply ExtTreeMap.ext_getElem?
        intro other
        rw [ExtTreeMap.getElem?_erase]
        split
        · next hother =>
          rw [← Std.compare_eq_iff_eq.mp hother, habsent]
        · rfl
      rw [ReplicaTables.unindex, ReplicaTables.setRecord, herase]
    rw [ReplicaTables.write, hunindexed]
  · rw [ReplicaTables.write_of_ne hkind]
    cases kind <;> first | rfl | exact absurd rfl hkind

theorem insertRecord_ok {identifier : String} {after : ReplicaTables} :
    tables.insertRecord kind identifier row = .ok after ↔ tables.view kind identifier = none ∧
      tables.checkConstraints kind identifier row = .ok () ∧
        after = (tables.setRecord kind identifier row).index kind identifier row := by
  have hcontains : (tables.records kind).contains identifier = false ↔
      tables.view kind identifier = none := by
    rw [ExtTreeMap.contains_eq_isSome_getElem?, Option.isSome_eq_false_iff, Option.isNone_iff_eq_none,
      ReplicaTables.view]
  rw [← hcontains, ReplicaTables.insertRecord]
  cases hpresent : (tables.records kind).contains identifier with
  | true => simp [throw, throwThe, MonadExceptOf.throw, bind, Except.bind]
  | false =>
    simp only [Bool.false_eq_true, if_false, true_and]
    rw [check_bind_ok]
    simp [pure, Except.pure, eq_comm]

/-- A bootstrap writes records that are not there yet. -/
theorem Consistent.importRecord_ok (h : Consistent reader tables) {after : ReplicaTables} :
    importRecord reader archive kind tables text = .ok after ↔ ∃ record row,
      reader.read kind text = .ok record ∧
        (kind.accountId record).forM (requireAccount · archive.report.accountId) = .ok () ∧
        reader.row kind record text = .ok row ∧
        tables.view kind (kind.identifier record) = none ∧
        tables.checkConstraints kind (kind.identifier record) row = .ok () ∧
          after = tables.write kind record row := by
  rw [importRecord, bind_ok]
  apply exists_congr
  intro record
  rw [check_bind_ok, bind_ok]
  constructor
  · rintro ⟨hread, haccount, row, hrow, hinsert⟩
    obtain ⟨inserted, hinserted, hlink⟩ := bind_ok.mp hinsert
    obtain ⟨hnew, hchecked, rfl⟩ := insertRecord_ok.mp hinserted
    obtain rfl := Except.ok.inj hlink
    exact ⟨row, hread, haccount, hrow, hnew, hchecked, h.link_insert hnew⟩
  · rintro ⟨row, hread, haccount, hrow, hnew, hchecked, rfl⟩
    refine ⟨hread, haccount, row, hrow, bind_ok.mpr ⟨_, insertRecord_ok.mpr ⟨hnew, hchecked, rfl⟩, ?_⟩⟩
    rw [h.link_insert hnew]
    rfl

/-! Synchronizing a record -/

namespace SyncState

variable (state : SyncState)

def marked (kind : EntityKind) (identifier : String) : SyncState :=
  { state with seen := Function.update state.seen kind ((state.seen kind).insert identifier) }

/-- The entry a written record is logged with. -/
def entry (archive : ReplicaArchive) (observedAt : ℕ) (kind : EntityKind) (record : kind.Record)
    (row : RecordRow kind) : ReplicaChange where
  sequence := nextSequence state.changeLog
  sourceFingerprint := archive.report.sourceFingerprint
  changeKind := if (state.tables.view kind (kind.identifier record)).isNone then .added else .changed
  entityKind := some kind
  entityId := kind.identifier record
  conversationId := changeConversation kind record
  recordSha256 := some row.recordSha256
  observedAtUnixNanoseconds := observedAt

end SyncState

variable {state after : SyncState}

theorem markSeen_ok {identifier : String} : state.markSeen kind identifier = .ok after ↔
    identifier ∉ state.seen kind ∧ after = state.marked kind identifier := by
  rw [SyncState.markSeen]
  by_cases hseen : (state.seen kind).contains identifier = true
  · rw [if_pos hseen]
    have hmem : identifier ∈ state.seen kind := hseen
    simp [hmem]
  · rw [if_neg hseen]
    have hmem : identifier ∉ state.seen kind := hseen
    simp [hmem, SyncState.marked, eq_comm]

/-- What a synchronization makes of a written record. -/
structure Written (archive : ReplicaArchive) (observedAt : ℕ) (kind : EntityKind)
    (state : SyncState) (record : kind.Record) (row : RecordRow kind) (after : SyncState) :
    Prop where
  tables : after.tables = state.tables.write kind record row
  changeLog : after.changeLog = state.changeLog ++ [state.entry archive observedAt kind record row]
  seen : after.seen = state.seen
  conversations : ∀ identifier, identifier ∈ after.changedConversations ↔
    identifier ∈ state.changedConversations ∨
      kind = .conversation ∧ identifier = kind.identifier record

theorem written_afterWrite {stored : SyncState} {changeKind : ChangeKind}
    (hchange : changeKind =
      if (state.tables.view kind (kind.identifier record)).isNone then .added else .changed)
    (htables : stored.tables.link kind record = state.tables.write kind record row)
    (hlog : stored.changeLog = state.changeLog) (hseen : stored.seen = state.seen)
    (hconversations : stored.changedConversations = state.changedConversations) :
    Written archive observedAt kind state record row
      ((stored.afterWrite kind record).recordChange archive.report.sourceFingerprint observedAt
        changeKind kind (kind.identifier record) (changeConversation kind record) row.recordSha256) where
  tables := by
    rw [← htables]
    cases kind <;> rfl
  changeLog := by cases kind <;> simp [SyncState.recordChange, SyncState.afterWrite,
    SyncState.linkMessage, SyncState.entry, hlog, hchange]
  seen := by
    rw [← hseen]
    cases kind <;> rfl
  conversations identifier := by
    cases kind with
    | conversation =>
      simp only [SyncState.recordChange, SyncState.afterWrite, hconversations, ExtTreeSet.mem_insert,
        Std.compare_eq_iff_eq, true_and, EntityKind.identifier]
      rw [or_comm, eq_comm]
    | _ => simp [SyncState.recordChange, SyncState.afterWrite, SyncState.linkMessage, hconversations]

/-- A record is written where its constraints are met. -/
theorem Consistent.writeRecord_ok (h : Consistent reader state.tables) {changeKind : ChangeKind}
    (hchange : changeKind =
      if (state.tables.view kind (kind.identifier record)).isNone then .added else .changed)
    (hwrite : writeRecord reader archive observedAt kind state record text changeKind = .ok after) :
    ∃ row, checkWritten archive kind record = .ok () ∧ reader.row kind record text = .ok row ∧
      state.tables.checkConstraints kind (kind.identifier record) row = .ok () ∧
        Written archive observedAt kind state record row after := by
  rw [writeRecord, check_bind_ok] at hwrite
  obtain ⟨hchecked, hwrite⟩ := hwrite
  obtain ⟨row, hrow, hwrite⟩ := bind_ok.mp hwrite
  obtain ⟨tables, htables, hwrite⟩ := bind_ok.mp hwrite
  obtain rfl := Except.ok.inj hwrite
  refine ⟨row, hchecked, hrow, ?_⟩
  have hkind := hchange
  cases hnew : (state.tables.view kind (kind.identifier record)).isNone with
  | true =>
    rw [hnew, if_pos rfl] at hkind
    rw [if_pos hkind] at htables
    obtain ⟨hnone, hconstraints, rfl⟩ := insertRecord_ok.mp htables
    exact ⟨hconstraints, written_afterWrite hchange (h.link_insert hnone) rfl rfl rfl⟩
  | false =>
    rw [hnew, if_neg (by decide)] at hkind
    rw [if_neg (by rw [hkind]; decide), ReplicaTables.updateRecord, check_bind_ok] at htables
    obtain ⟨hconstraints, htables⟩ := htables
    obtain rfl := Except.ok.inj htables
    exact ⟨hconstraints, written_afterWrite hchange rfl rfl rfl rfl⟩

/-- A record that stands as its text says is left alone; any other one is written. -/
theorem Consistent.reconcileRecord_ok (h : Consistent reader state.tables)
    (hstep : reconcileRecord reader archive observedAt kind state text = .ok after) :
    ∃ record row, reader.read kind text = .ok record ∧
      (kind.accountId record).forM (requireAccount · archive.report.accountId) = .ok () ∧
      reader.row kind record text = .ok row ∧ kind.identifier record ∉ state.seen kind ∧
      ((state.tables.view kind (kind.identifier record) = some row ∧
          after = state.marked kind (kind.identifier record)) ∨
        (state.tables.view kind (kind.identifier record) ≠ some row ∧
          checkWritten archive kind record = .ok () ∧
          state.tables.checkConstraints kind (kind.identifier record) row = .ok () ∧
          Written archive observedAt kind (state.marked kind (kind.identifier record)) record row
            after)) := by
  rw [reconcileRecord] at hstep
  obtain ⟨record, hread, hstep⟩ := bind_ok.mp hstep
  obtain ⟨haccount, hstep⟩ := check_bind_ok.mp hstep
  obtain ⟨marked, hmarked, hstep⟩ := bind_ok.mp hstep
  obtain ⟨hfresh, rfl⟩ := markSeen_ok.mp hmarked
  have hmarkedTables : (state.marked kind (kind.identifier record)).tables = state.tables := rfl
  have hconsistent : Consistent reader (state.marked kind (kind.identifier record)).tables := h
  refine ⟨record, ?_⟩
  split at hstep
  · next hnone =>
    have hview : state.tables.view kind (kind.identifier record) = none := hnone
    obtain ⟨row, hchecked, hrow, hconstraints, hwritten⟩ := hconsistent.writeRecord_ok
      (by rw [hmarkedTables, hview]; rfl) hstep
    exact ⟨row, hread, haccount, hrow, hfresh,
      .inr ⟨by rw [hview]; simp, hchecked, hconstraints, hwritten⟩⟩
  · next existing hexisting =>
    have hview : state.tables.view kind (kind.identifier record) = some existing := hexisting
    split at hstep
    · next hsame =>
      rw [Bool.and_eq_true, beq_iff_eq, beq_iff_eq] at hsame
      obtain rfl := Except.ok.inj hstep
      have hsound := h.sound kind _ existing hview
      obtain ⟨other, hother, hrow, -⟩ := LedgerReader.rowOf_some hsound
      rw [hsame.2, hread] at hother
      obtain rfl := Except.ok.inj hother
      rw [hsame.2] at hrow
      exact ⟨existing, hread, haccount, hrow, hfresh, .inl ⟨hview, rfl⟩⟩
    · next hdiffers =>
      obtain ⟨row, hchecked, hrow, hconstraints, hwritten⟩ := hconsistent.writeRecord_ok
        (by rw [hmarkedTables, hview]; rfl) hstep
      refine ⟨row, hread, haccount, hrow, hfresh, .inr ⟨?_, hchecked, hconstraints, hwritten⟩⟩
      rw [hview, ne_eq, Option.some.injEq]
      rintro rfl
      obtain ⟨hjson, hdigest, -⟩ := LedgerReader.row_ok hrow
      exact hdiffers (by simp [hjson, hdigest])

end Steps

end GreenBubbles.Sync
