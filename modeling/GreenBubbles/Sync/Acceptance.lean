import GreenBubbles.Sync.Refinement

/-! # When a synchronization goes through

An archive that can be bootstrapped can be synchronized unless an artifact that is
written fails its checks, or a message is written to a place that another one still
holds. Places are freed in the order of the ledger only.
-/
namespace GreenBubbles.Sync

open Std Archive Library Upserts

variable {reader : LedgerReader} {archive previous : ReplicaArchive} {observedAt : ℕ}
  {tables fresh : ReplicaTables} {kind : EntityKind}

/-! What a bootstrap asks of a ledger -/

/-- Every text of a ledger can be stored, and no two name one record. -/
structure Importable (reader : LedgerReader) (archive : ReplicaArchive) (kind : EntityKind) :
    Prop where
  stored : ∀ front text rest, archive.ledger kind = front ++ text :: rest → ∃ record row,
    reader.read kind text = .ok record ∧
      (kind.accountId record).forM (requireAccount · archive.report.accountId) = .ok () ∧
      reader.row kind record text = .ok row ∧
      ¬Names (reader.rowOf kind) front (kind.identifier record)
  counted : (archive.ledger kind).length = archive.expectedRecordCount kind

/-- The places of the messages are taken once. -/
def PlacedOnce (reader : LedgerReader) (archive : ReplicaArchive) : Prop :=
  ∀ front text rest, archive.messages = front ++ text :: rest → ∀ identifier row,
    reader.rowOf .message text = some (identifier, row) → ∀ other held,
      Says (reader.rowOf .message) front other held → held.columns.position ≠ row.columns.position

/-- The members of every conversation can be listed. -/
def Enrolled (reader : LedgerReader) (archive : ReplicaArchive) : Prop :=
  ∀ text ∈ archive.conversations, ∃ conversation, reader.read .conversation text = .ok conversation ∧
    (conversation.memberships.map fun membership =>
      (membership.participantId, membership.role)).Nodup

theorem checkConstraints_message_ok {identifier : String} {row : RecordRow .message} :
    tables.checkConstraints .message identifier row = .ok () ↔
      (∀ other held, tables.view .message other = some held → other ≠ identifier →
        held.columns.position ≠ row.columns.position) ∧
        (tables.view .conversation row.columns.conversationId).isSome = true := by
  have htaken : tables.ordinalTaken identifier row.columns.position = false ↔
      ∀ other held, tables.view .message other = some held → other ≠ identifier →
        held.columns.position ≠ row.columns.position := by
    rw [ReplicaTables.ordinalTaken, List.any_eq_false]
    simp only [Prod.forall, ExtTreeMap.mem_toList_iff_getElem?_eq_some, Bool.and_eq_true,
      bne_iff_ne, beq_iff_eq, not_and]
    exact Iff.rfl
  rw [← htaken, ReplicaTables.checkConstraints, ReplicaTables.view,
    ← ExtTreeMap.contains_eq_isSome_getElem?]
  cases tables.ordinalTaken identifier row.columns.position <;>
    cases (tables.records .conversation).contains row.columns.conversationId <;> simp

section Bootstrap

variable {start after : ReplicaTables}

theorem importable_of_ok (hconsistent : Consistent reader start)
    (h : forEachRecord archive kind (importRecord reader archive kind) start = .ok after) :
    Importable reader archive kind := by
  obtain ⟨hfold, hcounted⟩ := forEachRecord_ok.mp h
  refine ⟨?_, hcounted⟩
  refine foldlM_accepted (I := ImportPass reader kind start) (C := fun front text => ∃ record row,
    reader.read kind text = .ok record ∧
      (kind.accountId record).forM (requireAccount · archive.report.accountId) = .ok () ∧
      reader.row kind record text = .ok row ∧
      ¬Names (reader.rowOf kind) front (kind.identifier record)) ?_ hfold (.initial hconsistent)
  intro done text state next hpass hstep
  refine ⟨hpass.step hstep, ?_⟩
  obtain ⟨record, row, hread, haccount, hrow, hnone, -, -⟩ :=
    hpass.consistent.importRecord_ok.mp hstep
  exact ⟨record, row, hread, haccount, hrow, hpass.unnamed hnone⟩

theorem placedOnce_of_ok (hconsistent : Consistent reader start)
    (h : forEachRecord archive .message (importRecord reader archive .message) start = .ok after) :
    PlacedOnce reader archive := by
  have hfold := (forEachRecord_ok.mp h).1
  refine foldlM_accepted (I := ImportPass reader .message start)
    (C := fun front text => ∀ identifier row, reader.rowOf .message text = some (identifier, row) →
      ∀ other held, Says (reader.rowOf .message) front other held →
        held.columns.position ≠ row.columns.position) ?_ hfold (.initial hconsistent)
  intro done text state next hpass hstep
  refine ⟨hpass.step hstep, ?_⟩
  obtain ⟨message, row, hread, -, hrow, hnone, hchecked, -⟩ :=
    hpass.consistent.importRecord_ok.mp hstep
  intro identifier row' hrowOf other held hsaid
  rw [LedgerReader.rowOf_eq hread hrow, Option.some.injEq, Prod.mk.injEq] at hrowOf
  obtain ⟨rfl, rfl⟩ := hrowOf
  have hheld := (hpass.upserted other held).mpr (.inl hsaid)
  refine (checkConstraints_message_ok.mp hchecked).1 other held hheld ?_
  rintro rfl
  rw [hnone] at hheld
  cases hheld

theorem enrolled_of_ok
    (h : forEachRecord archive .conversation (importMemberships reader) start = .ok after) :
    Enrolled reader archive := by
  have hfold := (forEachRecord_ok.mp h).1
  intro text htext
  obtain ⟨front, rest, hsplit⟩ := List.append_of_mem htext
  refine foldlM_accepted (I := fun _ _ => True)
    (C := fun _ text => ∃ conversation, reader.read .conversation text = .ok conversation ∧
      (conversation.memberships.map fun membership =>
        (membership.participantId, membership.role)).Nodup) ?_ hfold trivial front text rest hsplit
  intro done text state next _ hstep
  obtain ⟨conversation, hread, hstep⟩ := bind_ok.mp hstep
  exact ⟨trivial, conversation, hread, (insertMemberships_ok hstep).1⟩

/-- What an archive that can be bootstrapped is like. -/
theorem importArchive_importable (h : importArchive reader archive = .ok tables) :
    (∀ kind, Importable reader archive kind) ∧ PlacedOnce reader archive ∧
      Enrolled reader archive := by
  rw [importArchive] at h
  obtain ⟨conversations, h₁, h⟩ := bind_ok.mp h
  obtain ⟨participants, h₂, h⟩ := bind_ok.mp h
  obtain ⟨members, h₃, h⟩ := bind_ok.mp h
  obtain ⟨artifacts, h₄, h⟩ := bind_ok.mp h
  obtain ⟨messages, h₅, h⟩ := bind_ok.mp h
  obtain ⟨moments, h₆, h⟩ := bind_ok.mp h
  obtain ⟨interactions, h₇, -⟩ := bind_ok.mp h
  have hpass₁ := import_pass consistent_empty h₁
  have hpass₂ := import_pass hpass₁.consistent h₂
  have hstanding : Standing reader participants archive.conversations := by
    apply standing_of_view hpass₁.readable
    intro identifier row hsaid
    rw [view_congr (hpass₂.others _ (by decide))]
    exact (hpass₁.upserted identifier row).mpr (.inl hsaid)
  have hconsistent₃ : Consistent reader members := by
    rw [(import_memberships hstanding h₃).rest]
    exact ⟨hpass₂.consistent.1, hpass₂.consistent.2, hpass₂.consistent.3, hpass₂.consistent.4⟩
  have hpass₄ := import_pass hconsistent₃ h₄
  have hpass₅ := import_pass hpass₄.consistent h₅
  have hpass₆ := import_pass hpass₅.consistent h₆
  refine ⟨?_, placedOnce_of_ok hpass₄.consistent h₅, enrolled_of_ok h₃⟩
  intro kind
  cases kind with
  | conversation => exact importable_of_ok consistent_empty h₁
  | participant => exact importable_of_ok hpass₁.consistent h₂
  | artifact => exact importable_of_ok hconsistent₃ h₄
  | message => exact importable_of_ok hpass₄.consistent h₅
  | cachedMoment => exact importable_of_ok hpass₅.consistent h₆
  | cachedMomentInteraction => exact importable_of_ok hpass₆.consistent h₇

end Bootstrap

/-! What a synchronization asks besides -/

section Steps

variable {state after : SyncState} {text : String} {record : kind.Record} {row : RecordRow kind}

theorem insertRecord_of {identifier : String} (hnone : tables.view kind identifier = none)
    (hchecked : tables.checkConstraints kind identifier row = .ok ()) :
    ∃ after, tables.insertRecord kind identifier row = .ok after :=
  ⟨_, insertRecord_ok.mpr ⟨hnone, hchecked, rfl⟩⟩

theorem updateRecord_of {identifier : String}
    (hchecked : tables.checkConstraints kind identifier row = .ok ()) :
    ∃ after, tables.updateRecord kind identifier row = .ok after := by
  rw [ReplicaTables.updateRecord]
  exact ⟨_, check_bind_ok.mpr ⟨hchecked, rfl⟩⟩

theorem writeRecord_of {changeKind : ChangeKind} (hverdict : checkWritten archive kind record = .ok ())
    (hrow : reader.row kind record text = .ok row)
    (hwritten : ∃ tables, (if changeKind = .added
      then state.tables.insertRecord kind (kind.identifier record) row
      else state.tables.updateRecord kind (kind.identifier record) row) = .ok tables) :
    ∃ after, writeRecord reader archive observedAt kind state record text changeKind =
      .ok after := by
  obtain ⟨tables, htables⟩ := hwritten
  rw [writeRecord]
  exact ⟨_, check_bind_ok.mpr ⟨hverdict, bind_ok.mpr ⟨row, hrow, bind_ok.mpr ⟨tables, htables, rfl⟩⟩⟩⟩

/-- A record that is not seen twice goes through when it is not written or can be. -/
theorem reconcileRecord_of (hread : reader.read kind text = .ok record)
    (haccount : (kind.accountId record).forM (requireAccount · archive.report.accountId) = .ok ())
    (hrow : reader.row kind record text = .ok row)
    (hunseen : kind.identifier record ∉ state.seen kind)
    (hwrite : state.tables.view kind (kind.identifier record) ≠ some row →
      checkWritten archive kind record = .ok () ∧
        state.tables.checkConstraints kind (kind.identifier record) row = .ok ()) :
    ∃ after, reconcileRecord reader archive observedAt kind state text = .ok after := by
  have hmarked : state.markSeen kind (kind.identifier record) =
      .ok (state.marked kind (kind.identifier record)) := markSeen_ok.mpr ⟨hunseen, rfl⟩
  cases hrecord : ((state.marked kind (kind.identifier record)).tables.records
      kind)[kind.identifier record]? with
  | none =>
    have hview : state.tables.view kind (kind.identifier record) = none := hrecord
    obtain ⟨hverdict, hchecked⟩ := hwrite (by rw [hview]; simp)
    obtain ⟨after, hafter⟩ : ∃ after, writeRecord reader archive observedAt kind
        (state.marked kind (kind.identifier record)) record text .added = .ok after := by
      refine writeRecord_of hverdict hrow ?_
      rw [if_pos rfl]
      exact insertRecord_of hview hchecked
    refine ⟨after, ?_⟩
    rw [reconcileRecord, bind_ok]
    refine ⟨record, hread, check_bind_ok.mpr ⟨haccount, bind_ok.mpr ⟨_, hmarked, ?_⟩⟩⟩
    rw [hrecord]
    exact hafter
  | some existing =>
    have hview : state.tables.view kind (kind.identifier record) = some existing := hrecord
    by_cases hsame : (existing.recordSha256 == Sha256.hexDigest (Bytes.utf8 text) &&
        existing.recordJson == text) = true
    · refine ⟨state.marked kind (kind.identifier record), ?_⟩
      rw [reconcileRecord, bind_ok]
      refine ⟨record, hread, check_bind_ok.mpr ⟨haccount, bind_ok.mpr ⟨_, hmarked, ?_⟩⟩⟩
      rw [hrecord]
      exact if_pos hsame
    · have hne : state.tables.view kind (kind.identifier record) ≠ some row := by
        rw [hview, ne_eq, Option.some.injEq]
        rintro rfl
        obtain ⟨hjson, hdigest, -⟩ := LedgerReader.row_ok hrow
        exact hsame (by simp [hjson, hdigest])
      obtain ⟨hverdict, hchecked⟩ := hwrite hne
      obtain ⟨after, hafter⟩ : ∃ after, writeRecord reader archive observedAt kind
          (state.marked kind (kind.identifier record)) record text .changed = .ok after := by
        refine writeRecord_of hverdict hrow ?_
        rw [if_neg (by decide)]
        exact updateRecord_of hchecked
      refine ⟨after, ?_⟩
      rw [reconcileRecord, bind_ok]
      refine ⟨record, hread, check_bind_ok.mpr ⟨haccount, bind_ok.mpr ⟨_, hmarked, ?_⟩⟩⟩
      rw [hrecord]
      exact (if_neg hsame).trans hafter

end Steps

section Passes

variable {start after : SyncState}

variable (observedAt) in
/-- A ledger is gone through when all that is written can be. -/
theorem reconcile_ledger_of (hconsistent : Consistent reader start.tables)
    (hunseen : ∀ identifier, identifier ∉ start.seen kind)
    (himportable : Importable reader archive kind)
    (hwrite : ∀ front text rest, archive.ledger kind = front ++ text :: rest → ∀ record row,
      reader.read kind text = .ok record → reader.row kind record text = .ok row →
        start.tables.view kind (kind.identifier record) ≠ some row →
          checkWritten archive kind record = .ok () ∧ ∀ state, Pass reader kind start front state →
            state.tables.checkConstraints kind (kind.identifier record) row = .ok ()) :
    ∃ after, forEachRecord archive kind (reconcileRecord reader archive observedAt kind) start =
      .ok after := by
  have hfold : ∃ after, (archive.ledger kind).foldlM
      (reconcileRecord reader archive observedAt kind) start = .ok after ∧
        Pass reader kind start ([] ++ archive.ledger kind) after := by
    refine foldlM_ok (I := Pass reader kind start)
      (C := fun front text => ∃ rest, archive.ledger kind = front ++ text :: rest) ?_
      (.initial hconsistent) fun front text rest hsplit => ⟨rest, hsplit⟩
    rintro front text state hpass ⟨rest, hsplit⟩
    obtain ⟨record, row, hread, haccount, hrow, hnew⟩ := himportable.stored front text rest hsplit
    have hseen : kind.identifier record ∉ state.seen kind := by
      rw [hpass.seen]
      rintro (hmem | hnames)
      · exact hunseen _ hmem
      · exact hnew hnames
    have hok : ∃ after, reconcileRecord reader archive observedAt kind state text = .ok after := by
      refine reconcileRecord_of hread haccount hrow hseen fun hdiffers => ?_
      rw [hpass.upserted.unnamed hnew] at hdiffers
      obtain ⟨hverdict, hchecked⟩ := hwrite front text rest hsplit record row hread hrow hdiffers
      exact ⟨hverdict, hchecked state hpass⟩
    obtain ⟨after, hafter⟩ := hok
    exact ⟨after, hafter, hpass.step hafter⟩
  obtain ⟨after, hafter, -⟩ := hfold
  exact ⟨after, forEachRecord_ok.mpr ⟨hafter, himportable.counted⟩⟩

/-- All that was written could be. -/
theorem reconcile_ledger_written (hconsistent : Consistent reader start.tables)
    (h : forEachRecord archive kind (reconcileRecord reader archive observedAt kind) start =
      .ok after) : ∀ front text rest, archive.ledger kind = front ++ text :: rest → ∀ record row,
        reader.read kind text = .ok record → reader.row kind record text = .ok row →
          start.tables.view kind (kind.identifier record) ≠ some row →
            checkWritten archive kind record = .ok () ∧ ∃ state, Pass reader kind start front state ∧
              state.tables.checkConstraints kind (kind.identifier record) row = .ok () := by
  have hfold := (forEachRecord_ok.mp h).1
  refine foldlM_accepted (I := Pass reader kind start) (C := fun front text => ∀ record row,
    reader.read kind text = .ok record → reader.row kind record text = .ok row →
      start.tables.view kind (kind.identifier record) ≠ some row →
        checkWritten archive kind record = .ok () ∧ ∃ state, Pass reader kind start front state ∧
          state.tables.checkConstraints kind (kind.identifier record) row = .ok ()) ?_ hfold
    (.initial hconsistent)
  intro front text state next hpass hstep
  refine ⟨hpass.step hstep, ?_⟩
  intro record row hread hrow hdiffers
  obtain ⟨record', row', hread', -, hrow', hunseen, hcases⟩ :=
    hpass.consistent.reconcileRecord_ok hstep
  obtain rfl := Except.ok.inj (hread.symm.trans hread')
  obtain rfl := Except.ok.inj (hrow.symm.trans hrow')
  have hnew : ¬Names (reader.rowOf kind) front (kind.identifier record) := fun hnames =>
    hunseen ((hpass.seen _).mpr (.inr hnames))
  rw [hpass.upserted.unnamed hnew] at hcases
  rcases hcases with ⟨hsame, -⟩ | ⟨-, hverdict, hchecked, -⟩
  · exact absurd hsame hdiffers
  · exact ⟨hverdict, state, hpass, hchecked⟩

variable (start) in
/-- Members that can be listed are. -/
theorem reconcile_memberships_of (henrolled : Enrolled reader archive)
    (hcounted : (archive.ledger .conversation).length = archive.expectedRecordCount .conversation)
    (hlisted : ∀ text ∈ archive.conversations, ∀ conversation,
      reader.read .conversation text = .ok conversation → ∀ membership ∈ conversation.memberships,
        (start.tables.view .participant membership.participantId).isSome = true) :
    ∃ after, forEachRecord archive .conversation (reconcileMemberships reader) start =
      .ok after := by
  have hfold : ∃ after, (archive.ledger .conversation).foldlM (reconcileMemberships reader) start =
      .ok after ∧ after.tables.records = start.tables.records := by
    refine foldlM_ok (I := fun _ (state : SyncState) => state.tables.records = start.tables.records)
      (C := fun _ text => text ∈ archive.conversations) ?_ rfl ?_
    · intro _ text state hrecords htext
      obtain ⟨conversation, hread, hnodup⟩ := henrolled text htext
      simp only [reconcileMemberships, hread]
      by_cases hchanged : state.changedConversations.contains conversation.conversationId = true
      · have hmembers : (!conversation.memberships.all fun membership =>
            (state.tables.records .participant).contains membership.participantId) = false := by
          rw [Bool.not_eq_false', List.all_eq_true]
          intro membership hmembership
          rw [ExtTreeMap.contains_eq_isSome_getElem?, hrecords]
          exact hlisted text htext conversation hread membership hmembership
        have hinserted : state.tables.insertMemberships conversation.conversationId
            conversation.memberships = .ok { state.tables with
              conversationParticipant := state.tables.conversationParticipant.insert
                conversation.conversationId conversation.memberships } := by
          simp only [ReplicaTables.insertMemberships, hnodup, hmembers]
          rfl
        refine ⟨{ state with tables := { state.tables with
          conversationParticipant := state.tables.conversationParticipant.insert
            conversation.conversationId conversation.memberships } }, ?_, hrecords⟩
        simp only [bind, Except.bind, hchanged, hinserted]
        rfl
      · refine ⟨state, ?_, hrecords⟩
        simp only [bind, Except.bind, hchanged]
        rfl
    · intro front text rest hsplit
      have hconversations : archive.conversations = front ++ text :: rest := hsplit
      rw [hconversations]
      exact List.mem_append_right _ List.mem_cons_self
  obtain ⟨after, hafter, -⟩ := hfold
  exact ⟨after, forEachRecord_ok.mpr ⟨hafter, hcounted⟩⟩

end Passes

/-- What is written of an archive can be: the artifacts pass their checks, and whoever stands
in the place of a message comes before it. -/
structure Accepted (reader : LedgerReader) (archive : ReplicaArchive) (tables : ReplicaTables) :
    Prop where
  artifacts : ∀ text ∈ archive.artifacts, ∀ artifact row, reader.read .artifact text = .ok artifact →
    reader.row .artifact artifact text = .ok row →
      tables.view .artifact artifact.artifactId ≠ some row → archive.artifactVerdict artifact = .ok ()
  places : ∀ front text rest, archive.messages = front ++ text :: rest → ∀ identifier row,
    reader.rowOf .message text = some (identifier, row) →
      tables.view .message identifier ≠ some row → ∀ other held,
        tables.view .message other = some held → held.columns.position = row.columns.position →
          other = identifier ∨ Names (reader.rowOf .message) front other

/-- The constraints on a message in the middle of a synchronization. -/
theorem checkConstraints_pass {start state : SyncState} {front : List String} {identifier : String}
    {row : RecordRow .message} (hpass : Pass reader .message start front state)
    (honce : ∀ other held, Says (reader.rowOf .message) front other held →
      held.columns.position ≠ row.columns.position)
    (hconversation : (start.tables.view .conversation row.columns.conversationId).isSome = true) :
    state.tables.checkConstraints .message identifier row = .ok () ↔ ∀ other held,
      start.tables.view .message other = some held → held.columns.position = row.columns.position →
        other = identifier ∨ Names (reader.rowOf .message) front other := by
  rw [checkConstraints_message_ok, view_congr (hpass.others .conversation (by decide))]
  simp only [hconversation, and_true]
  constructor
  · intro h other held hheld hposition
    by_contra hother
    rw [not_or] at hother
    have hstands := (hpass.upserted other held).mpr (.inr ⟨hheld, hother.2⟩)
    exact h other held hstands hother.1 hposition
  · intro h other held hheld hne hposition
    rcases (hpass.upserted other held).mp hheld with hsaid | ⟨hstood, hunnamed⟩
    · exact honce other held hsaid hposition
    · rcases h other held hstood hposition with hsame | hnames
      · exact hne hsame
      · exact hunnamed hnames

theorem reconcileArchive_ok {changeLog : List ReplicaChange} :
    (∃ state, reconcileArchive reader archive observedAt tables changeLog = .ok state) ↔
      ∃ state, reconcileLedgers reader archive observedAt (start tables changeLog) = .ok state := by
  constructor
  · rintro ⟨state, h⟩
    obtain ⟨middle, hledgers, -⟩ := bind_ok.mp h
    exact ⟨middle, hledgers⟩
  · rintro ⟨middle, hledgers⟩
    exact ⟨_, bind_ok.mpr ⟨middle, hledgers, rfl⟩⟩

/-- An archive that can be bootstrapped can be synchronized exactly when it is accepted. -/
theorem Holds.reconcile_ok_iff (hprevious : Holds reader previous tables)
    (himport : importArchive reader archive = .ok fresh) {changeLog : List ReplicaChange} :
    (∃ state, reconcileArchive reader archive observedAt tables changeLog = .ok state) ↔
      Accepted reader archive tables := by
  obtain ⟨himportable, honce, henrolled⟩ := importArchive_importable himport
  obtain ⟨-, hclosed⟩ := importArchive_holds himport
  have hsplit : ∀ {text}, text ∈ archive.artifacts → ∃ front rest,
      archive.ledger .artifact = front ++ text :: rest := fun htext => List.append_of_mem htext
  have hconsistent : Consistent reader (start tables changeLog).tables := hprevious.consistent
  rw [reconcileArchive_ok]
  constructor
  · rintro ⟨state, h⟩
    obtain ⟨conversations, h₁, h⟩ := bind_ok.mp h
    obtain ⟨participants, h₂, h⟩ := bind_ok.mp h
    obtain ⟨members, h₃, h⟩ := bind_ok.mp h
    obtain ⟨artifacts, h₄, h⟩ := bind_ok.mp h
    obtain ⟨messages, h₅, -⟩ := bind_ok.mp h
    have hpass₁ := reconcile_pass hconsistent h₁
    have hpass₂ := reconcile_pass hpass₁.consistent h₂
    have hstanding : Standing reader participants.tables archive.conversations := by
      apply standing_of_view hpass₁.readable
      intro identifier row hsaid
      rw [view_congr (hpass₂.others _ (by decide))]
      exact (hpass₁.upserted identifier row).mpr (.inl hsaid)
    have hjoined := reconcile_memberships hstanding h₃
    have hrecords₃ : members.tables.records = participants.tables.records := by rw [hjoined.rest]
    have hconsistent₃ : Consistent reader members.tables := by
      rw [hjoined.rest]
      exact ⟨hpass₂.consistent.1, hpass₂.consistent.2, hpass₂.consistent.3, hpass₂.consistent.4⟩
    have hpass₄ := reconcile_pass hconsistent₃ h₄
    have hview₃ : ∀ kind, kind ≠ .conversation → kind ≠ .participant →
        members.tables.view kind = tables.view kind := fun kind h₁ h₂ =>
      view_congr ((congrFun hrecords₃ kind).trans
        ((hpass₂.others kind h₂).trans (hpass₁.others kind h₁)))
    have hview₄ : artifacts.tables.view .message = tables.view .message :=
      (view_congr (hpass₄.others _ (by decide))).trans (hview₃ _ (by decide) (by decide))
    constructor
    · intro text htext artifact row hread hrow hdiffers
      obtain ⟨front, rest, hledger⟩ := hsplit htext
      rw [← hview₃ _ (by decide) (by decide)] at hdiffers
      exact (reconcile_ledger_written hconsistent₃ h₄ front text rest hledger artifact row hread hrow
        hdiffers).1
    · intro front text rest hledger identifier row hrowOf hdiffers
      obtain ⟨message, hread, hrow, rfl⟩ := LedgerReader.rowOf_some hrowOf
      rw [← hview₄] at hdiffers ⊢
      obtain ⟨-, state, hpass, hchecked⟩ := reconcile_ledger_written hpass₄.consistent h₅ front text
        rest hledger message row hread hrow hdiffers
      have hconversation : (artifacts.tables.view .conversation
          row.columns.conversationId).isSome = true := by
        have hlisted := (checkConstraints_message_ok.mp hchecked).2
        rwa [view_congr (hpass.others .conversation (by decide))] at hlisted
      exact (checkConstraints_pass hpass
        (honce front text rest hledger _ row hrowOf) hconversation).mp hchecked
  · intro haccepted
    have hunseen : ∀ kind identifier, identifier ∉ (start tables changeLog).seen kind :=
      fun kind identifier => ExtTreeSet.not_mem_empty
    obtain ⟨conversations, h₁⟩ := reconcile_ledger_of observedAt hconsistent (hunseen _)
      (himportable .conversation) fun front text rest _ record row _ _ _ =>
        ⟨rfl, fun _ _ => rfl⟩
    have hpass₁ := reconcile_pass hconsistent h₁
    obtain ⟨participants, h₂⟩ := reconcile_ledger_of observedAt hpass₁.consistent
      (by rw [hpass₁.unseen _ (by decide)]; exact hunseen _) (himportable .participant)
      fun front text rest _ record row _ _ _ => ⟨rfl, fun _ _ => rfl⟩
    have hpass₂ := reconcile_pass hpass₁.consistent h₂
    have hstanding : Standing reader participants.tables archive.conversations := by
      apply standing_of_view hpass₁.readable
      intro identifier row hsaid
      rw [view_congr (hpass₂.others _ (by decide))]
      exact (hpass₁.upserted identifier row).mpr (.inl hsaid)
    obtain ⟨members, h₃⟩ := reconcile_memberships_of participants henrolled
      (himportable .conversation).counted (by
        intro text htext conversation hread membership hmembership
        obtain ⟨identifier, row, hrowOf, -⟩ := hstanding text htext
        obtain ⟨conversation', hread', hrow, -⟩ := LedgerReader.rowOf_some hrowOf
        obtain rfl := Except.ok.inj (hread.symm.trans hread')
        have hmemberships : reader.memberships row = conversation.memberships := by
          simp [LedgerReader.memberships, (LedgerReader.row_ok hrow).1, hread, Except.toOption]
        obtain ⟨found, hfound⟩ := names_iff_stated.mp (hclosed.members identifier row
          ⟨text, htext, hrowOf⟩ membership (hmemberships ▸ hmembership))
        rw [(hpass₂.upserted _ found).mpr (.inl hfound)]
        rfl)
    have hjoined := reconcile_memberships hstanding h₃
    have hrecords₃ : members.tables.records = participants.tables.records := by rw [hjoined.rest]
    have hseen₃ : members.seen = participants.seen := by rw [hjoined.rest]
    have hconsistent₃ : Consistent reader members.tables := by
      rw [hjoined.rest]
      exact ⟨hpass₂.consistent.1, hpass₂.consistent.2, hpass₂.consistent.3, hpass₂.consistent.4⟩
    have hview₃ : ∀ kind, kind ≠ .conversation → kind ≠ .participant →
        members.tables.view kind = tables.view kind := fun kind h₁ h₂ =>
      view_congr ((congrFun hrecords₃ kind).trans
        ((hpass₂.others kind h₂).trans (hpass₁.others kind h₁)))
    have hunseen₃ : ∀ kind, kind ≠ .conversation → kind ≠ .participant →
        ∀ identifier, identifier ∉ members.seen kind := by
      intro kind h₁ h₂
      rw [hseen₃, hpass₂.unseen kind h₂, hpass₁.unseen kind h₁]
      exact hunseen kind
    obtain ⟨artifacts, h₄⟩ := reconcile_ledger_of observedAt hconsistent₃
      (hunseen₃ _ (by decide) (by decide)) (himportable .artifact)
      fun front text rest hledger record row hread hrow hdiffers => by
        refine ⟨?_, fun _ _ => rfl⟩
        have htext : text ∈ archive.artifacts := by
          have hartifacts : archive.artifacts = front ++ text :: rest := hledger
          rw [hartifacts]
          exact List.mem_append_right _ List.mem_cons_self
        rw [hview₃ _ (by decide) (by decide)] at hdiffers
        exact haccepted.artifacts text htext record row hread hrow hdiffers
    have hpass₄ := reconcile_pass hconsistent₃ h₄
    have hview₄ : artifacts.tables.view .message = tables.view .message :=
      (view_congr (hpass₄.others _ (by decide))).trans (hview₃ _ (by decide) (by decide))
    obtain ⟨messages, h₅⟩ := reconcile_ledger_of observedAt hpass₄.consistent
      (by rw [hpass₄.unseen _ (by decide)]; exact hunseen₃ _ (by decide) (by decide))
      (himportable .message) fun front text rest hledger record row hread hrow hdiffers => by
        refine ⟨rfl, fun state hpass => ?_⟩
        have hrowOf := LedgerReader.rowOf_eq hread hrow
        have hledger' : archive.messages = front ++ text :: rest := hledger
        have htext : text ∈ archive.messages := by
          rw [hledger']
          exact List.mem_append_right _ List.mem_cons_self
        have hconversation : (artifacts.tables.view .conversation
            row.columns.conversationId).isSome = true := by
          obtain ⟨found, hfound⟩ := names_iff_stated.mp (hclosed.conversations _ row ⟨text, htext, hrowOf⟩)
          have hview : artifacts.tables.view .conversation = conversations.tables.view .conversation :=
            view_congr ((hpass₄.others _ (by decide)).trans
              ((congrFun hrecords₃ _).trans (hpass₂.others _ (by decide))))
          rw [hview, (hpass₁.upserted _ found).mpr (.inl hfound)]
          rfl
        refine (checkConstraints_pass hpass (honce front text rest hledger' _ row hrowOf)
          hconversation).mpr ?_
        rw [hview₄] at hdiffers ⊢
        exact haccepted.places front text rest hledger' _ row hrowOf hdiffers
    have hpass₅ := reconcile_pass hpass₄.consistent h₅
    have hunseen₅ : ∀ kind, kind ≠ .conversation → kind ≠ .participant → kind ≠ .artifact →
        kind ≠ .message → ∀ identifier, identifier ∉ messages.seen kind := by
      intro kind h₁ h₂ h₄ h₅
      rw [hpass₅.unseen kind h₅, hpass₄.unseen kind h₄]
      exact hunseen₃ kind h₁ h₂
    obtain ⟨moments, h₆⟩ := reconcile_ledger_of observedAt hpass₅.consistent
      (hunseen₅ _ (by decide) (by decide) (by decide) (by decide)) (himportable .cachedMoment)
      fun front text rest _ record row _ _ _ => ⟨rfl, fun _ _ => rfl⟩
    have hpass₆ := reconcile_pass hpass₅.consistent h₆
    obtain ⟨interactions, h₇⟩ := reconcile_ledger_of observedAt hpass₆.consistent
      (by rw [hpass₆.unseen _ (by decide)]; exact hunseen₅ _ (by decide) (by decide) (by decide)
            (by decide)) (himportable .cachedMomentInteraction)
      fun front text rest _ record row _ _ _ => ⟨rfl, fun _ _ => rfl⟩
    exact ⟨interactions, bind_ok.mpr ⟨_, h₁, bind_ok.mpr ⟨_, h₂, bind_ok.mpr ⟨_, h₃,
      bind_ok.mpr ⟨_, h₄, bind_ok.mpr ⟨_, h₅, bind_ok.mpr ⟨_, h₆, h₇⟩⟩⟩⟩⟩⟩⟩

end GreenBubbles.Sync
