import GreenBubbles.Sync.Passes

/-! # One ledger after the other

What a pass over a ledger leaves of the tables: the records the ledger names stand
as it says, every other one as it did. Afterwards all that no ledger names is
removed with what belongs to it.
-/
namespace GreenBubbles.Sync

open Std Archive Library Upserts

section Passes

variable {reader : LedgerReader} {archive : ReplicaArchive} {observedAt : ℕ} {kind : EntityKind}
  {start state after : SyncState} {done : List String}

theorem forEachRecord_ok {σ : Type} {body : σ → String → Except RestoreError σ} {state after : σ} :
    forEachRecord archive kind body state = .ok after ↔
      (archive.ledger kind).foldlM body state = .ok after ∧
        (archive.ledger kind).length = archive.expectedRecordCount kind := by
  rw [forEachRecord, bind_ok]
  by_cases hcount : (archive.ledger kind).length = archive.expectedRecordCount kind
  · simp [hcount, pure, Except.pure]
  · simp [hcount, throw, throwThe, MonadExceptOf.throw, bind, Except.bind]

/-- The state after a part of a ledger. -/
structure Pass (reader : LedgerReader) (kind : EntityKind) (start : SyncState) (done : List String)
    (state : SyncState) : Prop where
  consistent : Consistent reader state.tables
  upserted : Upserted (reader.rowOf kind) (start.tables.view kind) done (state.tables.view kind)
  others : ∀ other, other ≠ kind → state.tables.records other = start.tables.records other
  seen : ∀ identifier, identifier ∈ state.seen kind ↔
    identifier ∈ start.seen kind ∨ Names (reader.rowOf kind) done identifier
  unseen : ∀ other, other ≠ kind → state.seen other = start.seen other
  readable : ∀ text ∈ done, (reader.rowOf kind text).isSome = true
  memberships : state.tables.conversationParticipant = start.tables.conversationParticipant
  links : kind ≠ .message → state.tables.messageArtifact = start.tables.messageArtifact
  changed : ∀ identifier, identifier ∈ state.changedConversations ↔
    identifier ∈ start.changedConversations ∨ kind = .conversation ∧
      ∃ row, Says (reader.rowOf kind) done identifier row ∧
        start.tables.view kind identifier ≠ some row

theorem Pass.initial (h : Consistent reader start.tables) : Pass reader kind start [] start where
  consistent := h
  upserted := upserted_nil
  others _ _ := rfl
  seen identifier := by simp [Names]
  unseen _ _ := rfl
  readable _ h := by cases h
  memberships := rfl
  links _ := rfl
  changed identifier := by simp [Says]

theorem Pass.step (h : Pass reader kind start done state) {text : String}
    (hstep : reconcileRecord reader archive observedAt kind state text = .ok after) :
    Pass reader kind start (done ++ [text]) after := by
  obtain ⟨record, row, hread, -, hrow, hunseen, hcases⟩ := h.consistent.reconcileRecord_ok hstep
  have hrowOf := LedgerReader.rowOf_eq hread hrow
  have hnew : ¬Names (reader.rowOf kind) done (kind.identifier record) := fun hnames =>
    hunseen ((h.seen _).mpr (.inr hnames))
  have hstood := h.upserted.unnamed hnew
  have hupserted := h.upserted.write hrowOf hnew
  have hseen : ∀ identifier, identifier ∈
      (state.marked kind (kind.identifier record)).seen kind ↔
        identifier ∈ start.seen kind ∨ Names (reader.rowOf kind) (done ++ [text]) identifier := by
    intro identifier
    simp only [names_append hrowOf, SyncState.marked, Function.update_self, ExtTreeSet.mem_insert,
      Std.compare_eq_iff_eq, h.seen identifier]
    rw [or_comm, or_assoc, eq_comm]
  have hunseenOthers : ∀ other, other ≠ kind →
      (state.marked kind (kind.identifier record)).seen other = start.seen other := by
    intro other hother
    rw [← h.unseen other hother]
    exact Function.update_of_ne hother _ _
  have hreadable : ∀ other ∈ done ++ [text], (reader.rowOf kind other).isSome = true := by
    intro other hother
    rcases List.mem_append.mp hother with hdone | hlast
    · exact h.readable other hdone
    · rw [List.mem_singleton.mp hlast, hrowOf]
      rfl
  have hchanged : ∀ identifier, (∃ row', Says (reader.rowOf kind) (done ++ [text]) identifier row' ∧
      start.tables.view kind identifier ≠ some row') ↔
        (∃ row', Says (reader.rowOf kind) done identifier row' ∧
          start.tables.view kind identifier ≠ some row') ∨
        (identifier = kind.identifier record ∧
          state.tables.view kind (kind.identifier record) ≠ some row) := by
    intro identifier
    simp only [says_append hrowOf, hstood]
    constructor
    · rintro ⟨row', hsaid | ⟨rfl, rfl⟩, hne⟩
      · exact .inl ⟨row', hsaid, hne⟩
      · exact .inr ⟨rfl, hne⟩
    · rintro (⟨row', hsaid, hne⟩ | ⟨rfl, hne⟩)
      · exact ⟨row', .inl hsaid, hne⟩
      · exact ⟨row, .inr ⟨rfl, rfl⟩, hne⟩
  rcases hcases with ⟨hsame, rfl⟩ | ⟨hdiffers, -, -, hwritten⟩
  · exact {
      consistent := h.consistent
      upserted := by
        have hidle : Function.update (state.tables.view kind) (kind.identifier record) (some row) =
            state.tables.view kind := by
          rw [← hsame, Function.update_eq_self]
        rw [hidle] at hupserted
        exact hupserted
      others := h.others
      seen := hseen
      unseen := hunseenOthers
      readable := hreadable
      memberships := h.memberships
      links := h.links
      changed := by
        intro identifier
        rw [hchanged identifier]
        simp only [hsame, ne_eq, not_true_eq_false, and_false, or_false]
        exact h.changed identifier }
  · exact {
      consistent := by
        rw [hwritten.tables]
        exact h.consistent.write hread hrow
      upserted := by
        rw [hwritten.tables, ReplicaTables.view_write]
        exact hupserted
      others := by
        intro other hother
        rw [hwritten.tables, ReplicaTables.write_records_of_ne hother]
        exact h.others other hother
      seen := by
        rw [hwritten.seen]
        exact hseen
      unseen := by
        rw [hwritten.seen]
        exact hunseenOthers
      readable := hreadable
      memberships := by
        rw [hwritten.tables, ReplicaTables.write_conversationParticipant]
        exact h.memberships
      links := by
        intro hkind
        rw [hwritten.tables, ReplicaTables.write_of_ne hkind]
        exact h.links hkind
      changed := by
        intro identifier
        rw [hwritten.conversations identifier, hchanged identifier]
        have hbefore := h.changed identifier
        have hwrite : identifier = kind.identifier record ∧
            state.tables.view kind (kind.identifier record) ≠ some row ↔
              identifier = kind.identifier record := and_iff_left hdiffers
        rw [hwrite, and_or_left, ← or_assoc]
        exact or_congr hbefore Iff.rfl }

/-- A ledger that is gone through leaves its records and the ones it does not name. -/
theorem reconcile_pass (hconsistent : Consistent reader start.tables)
    (h : forEachRecord archive kind (reconcileRecord reader archive observedAt kind) start =
      .ok after) : Pass reader kind start (archive.ledger kind) after := by
  have hfold := (forEachRecord_ok.mp h).1
  exact foldlM_prefix (I := Pass reader kind start)
    (fun done text state after hpass hstep => hpass.step hstep) hfold (.initial hconsistent)

/-! Links of messages -/

/-- The links after a part of the messages: the written ones are linked anew. -/
structure Relinked (reader : LedgerReader) (start : SyncState) (done : List String)
    (state : SyncState) : Prop where
  written : ∀ identifier row, Says (reader.rowOf .message) done identifier row →
    start.tables.view .message identifier ≠ some row →
      state.tables.messageArtifact[identifier]? = some (start.tables.listed (reader.links row))
  kept : ∀ identifier, (∀ row, Says (reader.rowOf .message) done identifier row →
    start.tables.view .message identifier = some row) →
      state.tables.messageArtifact[identifier]? = start.tables.messageArtifact[identifier]?

theorem Relinked.step (h : Relinked reader start done state)
    (hpass : Pass reader .message start done state) {text : String}
    (hstep : reconcileRecord reader archive observedAt .message state text = .ok after) :
    Relinked reader start (done ++ [text]) after := by
  obtain ⟨message, row, hread, -, hrow, hunseen, hcases⟩ :=
    hpass.consistent.reconcileRecord_ok hstep
  have hrowOf := LedgerReader.rowOf_eq hread hrow
  have hnew : ¬Names (reader.rowOf .message) done (EntityKind.message.identifier message) :=
    fun hnames => hunseen ((hpass.seen _).mpr (.inr hnames))
  have hstood := hpass.upserted.unnamed hnew
  rw [hstood] at hcases
  rcases hcases with ⟨hsame, rfl⟩ | ⟨hdiffers, -, -, hwritten⟩
  · constructor
    · intro identifier row' hsaid hne
      rcases (says_append hrowOf).mp hsaid with hsaid | ⟨rfl, rfl⟩
      · exact h.written identifier row' hsaid hne
      · exact absurd hsame hne
    · intro identifier hkept
      exact h.kept identifier fun row' hsaid =>
        hkept row' ((says_append hrowOf).mpr (.inl hsaid))
  · have hartifacts : state.tables.listedLinks message =
        start.tables.listed (reader.links row) := by
      rw [ReplicaTables.listedLinks_eq, LedgerReader.links_of_row hread hrow,
        ReplicaTables.listed_congr (hpass.others .artifact (by decide))]
    have hlinks : ∀ identifier, after.tables.messageArtifact[identifier]? =
        if message.canonicalId = identifier then some (start.tables.listed (reader.links row))
        else state.tables.messageArtifact[identifier]? := by
      intro identifier
      rw [hwritten.tables, ReplicaTables.write_messageArtifact]
      simp only [SyncState.marked, hartifacts]
    constructor
    · intro identifier row' hsaid hne
      rw [hlinks identifier]
      rcases (says_append hrowOf).mp hsaid with hsaid | ⟨rfl, rfl⟩
      · have hother : message.canonicalId ≠ identifier := by
          rintro rfl
          exact hnew hsaid.names
        rw [if_neg hother]
        exact h.written identifier row' hsaid hne
      · exact if_pos rfl
    · intro identifier hkept
      have hother : message.canonicalId ≠ identifier := by
        rintro rfl
        exact hdiffers (hkept row ((says_append hrowOf).mpr (.inr ⟨rfl, rfl⟩)))
      rw [hlinks identifier, if_neg hother]
      exact h.kept identifier fun row' hsaid =>
        hkept row' ((says_append hrowOf).mpr (.inl hsaid))

theorem reconcile_messages (hconsistent : Consistent reader start.tables)
    (h : forEachRecord archive .message (reconcileRecord reader archive observedAt .message) start =
      .ok after) : Relinked reader start archive.messages after := by
  have hfold := (forEachRecord_ok.mp h).1
  have hboth := foldlM_prefix
    (I := fun done state => Pass reader .message start done state ∧ Relinked reader start done state)
    (fun done text state after hI hstep => ⟨hI.1.step hstep, hI.2.step hI.1 hstep⟩) hfold
    ⟨.initial hconsistent, fun _ _ hsaid => by simp [Says] at hsaid, fun _ _ => rfl⟩
  exact hboth.2

/-! Memberships -/

/-- The memberships of the conversation a row stands for. -/
def LedgerReader.memberships (reader : LedgerReader) (row : RecordRow .conversation) :
    List ConversationMembership :=
  ((reader.read .conversation row.recordJson).toOption.map (·.memberships)).getD []

/-- The memberships after a part of the conversations: those of changed ones are listed anew. -/
structure Joined (reader : LedgerReader) (start : SyncState) (done : List String)
    (state : SyncState) : Prop where
  rest : state = { start with tables := { start.tables with
    conversationParticipant := state.tables.conversationParticipant } }
  written : ∀ identifier row, Says (reader.rowOf .conversation) done identifier row →
    identifier ∈ start.changedConversations →
      state.tables.conversationParticipant[identifier]? = some (reader.memberships row)
  kept : ∀ identifier, identifier ∉ start.changedConversations →
    state.tables.conversationParticipant[identifier]? =
      start.tables.conversationParticipant[identifier]?

theorem insertMemberships_ok {tables after : ReplicaTables} {conversation : String}
    {memberships : List ConversationMembership}
    (h : tables.insertMemberships conversation memberships = .ok after) :
    (memberships.map fun membership => (membership.participantId, membership.role)).Nodup ∧
      (∀ membership ∈ memberships,
        (tables.view .participant membership.participantId).isSome = true) ∧
      after = { tables with conversationParticipant :=
        tables.conversationParticipant.insert conversation memberships } := by
  unfold ReplicaTables.insertMemberships at h
  split at h
  · cases h
  · next hnodup =>
    split at h
    · cases h
    · next hlisted =>
      obtain rfl := Except.ok.inj h
      simp only [Bool.not_eq_true', decide_eq_false_iff_not, not_not] at hnodup
      simp only [Bool.not_eq_true', Bool.not_eq_false, List.all_eq_true,
        ExtTreeMap.contains_eq_isSome_getElem?] at hlisted
      exact ⟨hnodup, hlisted, rfl⟩

/-- Every text is readable and its record stands in the table. -/
def Standing (reader : LedgerReader) (tables : ReplicaTables) (texts : List String) : Prop :=
  ∀ text ∈ texts, ∃ identifier row, reader.rowOf .conversation text = some (identifier, row) ∧
    tables.view .conversation identifier = some row

theorem Joined.step (h : Joined reader start done state) {text : String}
    (hstanding : Standing reader start.tables (done ++ [text]))
    (hstep : reconcileMemberships reader state text = .ok after) :
    Joined reader start (done ++ [text]) after := by
  obtain ⟨conversation, hread, hstep⟩ := bind_ok.mp hstep
  obtain ⟨identifier, row, hrowOf, hrow⟩ :=
    hstanding text (List.mem_append_right _ List.mem_cons_self)
  obtain ⟨conversation', hread', hrow', rfl⟩ := LedgerReader.rowOf_some hrowOf
  obtain rfl := Except.ok.inj (hread.symm.trans hread')
  have hmemberships : reader.memberships row = conversation.memberships := by
    simp [LedgerReader.memberships, (LedgerReader.row_ok hrow').1, hread, Except.toOption]
  have hunique : ∀ row', Says (reader.rowOf .conversation) done conversation.conversationId row' →
      row' = row := by
    rintro row' ⟨other, hother, hsaid⟩
    obtain ⟨_, row'', hrowOf', hview⟩ := hstanding other (List.mem_append_left _ hother)
    rw [hsaid, Option.some.injEq, Prod.mk.injEq] at hrowOf'
    obtain ⟨rfl, rfl⟩ := hrowOf'
    exact Option.some.inj (hview.symm.trans hrow)
  have hconversations : state.changedConversations = start.changedConversations := by rw [h.rest]
  rw [hconversations] at hstep
  by_cases hchanged : conversation.conversationId ∈ start.changedConversations
  · have hcontains : start.changedConversations.contains conversation.conversationId = true :=
      hchanged
    rw [hcontains, Bool.not_true, if_neg (by decide)] at hstep
    obtain ⟨tables, htables, hstep⟩ := bind_ok.mp hstep
    obtain rfl := Except.ok.inj hstep
    obtain ⟨-, -, rfl⟩ := insertMemberships_ok htables
    constructor
    · rw [h.rest]
    · intro other row' hsaid hother
      simp only [ExtTreeMap.getElem?_insert, Std.compare_eq_iff_eq]
      rcases (says_append hrowOf).mp hsaid with hsaid | ⟨rfl, rfl⟩
      · by_cases hsame : conversation.conversationId = other
        · subst hsame
          rw [if_pos rfl, hunique row' hsaid, hmemberships]
        · rw [if_neg hsame]
          exact h.written other row' hsaid hother
      · rw [hmemberships]
        exact if_pos rfl
    · intro other hother
      have hne : conversation.conversationId ≠ other := by
        rintro rfl
        exact hother hchanged
      simp only [ExtTreeMap.getElem?_insert, Std.compare_eq_iff_eq, if_neg hne]
      exact h.kept other hother
  · have hcontains : start.changedConversations.contains conversation.conversationId = false :=
      Bool.eq_false_iff.mpr hchanged
    rw [hcontains, Bool.not_false, if_pos rfl] at hstep
    obtain rfl := Except.ok.inj hstep
    refine ⟨h.rest, ?_, h.kept⟩
    intro other row' hsaid hother
    rcases (says_append hrowOf).mp hsaid with hsaid | ⟨rfl, rfl⟩
    · exact h.written other row' hsaid hother
    · exact absurd hother hchanged

theorem reconcile_memberships (hstanding : Standing reader start.tables archive.conversations)
    (h : forEachRecord archive .conversation (reconcileMemberships reader) start = .ok after) :
    Joined reader start archive.conversations after := by
  have hfold := (forEachRecord_ok.mp h).1
  have hinitial : Standing reader start.tables [] → Joined reader start [] start := fun _ =>
    ⟨rfl, fun _ _ hsaid => by simp [Says] at hsaid, fun _ _ => rfl⟩
  refine foldlM_prefix
    (I := fun done state => Standing reader start.tables done → Joined reader start done state)
    ?_ hfold hinitial hstanding
  intro done text state after hI hstep hdone
  exact (hI fun other hother => hdone other (List.mem_append_left _ hother)).step hdone hstep

end Passes

end GreenBubbles.Sync
