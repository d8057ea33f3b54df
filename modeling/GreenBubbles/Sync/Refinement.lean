import GreenBubbles.Sync.Removal

/-! # A synchronization leaves what a bootstrap would

Tables that hold an archive hold the records of its ledgers and nothing else, and
these determine all that belongs to them. A bootstrap makes such tables. A
synchronization makes the same ones, unless a message that stays as it is refers to
an artifact that the archive lists for the first time.
-/
namespace GreenBubbles.Sync

open Std Archive Library Upserts

/-- The tables hold the archive and nothing else. -/
structure Holds (reader : LedgerReader) (archive : ReplicaArchive) (tables : ReplicaTables) :
    Prop where
  consistent : Consistent reader tables
  records : ∀ kind identifier row, tables.view kind identifier = some row ↔
    Says (reader.rowOf kind) (archive.ledger kind) identifier row
  memberships : ∀ identifier, tables.conversationParticipant[identifier]? =
    (tables.view .conversation identifier).map reader.memberships
  links : ∀ identifier, tables.messageArtifact[identifier]? =
    (tables.view .message identifier).map fun row => tables.listed (reader.links row)
  cached : tables.cachedSurfaceState = archive.cached.map (·.coverage)
  coverage : tables.coverageState = some ⟨archive.report, archive.coverage⟩

/-- What the foreign keys ask of an archive. -/
structure Closed (reader : LedgerReader) (archive : ReplicaArchive) : Prop where
  members : ∀ identifier row, Says (reader.rowOf .conversation) archive.conversations identifier row →
    ∀ membership ∈ reader.memberships row,
      Names (reader.rowOf .participant) archive.participants membership.participantId
  conversations : ∀ identifier row, Says (reader.rowOf .message) archive.messages identifier row →
    Names (reader.rowOf .conversation) archive.conversations row.columns.conversationId

variable {reader : LedgerReader} {archive previous : ReplicaArchive} {observedAt : ℕ}
  {tables fresh : ReplicaTables}

theorem names_iff_stated {kind : EntityKind} {texts : List String} {identifier : String} :
    Names (reader.rowOf kind) texts identifier ↔
      ∃ row, Says (reader.rowOf kind) texts identifier row :=
  ⟨fun ⟨text, htext, row, hrow⟩ => ⟨row, text, htext, hrow⟩, fun ⟨_, hsaid⟩ => hsaid.names⟩

theorem Holds.isSome_view (h : Holds reader archive tables) {kind : EntityKind}
    {identifier : String} : (tables.view kind identifier).isSome = true ↔
      Names (reader.rowOf kind) (archive.ledger kind) identifier := by
  rw [Option.isSome_iff_exists, names_iff_stated]
  exact exists_congr fun row => h.records kind identifier row

/-- An archive is held in one way. -/
theorem Holds.unique (h : Holds reader archive tables) (h' : Holds reader archive fresh) :
    tables = fresh := by
  have hview : ∀ kind, tables.view kind = fresh.view kind := by
    intro kind
    funext identifier
    ext row
    rw [h.records, h'.records]
  have hrecords : tables.records = fresh.records := by
    funext kind
    apply ExtTreeMap.ext_getElem?
    exact fun identifier => congrFun (hview kind) identifier
  apply ReplicaTables.ext hrecords
  · apply ExtTreeMap.ext_getElem?
    intro identifier
    rw [h.memberships, h'.memberships, hview]
  · apply ExtTreeMap.ext_getElem?
    intro identifier
    rw [h.consistent.indexed, h'.consistent.indexed, hview]
  · apply ExtTreeMap.ext_getElem?
    intro identifier
    rw [h.consistent.related, h'.consistent.related, hview]
  · apply ExtTreeMap.ext_getElem?
    intro identifier
    rw [h.links, h'.links, hview, ReplicaTables.listed_congr (congrFun hrecords .artifact)]
  · rw [h.cached, h'.cached]
  · rw [h.coverage, h'.coverage]

/-! Bootstrap -/

section Import

variable {kind : EntityKind} {start after : ReplicaTables} {done : List String}

/-- The tables after a part of a ledger has been imported. -/
structure ImportPass (reader : LedgerReader) (kind : EntityKind) (start : ReplicaTables)
    (done : List String) (tables : ReplicaTables) : Prop where
  consistent : Consistent reader tables
  upserted : Upserted (reader.rowOf kind) (start.view kind) done (tables.view kind)
  others : ∀ other, other ≠ kind → tables.records other = start.records other
  readable : ∀ text ∈ done, (reader.rowOf kind text).isSome = true
  memberships : tables.conversationParticipant = start.conversationParticipant
  links : kind ≠ .message → tables.messageArtifact = start.messageArtifact

theorem ImportPass.initial (h : Consistent reader start) : ImportPass reader kind start [] start where
  consistent := h
  upserted := upserted_nil
  others _ _ := rfl
  readable _ h := by cases h
  memberships := rfl
  links _ := rfl

theorem ImportPass.unnamed (h : ImportPass reader kind start done tables) {identifier : String}
    (hnone : tables.view kind identifier = none) : ¬Names (reader.rowOf kind) done identifier := by
  intro hnames
  obtain ⟨row, hsaid⟩ := names_iff_stated.mp hnames
  have hrow := (h.upserted identifier row).mpr (.inl hsaid)
  rw [hnone] at hrow
  cases hrow

theorem ImportPass.step (h : ImportPass reader kind start done tables) {text : String}
    (hstep : importRecord reader archive kind tables text = .ok after) :
    ImportPass reader kind start (done ++ [text]) after := by
  obtain ⟨record, row, hread, -, hrow, hnone, -, rfl⟩ := h.consistent.importRecord_ok.mp hstep
  have hrowOf := LedgerReader.rowOf_eq hread hrow
  have hnew := h.unnamed hnone
  constructor
  · exact h.consistent.write hread hrow
  · rw [ReplicaTables.view_write]
    exact h.upserted.write hrowOf hnew
  · intro other hother
    rw [ReplicaTables.write_records_of_ne hother]
    exact h.others other hother
  · intro other hother
    rcases List.mem_append.mp hother with hdone | hlast
    · exact h.readable other hdone
    · rw [List.mem_singleton.mp hlast, hrowOf]
      rfl
  · rw [ReplicaTables.write_conversationParticipant]
    exact h.memberships
  · intro hkind
    rw [ReplicaTables.write_of_ne hkind]
    exact h.links hkind

theorem import_pass (hconsistent : Consistent reader start)
    (h : forEachRecord archive kind (importRecord reader archive kind) start = .ok after) :
    ImportPass reader kind start (archive.ledger kind) after := by
  have hfold := (forEachRecord_ok.mp h).1
  exact foldlM_prefix (I := ImportPass reader kind start)
    (fun done text state after hpass hstep => hpass.step hstep) hfold (.initial hconsistent)

theorem ImportPass.view_iff (h : ImportPass reader kind start done tables)
    (hempty : ∀ identifier, start.view kind identifier = none) (identifier : String)
    (row : RecordRow kind) :
    tables.view kind identifier = some row ↔ Says (reader.rowOf kind) done identifier row := by
  rw [h.upserted identifier row, hempty identifier]
  simp

/-- Imported messages are linked, and stand in conversations there are. -/
structure ImportedMessages (reader : LedgerReader) (start : ReplicaTables) (done : List String)
    (tables : ReplicaTables) : Prop where
  links : ∀ identifier row, Says (reader.rowOf .message) done identifier row →
    tables.messageArtifact[identifier]? = some (start.listed (reader.links row))
  conversations : ∀ identifier row, Says (reader.rowOf .message) done identifier row →
    (start.view .conversation row.columns.conversationId).isSome = true

theorem checkConstraints_conversation {identifier : String} {row : RecordRow .message}
    (h : tables.checkConstraints .message identifier row = .ok ()) :
    (tables.view .conversation row.columns.conversationId).isSome = true := by
  simp only [ReplicaTables.checkConstraints] at h
  split at h
  · cases h
  · split at h
    · cases h
    · next hlisted =>
      rw [Bool.not_eq_true', Bool.not_eq_false, ExtTreeMap.contains_eq_isSome_getElem?] at hlisted
      exact hlisted

theorem ImportedMessages.step (h : ImportedMessages reader start done tables)
    (hpass : ImportPass reader .message start done tables) {text : String}
    (hstep : importRecord reader archive .message tables text = .ok after) :
    ImportedMessages reader start (done ++ [text]) after := by
  obtain ⟨message, row, hread, -, hrow, hnone, hchecked, rfl⟩ :=
    hpass.consistent.importRecord_ok.mp hstep
  have hrowOf := LedgerReader.rowOf_eq hread hrow
  have hnew := hpass.unnamed hnone
  have hlisted : tables.listedLinks message = start.listed (reader.links row) := by
    rw [ReplicaTables.listedLinks_eq, LedgerReader.links_of_row hread hrow,
      ReplicaTables.listed_congr (hpass.others .artifact (by decide))]
  constructor
  · intro identifier row' hsaid
    rw [ReplicaTables.write_messageArtifact, hlisted]
    rcases (says_append hrowOf).mp hsaid with hsaid | ⟨rfl, rfl⟩
    · have hother : message.canonicalId ≠ identifier := by
        rintro rfl
        exact hnew hsaid.names
      rw [if_neg hother]
      exact h.links identifier row' hsaid
    · exact if_pos rfl
  · intro identifier row' hsaid
    rcases (says_append hrowOf).mp hsaid with hsaid | ⟨rfl, rfl⟩
    · exact h.conversations identifier row' hsaid
    · have hconversation := checkConstraints_conversation hchecked
      rwa [ReplicaTables.view, hpass.others .conversation (by decide)] at hconversation

theorem import_messages (hconsistent : Consistent reader start)
    (h : forEachRecord archive .message (importRecord reader archive .message) start = .ok after) :
    ImportedMessages reader start archive.messages after := by
  have hfold := (forEachRecord_ok.mp h).1
  have hboth := foldlM_prefix
    (I := fun done tables => ImportPass reader .message start done tables ∧
      ImportedMessages reader start done tables)
    (fun done text tables after hI hstep => ⟨hI.1.step hstep, hI.2.step hI.1 hstep⟩)
    hfold ⟨.initial hconsistent, fun _ _ hsaid => by simp [Says] at hsaid,
      fun _ _ hsaid => by simp [Says] at hsaid⟩
  exact hboth.2

/-- Imported memberships, all of participants there are. -/
structure ImportedMemberships (reader : LedgerReader) (start : ReplicaTables) (done : List String)
    (tables : ReplicaTables) : Prop where
  rest : tables = { start with conversationParticipant := tables.conversationParticipant }
  written : ∀ identifier row, Says (reader.rowOf .conversation) done identifier row →
    tables.conversationParticipant[identifier]? = some (reader.memberships row)
  kept : ∀ identifier, ¬Names (reader.rowOf .conversation) done identifier →
    tables.conversationParticipant[identifier]? = start.conversationParticipant[identifier]?
  listed : ∀ identifier row, Says (reader.rowOf .conversation) done identifier row →
    ∀ membership ∈ reader.memberships row,
      (start.view .participant membership.participantId).isSome = true

theorem ImportedMemberships.step (h : ImportedMemberships reader start done tables) {text : String}
    (hstanding : Standing reader start (done ++ [text]))
    (hstep : importMemberships reader tables text = .ok after) :
    ImportedMemberships reader start (done ++ [text]) after := by
  obtain ⟨conversation, hread, hstep⟩ := bind_ok.mp hstep
  obtain ⟨identifier, row, hrowOf, hrow⟩ :=
    hstanding text (List.mem_append_right _ List.mem_cons_self)
  obtain ⟨conversation', hread', hrow', rfl⟩ := LedgerReader.rowOf_some hrowOf
  obtain rfl := Except.ok.inj (hread.symm.trans hread')
  have hmemberships : reader.memberships row = conversation.memberships := by
    simp [LedgerReader.memberships, (LedgerReader.row_ok hrow').1, hread, Except.toOption]
  have hunique : ∀ row', Says (reader.rowOf .conversation) done conversation.conversationId row' →
      row' = row := by
    rintro row' ⟨other, hother, hsaid⟩
    obtain ⟨_, row'', hrowOf', hview⟩ := hstanding other (List.mem_append_left _ hother)
    rw [hsaid, Option.some.injEq, Prod.mk.injEq] at hrowOf'
    obtain ⟨rfl, rfl⟩ := hrowOf'
    exact Option.some.inj (hview.symm.trans hrow)
  obtain ⟨-, hlisted, rfl⟩ := insertMemberships_ok hstep
  have hparticipants : tables.view .participant = start.view .participant := by
    funext other
    rw [ReplicaTables.view, h.rest, ReplicaTables.view]
  constructor
  · rw [h.rest]
  · intro other row' hsaid
    simp only [ExtTreeMap.getElem?_insert, Std.compare_eq_iff_eq]
    rcases (says_append hrowOf).mp hsaid with hsaid | ⟨rfl, rfl⟩
    · by_cases hsame : conversation.conversationId = other
      · subst hsame
        rw [if_pos rfl, hunique row' hsaid, hmemberships]
      · rw [if_neg hsame]
        exact h.written other row' hsaid
    · rw [hmemberships]
      exact if_pos rfl
  · intro other hother
    rw [names_append hrowOf, not_or] at hother
    have hne : conversation.conversationId ≠ other := Ne.symm hother.2
    simp only [ExtTreeMap.getElem?_insert, Std.compare_eq_iff_eq, if_neg hne]
    exact h.kept other hother.1
  · intro other row' hsaid membership hmembership
    rcases (says_append hrowOf).mp hsaid with hsaid | ⟨rfl, rfl⟩
    · exact h.listed other row' hsaid membership hmembership
    · rw [← hparticipants]
      exact hlisted membership (hmemberships ▸ hmembership)

theorem import_memberships (hstanding : Standing reader start archive.conversations)
    (h : forEachRecord archive .conversation (importMemberships reader) start = .ok after) :
    ImportedMemberships reader start archive.conversations after := by
  have hfold := (forEachRecord_ok.mp h).1
  have hinitial : Standing reader start [] → ImportedMemberships reader start [] start := fun _ =>
    ⟨rfl, fun _ _ hsaid => by simp [Says] at hsaid, fun _ _ => rfl,
      fun _ _ hsaid => by simp [Says] at hsaid⟩
  refine foldlM_prefix
    (I := fun done tables => Standing reader start done → ImportedMemberships reader start done tables)
    ?_ hfold hinitial hstanding
  intro done text tables after hI hstep hdone
  exact (hI fun other hother => hdone other (List.mem_append_left _ hother)).step hdone hstep

end Import

theorem standing_of_view {texts : List String}
    (hreadable : ∀ text ∈ texts, (reader.rowOf .conversation text).isSome = true)
    (hview : ∀ identifier row, Says (reader.rowOf .conversation) texts identifier row →
      tables.view .conversation identifier = some row) : Standing reader tables texts := by
  intro text htext
  obtain ⟨⟨identifier, row⟩, hrow⟩ := Option.isSome_iff_exists.mp (hreadable text htext)
  exact ⟨identifier, row, hrow, hview identifier row ⟨text, htext, hrow⟩⟩

/-- A bootstrap leaves tables that hold its archive, which is closed. -/
theorem importArchive_holds (h : importArchive reader archive = .ok tables) :
    Holds reader archive tables ∧ Closed reader archive := by
  rw [importArchive] at h
  obtain ⟨conversations, h₁, h⟩ := bind_ok.mp h
  obtain ⟨participants, h₂, h⟩ := bind_ok.mp h
  obtain ⟨members, h₃, h⟩ := bind_ok.mp h
  obtain ⟨artifacts, h₄, h⟩ := bind_ok.mp h
  obtain ⟨messages, h₅, h⟩ := bind_ok.mp h
  obtain ⟨moments, h₆, h⟩ := bind_ok.mp h
  obtain ⟨interactions, h₇, h⟩ := bind_ok.mp h
  obtain rfl := Except.ok.inj h
  have hempty : ∀ kind identifier, ReplicaTables.empty.view kind identifier = none := by
    simp [ReplicaTables.view, ReplicaTables.empty]
  have hpass₁ := import_pass consistent_empty h₁
  have hnone₂ : ∀ kind, kind ≠ .conversation → ∀ id, conversations.view kind id = none := by
    intro kind hkind id
    rw [view_congr (hpass₁.others kind hkind), hempty]
  have hpass₂ := import_pass hpass₁.consistent h₂
  have hview₂ : participants.view .conversation = conversations.view .conversation :=
    view_congr (hpass₂.others _ (by decide))
  have hstanding : Standing reader participants archive.conversations := by
    apply standing_of_view hpass₁.readable
    intro identifier row hsaid
    rw [hview₂]
    exact (hpass₁.view_iff (hempty _) identifier row).mpr hsaid
  have hmembers := import_memberships hstanding h₃
  have hview₃ : ∀ kind, members.view kind = participants.view kind := by
    intro kind
    rw [hmembers.rest]
    rfl
  have hconsistent₃ : Consistent reader members := by
    rw [hmembers.rest]
    exact ⟨hpass₂.consistent.1, hpass₂.consistent.2, hpass₂.consistent.3, hpass₂.consistent.4⟩
  have hnone₃ : ∀ kind, kind ≠ .conversation → kind ≠ .participant →
      ∀ id, members.view kind id = none := by
    intro kind hkind hkind' id
    rw [hview₃, view_congr (hpass₂.others kind hkind'), hnone₂ kind hkind]
  have hpass₄ := import_pass hconsistent₃ h₄
  have hnone₄ : ∀ kind, kind ≠ .conversation → kind ≠ .participant → kind ≠ .artifact →
      ∀ id, artifacts.view kind id = none := by
    intro kind hkind hkind' hkind'' id
    rw [view_congr (hpass₄.others kind hkind''), hnone₃ kind hkind hkind']
  have hempty₅ := hnone₄ .message (by decide) (by decide) (by decide)
  have hpass₅ := import_pass hpass₄.consistent h₅
  have hmessages := import_messages hpass₄.consistent h₅
  have hempty₆ : ∀ id, messages.view .cachedMoment id = none := by
    intro id
    rw [view_congr (hpass₅.others _ (by decide)), hnone₄ _ (by decide) (by decide) (by decide)]
  have hpass₆ := import_pass hpass₅.consistent h₆
  have hempty₇ : ∀ id, moments.view .cachedMomentInteraction id = none := by
    intro id
    rw [view_congr (hpass₆.others _ (by decide)), view_congr (hpass₅.others _ (by decide)),
      hnone₄ _ (by decide) (by decide) (by decide)]
  have hpass₇ := import_pass hpass₆.consistent h₇
  -- What the later passes leave of the table of an earlier one.
  have hfinal : ∀ kind, (finish archive interactions).view kind = interactions.view kind :=
    fun _ => rfl
  have hmoments : interactions.view .cachedMoment = moments.view .cachedMoment :=
    view_congr (hpass₇.others _ (by decide))
  have hlate : ∀ kind, kind ≠ .cachedMoment → kind ≠ .cachedMomentInteraction →
      interactions.records kind = messages.records kind := fun kind h₆ h₇ =>
    (hpass₇.others kind h₇).trans (hpass₆.others kind h₆)
  have hartifactRecords : interactions.records .artifact = artifacts.records .artifact :=
    (hlate _ (by decide) (by decide)).trans (hpass₅.others _ (by decide))
  have hparticipants : interactions.view .participant = participants.view .participant := by
    rw [view_congr (hlate _ (by decide) (by decide)), view_congr (hpass₅.others _ (by decide)),
      view_congr (hpass₄.others _ (by decide)), hview₃]
  have hconversations : interactions.view .conversation = conversations.view .conversation := by
    rw [view_congr (hlate _ (by decide) (by decide)), view_congr (hpass₅.others _ (by decide)),
      view_congr (hpass₄.others _ (by decide)), hview₃, hview₂]
  have hmessageView : interactions.view .message = messages.view .message :=
    view_congr (hlate _ (by decide) (by decide))
  have hconsistent : Consistent reader (finish archive interactions) :=
    ⟨hpass₇.consistent.1, hpass₇.consistent.2, hpass₇.consistent.3, hpass₇.consistent.4⟩
  constructor
  · refine ⟨hconsistent, ?_, ?_, ?_, rfl, rfl⟩
    · intro kind identifier row
      rw [hfinal]
      cases kind with
      | conversation =>
        rw [hconversations]
        exact hpass₁.view_iff (hempty _) identifier row
      | participant =>
        rw [hparticipants]
        exact hpass₂.view_iff (hnone₂ _ (by decide)) identifier row
      | artifact =>
        rw [view_congr hartifactRecords]
        exact hpass₄.view_iff (hnone₃ _ (by decide) (by decide)) identifier row
      | message =>
        rw [hmessageView]
        exact hpass₅.view_iff hempty₅ identifier row
      | cachedMoment =>
        rw [hmoments]
        exact hpass₆.view_iff hempty₆ identifier row
      | cachedMomentInteraction => exact hpass₇.view_iff hempty₇ identifier row
    · intro identifier
      have hkept : (finish archive interactions).conversationParticipant =
          members.conversationParticipant :=
        hpass₇.memberships.trans (hpass₆.memberships.trans
          (hpass₅.memberships.trans hpass₄.memberships))
      rw [hkept, hfinal, hconversations]
      cases hrow : conversations.view .conversation identifier with
      | some row =>
        exact hmembers.written identifier row
          ((hpass₁.view_iff (hempty _) identifier row).mp hrow)
      | none =>
        have hunnamed := hpass₁.unnamed hrow
        rw [hmembers.kept identifier hunnamed, hpass₂.memberships, hpass₁.memberships]
        simp [ReplicaTables.empty]
    · intro identifier
      have hkept : (finish archive interactions).messageArtifact = messages.messageArtifact :=
        (hpass₇.links (by decide)).trans (hpass₆.links (by decide))
      rw [hkept, hfinal, hmessageView]
      cases hrow : messages.view .message identifier with
      | some row =>
        have hsaid := (hpass₅.view_iff hempty₅ identifier row).mp hrow
        rw [hmessages.links identifier row hsaid, Option.map_some]
        have hlisted : (finish archive interactions).listed = artifacts.listed :=
          ReplicaTables.listed_congr hartifactRecords
        rw [hlisted]
      | none =>
        have hlinked := hpass₅.consistent.linked identifier
        rw [hrow, Option.isSome_none, Option.isSome_eq_false_iff, Option.isNone_iff_eq_none] at hlinked
        rw [hlinked, Option.map_none]
  · constructor
    · intro identifier row hsaid membership hmembership
      have hlisted := hmembers.listed identifier row hsaid membership hmembership
      obtain ⟨found, hfound⟩ := Option.isSome_iff_exists.mp hlisted
      exact ((hpass₂.view_iff (hnone₂ _ (by decide)) _ found).mp hfound).names
    · intro identifier row hsaid
      obtain ⟨found, hfound⟩ :=
        Option.isSome_iff_exists.mp (hmessages.conversations identifier row hsaid)
      rw [view_congr (hpass₄.others _ (by decide)), hview₃, hview₂] at hfound
      exact ((hpass₁.view_iff (hempty _) _ found).mp hfound).names

/-! Synchronization -/

/-- A synchronization that has gone through every ledger. -/
structure GoneThrough (reader : LedgerReader) (archive : ReplicaArchive) (tables : ReplicaTables)
    (state : SyncState) : Prop where
  consistent : Consistent reader state.tables
  upserted : ∀ kind, Upserted (reader.rowOf kind) (tables.view kind) (archive.ledger kind)
    (state.tables.view kind)
  seen : ∀ kind identifier, identifier ∈ state.seen kind ↔
    Names (reader.rowOf kind) (archive.ledger kind) identifier
  memberships : ∀ identifier row,
    Says (reader.rowOf .conversation) archive.conversations identifier row →
      state.tables.conversationParticipant[identifier]? = some (reader.memberships row)
  unnamed : ∀ identifier, ¬Names (reader.rowOf .conversation) archive.conversations identifier →
    state.tables.conversationParticipant[identifier]? = tables.conversationParticipant[identifier]?
  relinked : ∀ identifier row, Says (reader.rowOf .message) archive.messages identifier row →
    tables.view .message identifier ≠ some row →
      state.tables.messageArtifact[identifier]? = some (state.tables.listed (reader.links row))
  kept : ∀ identifier, (∀ row, Says (reader.rowOf .message) archive.messages identifier row →
    tables.view .message identifier = some row) →
      state.tables.messageArtifact[identifier]? = tables.messageArtifact[identifier]?

theorem Holds.goneThrough (hprevious : Holds reader previous tables)
    {changeLog : List ReplicaChange} {state : SyncState}
    (h : reconcileLedgers reader archive observedAt (start tables changeLog) = .ok state) :
    GoneThrough reader archive tables state := by
  rw [reconcileLedgers] at h
  obtain ⟨conversations, h₁, h⟩ := bind_ok.mp h
  obtain ⟨participants, h₂, h⟩ := bind_ok.mp h
  obtain ⟨members, h₃, h⟩ := bind_ok.mp h
  obtain ⟨artifacts, h₄, h⟩ := bind_ok.mp h
  obtain ⟨messages, h₅, h⟩ := bind_ok.mp h
  obtain ⟨moments, h₆, h₇⟩ := bind_ok.mp h
  have hconsistent : Consistent reader (start tables changeLog).tables := hprevious.consistent
  have hpass₁ := reconcile_pass hconsistent h₁
  have hpass₂ := reconcile_pass hpass₁.consistent h₂
  have hstanding : Standing reader participants.tables archive.conversations := by
    apply standing_of_view hpass₁.readable
    intro identifier row hsaid
    rw [view_congr (hpass₂.others _ (by decide))]
    exact (hpass₁.upserted identifier row).mpr (.inl hsaid)
  have hjoined := reconcile_memberships hstanding h₃
  have hview₃ : ∀ kind, members.tables.records kind = participants.tables.records kind := by
    intro kind
    rw [hjoined.rest]
  have hseen₃ : members.seen = participants.seen := by rw [hjoined.rest]
  have hconsistent₃ : Consistent reader members.tables := by
    rw [hjoined.rest]
    exact ⟨hpass₂.consistent.1, hpass₂.consistent.2, hpass₂.consistent.3, hpass₂.consistent.4⟩
  have hpass₄ := reconcile_pass hconsistent₃ h₄
  have hpass₅ := reconcile_pass hpass₄.consistent h₅
  have hrelinked := reconcile_messages hpass₄.consistent h₅
  have hpass₆ := reconcile_pass hpass₅.consistent h₆
  have hpass₇ := reconcile_pass hpass₆.consistent h₇
  -- What the later passes leave of the table of an earlier one.
  have hlate : ∀ kind, kind ≠ .cachedMoment → kind ≠ .cachedMomentInteraction →
      state.tables.records kind = messages.tables.records kind := fun kind h₆ h₇ =>
    (hpass₇.others kind h₇).trans (hpass₆.others kind h₆)
  have hlateSeen : ∀ kind, kind ≠ .cachedMoment → kind ≠ .cachedMomentInteraction →
      state.seen kind = messages.seen kind := fun kind h₆ h₇ =>
    (hpass₇.unseen kind h₇).trans (hpass₆.unseen kind h₆)
  have hmiddle : ∀ kind, kind ≠ .artifact → kind ≠ .message →
      messages.tables.records kind = participants.tables.records kind := fun kind h₄ h₅ =>
    ((hpass₅.others kind h₅).trans (hpass₄.others kind h₄)).trans (hview₃ kind)
  have hmiddleSeen : ∀ kind, kind ≠ .artifact → kind ≠ .message →
      messages.seen kind = participants.seen kind := fun kind h₄ h₅ =>
    ((hpass₅.unseen kind h₅).trans (hpass₄.unseen kind h₄)).trans (congrFun hseen₃ kind)
  have hearly : ∀ kind, kind ≠ .conversation → kind ≠ .participant →
      participants.tables.records kind = tables.records kind := fun kind h₁ h₂ =>
    (hpass₂.others kind h₂).trans (hpass₁.others kind h₁)
  have hearlySeen : ∀ kind, kind ≠ .conversation → kind ≠ .participant →
      participants.seen kind = (start tables changeLog).seen kind := fun kind h₁ h₂ =>
    (hpass₂.unseen kind h₂).trans (hpass₁.unseen kind h₁)
  have hunseen : ∀ kind identifier, identifier ∉ (start tables changeLog).seen kind := by
    intro kind identifier
    exact ExtTreeSet.not_mem_empty
  have hmessagesStart : artifacts.tables.view .message = tables.view .message :=
    view_congr (((hpass₄.others _ (by decide)).trans (hview₃ _)).trans
      (hearly _ (by decide) (by decide)))
  have hlateMemberships : state.tables.conversationParticipant =
      members.tables.conversationParticipant :=
    hpass₇.memberships.trans (hpass₆.memberships.trans (hpass₅.memberships.trans hpass₄.memberships))
  have hlateLinks : state.tables.messageArtifact = messages.tables.messageArtifact :=
    (hpass₇.links (by decide)).trans (hpass₆.links (by decide))
  have hchangedIff : ∀ identifier, identifier ∈ participants.changedConversations ↔
      ∃ row, Says (reader.rowOf .conversation) archive.conversations identifier row ∧
        tables.view .conversation identifier ≠ some row := by
    intro identifier
    have hnone : identifier ∉ (start tables changeLog).changedConversations :=
      ExtTreeSet.not_mem_empty
    rw [hpass₂.changed identifier, hpass₁.changed identifier]
    simp only [hnone, reduceCtorEq, false_and, or_false, false_or, true_and]
    exact Iff.rfl
  constructor
  · exact hpass₇.consistent
  · intro kind
    cases kind with
    | conversation =>
      rw [view_congr (hlate _ (by decide) (by decide)), view_congr (hmiddle _ (by decide) (by decide)),
        view_congr (hpass₂.others _ (by decide))]
      exact hpass₁.upserted
    | participant =>
      rw [view_congr (hlate _ (by decide) (by decide)), view_congr (hmiddle _ (by decide) (by decide))]
      have hstart : conversations.tables.view .participant = tables.view .participant :=
        view_congr (hpass₁.others _ (by decide))
      exact hstart ▸ hpass₂.upserted
    | artifact =>
      rw [view_congr (hlate _ (by decide) (by decide)), view_congr (hpass₅.others _ (by decide))]
      have hstart : members.tables.view .artifact = tables.view .artifact :=
        view_congr ((hview₃ _).trans (hearly _ (by decide) (by decide)))
      exact hstart ▸ hpass₄.upserted
    | message =>
      rw [view_congr (hlate _ (by decide) (by decide))]
      exact hmessagesStart ▸ hpass₅.upserted
    | cachedMoment =>
      rw [view_congr (hpass₇.others _ (by decide))]
      have hstart : messages.tables.view .cachedMoment = tables.view .cachedMoment :=
        view_congr ((hmiddle _ (by decide) (by decide)).trans (hearly _ (by decide) (by decide)))
      exact hstart ▸ hpass₆.upserted
    | cachedMomentInteraction =>
      have hstart : moments.tables.view .cachedMomentInteraction =
          tables.view .cachedMomentInteraction :=
        view_congr (((hpass₆.others _ (by decide)).trans (hmiddle _ (by decide) (by decide))).trans
          (hearly _ (by decide) (by decide)))
      exact hstart ▸ hpass₇.upserted
  · intro kind identifier
    have hnew : ∀ {before : SyncState}, before.seen kind = (start tables changeLog).seen kind →
        ∀ {after : SyncState}, (identifier ∈ after.seen kind ↔ identifier ∈ before.seen kind ∨
          Names (reader.rowOf kind) (archive.ledger kind) identifier) →
            (identifier ∈ after.seen kind ↔
              Names (reader.rowOf kind) (archive.ledger kind) identifier) := by
      intro before hbefore after hafter
      rw [hafter, hbefore]
      simp only [hunseen kind identifier, false_or]
    cases kind with
    | conversation =>
      rw [hlateSeen _ (by decide) (by decide), hmiddleSeen _ (by decide) (by decide),
        hpass₂.unseen _ (by decide)]
      exact hnew rfl (hpass₁.seen identifier)
    | participant =>
      rw [hlateSeen _ (by decide) (by decide), hmiddleSeen _ (by decide) (by decide)]
      exact hnew (hpass₁.unseen _ (by decide)) (hpass₂.seen identifier)
    | artifact =>
      rw [hlateSeen _ (by decide) (by decide), hpass₅.unseen _ (by decide)]
      exact hnew ((congrFun hseen₃ _).trans (hearlySeen _ (by decide) (by decide)))
        (hpass₄.seen identifier)
    | message =>
      rw [hlateSeen _ (by decide) (by decide)]
      exact hnew (((hpass₄.unseen _ (by decide)).trans (congrFun hseen₃ _)).trans
        (hearlySeen _ (by decide) (by decide))) (hpass₅.seen identifier)
    | cachedMoment =>
      rw [hpass₇.unseen _ (by decide)]
      exact hnew ((hmiddleSeen _ (by decide) (by decide)).trans
        (hearlySeen _ (by decide) (by decide))) (hpass₆.seen identifier)
    | cachedMomentInteraction =>
      exact hnew (((hpass₆.unseen _ (by decide)).trans (hmiddleSeen _ (by decide) (by decide))).trans
        (hearlySeen _ (by decide) (by decide))) (hpass₇.seen identifier)
  · intro identifier row hsaid
    rw [hlateMemberships]
    by_cases hchanged : identifier ∈ participants.changedConversations
    · exact hjoined.written identifier row hsaid hchanged
    · have hsame : tables.view .conversation identifier = some row := by
        by_contra hdiffers
        exact hchanged ((hchangedIff identifier).mpr ⟨row, hsaid, hdiffers⟩)
      rw [hjoined.kept identifier hchanged, hpass₂.memberships, hpass₁.memberships]
      exact (hprevious.memberships identifier).trans (by rw [hsame]; rfl)
  · intro identifier hunnamed
    have hchanged : identifier ∉ participants.changedConversations := by
      intro hchanged
      obtain ⟨row, hsaid, -⟩ := (hchangedIff identifier).mp hchanged
      exact hunnamed hsaid.names
    rw [hlateMemberships, hjoined.kept identifier hchanged, hpass₂.memberships, hpass₁.memberships]
    rfl
  · intro identifier row hsaid hdiffers
    have hartifacts : state.tables.records .artifact = artifacts.tables.records .artifact :=
      (hlate _ (by decide) (by decide)).trans (hpass₅.others _ (by decide))
    rw [hlateLinks, ReplicaTables.listed_congr hartifacts]
    exact hrelinked.written identifier row hsaid (by rwa [hmessagesStart])
  · intro identifier hsame
    rw [hlateLinks, hrelinked.kept identifier (by rwa [hmessagesStart]), hpass₄.links (by decide)]
    have hrest : members.tables.messageArtifact = participants.tables.messageArtifact := by
      rw [hjoined.rest]
    rw [hrest, hpass₂.links (by decide), hpass₁.links (by decide)]
    rfl

/-- The tables after a synchronization, up to the links of messages that stay as they are. -/
structure Reconciled (reader : LedgerReader) (archive : ReplicaArchive)
    (tables after : ReplicaTables) : Prop where
  consistent : Consistent reader after
  records : ∀ kind identifier row, after.view kind identifier = some row ↔
    Says (reader.rowOf kind) (archive.ledger kind) identifier row
  memberships : ∀ identifier, after.conversationParticipant[identifier]? =
    (after.view .conversation identifier).map reader.memberships
  relinked : ∀ identifier row, Says (reader.rowOf .message) archive.messages identifier row →
    tables.view .message identifier ≠ some row →
      after.messageArtifact[identifier]? = some (after.listed (reader.links row))
  kept : ∀ identifier row, Says (reader.rowOf .message) archive.messages identifier row →
    tables.view .message identifier = some row →
      after.messageArtifact[identifier]? = some (after.listed (tables.listed (reader.links row)))
  cached : after.cachedSurfaceState = archive.cached.map (·.coverage)
  coverage : after.coverageState = some ⟨archive.report, archive.coverage⟩

section Trim

variable {middle state : SyncState}

theorem GoneThrough.view_iff (h : GoneThrough reader archive tables middle) {kind : EntityKind}
    {identifier : String} (hseen : identifier ∈ middle.seen kind) (row : RecordRow kind) :
    middle.tables.view kind identifier = some row ↔
      Says (reader.rowOf kind) (archive.ledger kind) identifier row := by
  rw [h.upserted kind identifier row]
  simp [(h.seen kind identifier).mp hseen]

theorem GoneThrough.reconciled (hgone : GoneThrough reader archive tables middle)
    (hprevious : Holds reader previous tables) (hclosed : Closed reader archive)
    (htrimmed : Trimmed reader middle state) :
    Reconciled reader archive tables (finish archive state.tables) := by
  have hrecords : ∀ kind identifier row, state.tables.view kind identifier = some row ↔
      Says (reader.rowOf kind) (archive.ledger kind) identifier row := by
    intro kind
    apply (hgone.upserted kind).retained
    · intro identifier hnamed
      rw [htrimmed.view kind identifier, if_pos ((hgone.seen kind identifier).mpr hnamed)]
    · intro identifier hunnamed
      rw [htrimmed.view kind identifier, if_neg (fun hseen => hunnamed ((hgone.seen _ _).mp hseen))]
  have hnotGone : ∀ {kind identifier}, Names (reader.rowOf kind) (archive.ledger kind) identifier →
      identifier ∉ goneOf kind middle := fun hnames hmem =>
    (mem_goneOf.mp hmem).2 ((hgone.seen _ _).mpr hnames)
  have hmessageLinks : ∀ {identifier links},
      Names (reader.rowOf .message) archive.messages identifier →
        middle.tables.messageArtifact[identifier]? = some links →
        (∀ link ∈ links, (middle.tables.view .artifact link.artifactId).isSome = true) →
          state.tables.messageArtifact[identifier]? = some (state.tables.listed links) := by
    intro identifier links hnames hlinks hlisted
    rw [htrimmed.links identifier, hlinks, ← htrimmed.kept_links hlisted]
    simp only [ReplicaTables.keptLinks, if_neg (hnotGone hnames), Option.map_some]
  refine ⟨?_, hrecords, ?_, ?_, ?_, rfl, rfl⟩
  · exact ⟨htrimmed.consistent.1, htrimmed.consistent.2, htrimmed.consistent.3,
      htrimmed.consistent.4⟩
  · intro identifier
    change state.tables.conversationParticipant[identifier]? =
      (state.tables.view .conversation identifier).map reader.memberships
    rw [htrimmed.memberships identifier]
    by_cases hnames : Names (reader.rowOf .conversation) archive.conversations identifier
    · obtain ⟨row, hsaid⟩ := names_iff_stated.mp hnames
      have hkept : ((reader.memberships row).filter fun membership =>
          decide (membership.participantId ∉ goneOf .participant middle)) =
            reader.memberships row := by
        apply List.filter_eq_self.mpr
        intro membership hmembership
        exact decide_eq_true (hnotGone (hclosed.members identifier row hsaid membership hmembership))
      rw [hgone.memberships identifier row hsaid, (hrecords _ identifier row).mpr hsaid]
      simp only [ReplicaTables.keptMemberships, if_neg (hnotGone hnames), Option.map_some, hkept]
    · have hnone : state.tables.view .conversation identifier = none := by
        rw [htrimmed.view, if_neg (fun hseen => hnames ((hgone.seen _ _).mp hseen))]
      have hbefore := (hgone.upserted .conversation).unnamed hnames
      rw [hnone, hgone.unnamed identifier hnames, hprevious.memberships identifier, ← hbefore]
      cases hrow : middle.tables.view .conversation identifier with
      | none => simp [ReplicaTables.keptMemberships]
      | some row =>
        have hmem : identifier ∈ goneOf .conversation middle := by
          rw [mem_goneOf, hgone.seen, hrow]
          exact ⟨rfl, hnames⟩
        simp [ReplicaTables.keptMemberships, hmem]
  · intro identifier row hsaid hdiffers
    change state.tables.messageArtifact[identifier]? = _
    have hlisted : ∀ link ∈ middle.tables.listed (reader.links row),
        (middle.tables.view .artifact link.artifactId).isSome = true := fun link hlink =>
      (List.mem_filter.mp hlink).2
    rw [hmessageLinks hsaid.names (hgone.relinked identifier row hsaid hdiffers) hlisted,
      htrimmed.listed_listed]
    rfl
  · intro identifier row hsaid hsame
    change state.tables.messageArtifact[identifier]? = _
    have hunchanged : ∀ row', Says (reader.rowOf .message) archive.messages identifier row' →
        tables.view .message identifier = some row' := by
      intro row' hsaid'
      have hone := ((hgone.upserted .message) identifier row).mpr (.inl hsaid)
      have hother := ((hgone.upserted .message) identifier row').mpr (.inl hsaid')
      rw [hsame, hone.symm.trans hother]
    have hlinks : middle.tables.messageArtifact[identifier]? =
        some (tables.listed (reader.links row)) := by
      rw [hgone.kept identifier hunchanged, hprevious.links identifier, hsame, Option.map_some]
    have hlisted : ∀ link ∈ tables.listed (reader.links row),
        (middle.tables.view .artifact link.artifactId).isSome = true := by
      intro link hlink
      have hbefore := (List.mem_filter.mp hlink).2
      by_cases hnames : Names (reader.rowOf .artifact) archive.artifacts link.artifactId
      · obtain ⟨found, hfound⟩ := names_iff_stated.mp hnames
        rw [((hgone.upserted .artifact) _ found).mpr (.inl hfound)]
        rfl
      · rw [(hgone.upserted .artifact).unnamed hnames]
        exact hbefore
    rw [hmessageLinks hsaid.names hlinks hlisted]
    rfl

end Trim

/-- The messages a synchronization has seen are in conversations it has seen. -/
theorem GoneThrough.placed {middle : SyncState} (h : GoneThrough reader archive tables middle)
    (hclosed : Closed reader archive) {identifier : String} {row : RecordRow .message}
    (hseen : identifier ∈ middle.seen .message)
    (hrow : middle.tables.view .message identifier = some row) :
    row.columns.conversationId ∈ middle.seen .conversation := by
  rw [h.seen]
  exact hclosed.conversations identifier row ((h.view_iff hseen row).mp hrow)

theorem Holds.reconciled (hprevious : Holds reader previous tables) (hclosed : Closed reader archive)
    {changeLog : List ReplicaChange} {state : SyncState}
    (h : reconcileArchive reader archive observedAt tables changeLog = .ok state) :
    Reconciled reader archive tables state.tables := by
  obtain ⟨middle, hledgers, h⟩ := bind_ok.mp h
  obtain rfl := Except.ok.inj h
  have hgone := hprevious.goneThrough hledgers
  exact hgone.reconciled hprevious hclosed (removeAllMissing_induction archive observedAt
    (I := fun _ => True) hgone.consistent (fun _ _ => hgone.placed hclosed) trivial fun _ _ _ _ _ => trivial).1

/-- No message that stays as it is refers to an artifact listed for the first time. -/
def LinksKept (reader : LedgerReader) (archive : ReplicaArchive) (tables : ReplicaTables) : Prop :=
  ∀ identifier row, Says (reader.rowOf .message) archive.messages identifier row →
    tables.view .message identifier = some row → ∀ link ∈ reader.links row,
      Names (reader.rowOf .artifact) archive.artifacts link.artifactId →
        (tables.view .artifact link.artifactId).isSome = true

theorem listed_listed_eq_iff {after : ReplicaTables} {links : List ArtifactLinkRow} :
    after.listed (tables.listed links) = after.listed links ↔ ∀ link ∈ links,
      (after.view .artifact link.artifactId).isSome = true →
        (tables.view .artifact link.artifactId).isSome = true := by
  simp only [ReplicaTables.listed, List.filter_filter]
  constructor
  · intro h link hlink hafter
    have hmem : link ∈ links.filter fun link => (after.view .artifact link.artifactId).isSome :=
      List.mem_filter.mpr ⟨hlink, hafter⟩
    rw [← h] at hmem
    exact (Bool.and_eq_true_iff.mp (List.mem_filter.mp hmem).2).2
  · intro h
    apply List.filter_congr
    intro link hlink
    cases hafter : (after.view .artifact link.artifactId).isSome with
    | false => rfl
    | true => exact h link hlink hafter

theorem Reconciled.holds_iff {after : ReplicaTables}
    (h : Reconciled reader archive tables after) :
    Holds reader archive after ↔ LinksKept reader archive tables := by
  have hartifact : ∀ identifier, (after.view .artifact identifier).isSome = true ↔
      Names (reader.rowOf .artifact) archive.artifacts identifier := by
    intro identifier
    rw [Option.isSome_iff_exists, names_iff_stated]
    exact exists_congr fun row => h.records .artifact identifier row
  constructor
  · intro hholds identifier row hsaid hsame link hlink hnames
    have hlinks := hholds.links identifier
    rw [h.kept identifier row hsaid hsame, (h.records _ identifier row).mpr hsaid, Option.map_some,
      Option.some.injEq, listed_listed_eq_iff] at hlinks
    exact hlinks link hlink ((hartifact _).mpr hnames)
  · intro hkept
    refine ⟨h.consistent, h.records, h.memberships, ?_, h.cached, h.coverage⟩
    intro identifier
    cases hrow : after.view .message identifier with
    | none =>
      have hlinked := h.consistent.linked identifier
      rw [hrow, Option.isSome_none, Option.isSome_eq_false_iff, Option.isNone_iff_eq_none] at hlinked
      rw [hlinked, Option.map_none]
    | some row =>
      have hsaid := (h.records _ identifier row).mp hrow
      rw [Option.map_some]
      by_cases hsame : tables.view .message identifier = some row
      · rw [h.kept identifier row hsaid hsame, listed_listed_eq_iff.mpr]
        exact fun link hlink hlisted =>
          hkept identifier row hsaid hsame link hlink ((hartifact _).mp hlisted)
      · exact h.relinked identifier row hsaid hsame

/-- A synchronization of an archive that can be bootstrapped. -/
theorem Holds.reconciled_eq_iff (hprevious : Holds reader previous tables)
    (himport : importArchive reader archive = .ok fresh) {changeLog : List ReplicaChange}
    {state : SyncState}
    (h : reconcileArchive reader archive observedAt tables changeLog = .ok state) :
    state.tables = fresh ↔ LinksKept reader archive tables := by
  obtain ⟨hfresh, hclosed⟩ := importArchive_holds himport
  rw [← (hprevious.reconciled hclosed h).holds_iff]
  constructor
  · rintro rfl
    exact hfresh
  · exact fun hholds => hholds.unique hfresh

def sampleConversation : CanonicalConversation where
  conversationId := "c"
  accountId := "account"
  sourceIdentifierBase64 := "Yw=="
  kind := .direct
  participantIds := []
  memberships := []
  ownerParticipantId := none
  entityDecodeState := .complete
  sourceRecords := []

def sampleText : String :=
  "\x7b\"conversationId\":\"c\",\"accountId\":\"account\",\"sourceIdentifierBase64\":\"Yw==\"," ++
    "\"kind\":\"direct\",\"participantIds\":[],\"memberships\":[],\"ownerParticipantId\":null," ++
    "\"entityDecodeState\":\"complete\",\"sourceRecords\":[]\x7d"

/-- The sample text is the only one it is given. -/
def sampleReader : LedgerReader where
  read kind _ := match kind with
    | .conversation => .ok sampleConversation
    | _ => .error (.json "missing field")
  payload _ := .null

def sampleCoverage : RestorationCoverage where
  formatVersion := 4
  decoderName := "greenbubbles"
  decoderVersion := "0.10.0"
  snapshotManifestFormatVersion := 4
  schemaProfileFingerprint := none
  messageTables := []
  allTables := []
  logicalTypeCounts := ∅
  logicalSubTypeCounts := ∅
  unknownPayloadReasonCounts := ∅
  semanticGapReasonCounts := ∅

def sampleReport (fingerprint : String) (conversationCount : ℕ) : RestorationReport where
  formatVersion := 4
  accountId := "account"
  selfParticipantId := none
  accountBindingEvidence := none
  sourceFingerprint := fingerprint
  productionCompatible := true
  acquisition := none
  archiveScope := .authoritative
  databaseCoverage := none
  mediaPhase := .resolved
  integrity := { RestorationIntegrity.empty with conversationCount }
  completion := .evaluate .empty

def sampleArchive (fingerprint : String) (conversations : List String) : ReplicaArchive where
  report := sampleReport fingerprint conversations.length
  coverage := sampleCoverage
  conversations
  participants := []
  artifacts := []
  messages := []
  cached := none
  artifactVerdict _ := .ok ()

/-- The tables a bootstrap leaves, if it goes through. -/
def bootstrapped (archive : ReplicaArchive) : ReplicaTables :=
  (importArchive sampleReader archive).toOption.getD .empty

end GreenBubbles.Sync
