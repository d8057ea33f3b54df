import GreenBubbles.Audit.Accounting
import GreenBubbles.Audit.Entities

/-! # References of a merged archive

A merge of two audited archives keeps every reference between messages,
conversations, participants and artifacts closed, except for the roles of an
artifact record that a fragment replaces.
-/
namespace GreenBubbles.Audit

open Std Archive Merge Library.Ordered

/-- What an archive that passes the audit has passed of the reference checks. -/
structure AuditedReferences (sha256 : List UInt8 → String)
    (decodeBase64 : String → Option (List UInt8)) (archive : RestorationArchive) : Prop where
  tables : verifyTables archive.coverage.formatVersion [] archive.coverage.allTables = .ok ()
  entities : verifyEntities sha256 decodeBase64 archive.conversations archive.participants
    archive.report archive.coverage = .ok ()
  messages : archive.messages.forM (verifyMessageIdentity sha256 decodeBase64 archive.report) =
    .ok ()
  messageEntities :
    verifyMessageEntities archive.messages archive.conversations archive.participants = .ok ()
  artifacts : ∃ seen, archive.artifacts.foldlM verifyArtifactIdentity [] = .ok seen
  messageArtifacts : verifyMessageArtifacts archive.messages archive.artifacts = .ok ()

/-- Source identifiers that an archive digests to identities. -/
def scopedSources (archive : RestorationArchive) : List String :=
  archive.conversations.map (·.sourceIdentifierBase64) ++
    archive.participants.map (·.sourceIdentifierBase64) ++
    archive.messages.map (·.conversationSourceIdentifierBase64) ++
    archive.messages.filterMap (·.senderSourceIdentifierBase64)

/-- No source of one archive collides with a different source of the other. -/
def CollisionFree (sha256 : List UInt8 → String) (decodeBase64 : String → Option (List UInt8))
    (previous fragment : RestorationArchive) : Prop :=
  ∀ left ∈ scopedSources previous, ∀ right ∈ scopedSources fragment, ∀ bytes bytes',
    decodeBase64 left = some bytes → decodeBase64 right = some bytes' →
    scopedDigest sha256 fragment.report.accountId bytes =
      scopedDigest sha256 fragment.report.accountId bytes' → bytes = bytes'

/-- The artifact records of the fragment keep the roles that untouched previous
messages reference. -/
def RolesKept (previous fragment : RestorationArchive) : Prop :=
  ∀ message ∈ previous.messages, message.sourceSetId ∉ replacedSets fragment.report →
    ∀ reference ∈ message.artifactReferences, ∀ artifact ∈ fragment.artifacts,
      artifact.artifactId = reference.artifactId → reference.role ∈ artifactRoles artifact

/-- Every reference of an archive resolves in both directions. -/
structure ReferencesClosed (sha256 : List UInt8 → String)
    (decodeBase64 : String → Option (List UInt8)) (archive : RestorationArchive) : Prop where
  conversation : ∀ message ∈ archive.messages, ∃ conversation ∈ archive.conversations,
    conversation.conversationId = message.conversationId
  sender : ∀ message ∈ archive.messages, ∀ sender, message.senderId = some sender →
    ∃ participant ∈ archive.participants, participant.participantId = sender
  artifact : ∀ message ∈ archive.messages, ∀ reference ∈ message.artifactReferences,
    ∃ artifact ∈ archive.artifacts, artifact.artifactId = reference.artifactId
  referenced : ∀ artifact ∈ archive.artifacts, ∃ message ∈ archive.messages,
    ∃ reference ∈ message.artifactReferences, reference.artifactId = artifact.artifactId
  member : ∀ conversation ∈ archive.conversations, ∀ identifier ∈ conversation.participantIds,
    ∃ participant ∈ archive.participants, participant.participantId = identifier
  agree : ∀ conversation ∈ archive.conversations, ∀ identifier,
    identifier ∈ conversation.participantIds ↔
      identifier ∈ conversation.memberships.map (·.participantId)
  distinct : ∀ conversation ∈ archive.conversations,
    (conversation.memberships.map membershipIdentity).Nodup
  owner : ∀ conversation ∈ archive.conversations, ∀ owner,
    conversation.ownerParticipantId = some owner → owner ∈ conversation.participantIds
  linked : ∀ participant ∈ archive.participants, ∀ identifier ∈ participant.conversationIds,
    ∃ conversation ∈ archive.conversations, conversation.conversationId = identifier
  inverse : ∀ participant ∈ archive.participants, ∀ conversation ∈ archive.conversations,
    conversation.conversationId ∈ participant.conversationIds ↔
      participant.participantId ∈ conversation.participantIds
  entities : verifyEntities sha256 decodeBase64 archive.conversations archive.participants
    archive.report archive.coverage = .ok ()
  messageEntities :
    verifyMessageEntities archive.messages archive.conversations archive.participants = .ok ()
  messageArtifacts : verifyMessageArtifacts archive.messages archive.artifacts = .ok ()

section Memberships

variable {messages : List CanonicalMessage}

def Listed (conversation : CanonicalConversation) : Prop :=
  ∀ participant ∈ conversation.participantIds,
    participant ∈ conversation.memberships.map (·.participantId)

theorem Listed.normalize {conversation : CanonicalConversation} (h : Listed conversation) :
    Listed (normalizeConversation conversation) := by
  intro participant hmem
  rw [mem_memberIds_normalize]
  rw [mem_participantIds_normalize] at hmem
  cases hmem with
  | inl hlisted => exact h participant hlisted
  | inr hmember => exact hmember

theorem Listed.observeSenders {conversation : CanonicalConversation} (h : Listed conversation) :
    Listed (observeSenders messages conversation) := by
  intro participant hmem
  simp only [Merge.observeSenders, List.mem_append, List.map_append] at hmem ⊢
  cases hmem with
  | inl hlisted => exact .inl (h participant hlisted)
  | inr hobserved =>
    right
    exact List.mem_map.mpr ⟨observedMembership participant, List.mem_map_of_mem hobserved, rfl⟩

theorem mem_identities_iff {memberships : List ConversationMembership} {participant : String}
    {role : ConversationMembershipRole} :
    (participant, role) ∈ memberships.map membershipIdentity ↔
      (participant, role.rank) ∈ memberships.map membershipKey := by
  simp only [List.mem_map, membershipIdentity, membershipKey, Prod.mk.injEq,
    ConversationMembershipRole.rank_injective.eq_iff]

theorem nodup_identities {memberships : List ConversationMembership}
    (h : (memberships.map membershipKey).Nodup) :
    (memberships.map membershipIdentity).Nodup := by
  apply List.Nodup.of_map (fun identity : String × ConversationMembershipRole =>
    (identity.1, identity.2.rank))
  rw [List.map_map]
  exact h

/-- The last pass keeps a listed conversation whose senders are members in agreement. -/
theorem settle_agree {conversation : CanonicalConversation} (hlisted : Listed conversation)
    (hsenders : ∀ participant ∈ messageParticipants messages conversation.conversationId,
      participant ∈ conversation.participantIds) (participant : String) :
    participant ∈ (settleConversation messages conversation).participantIds ↔
      participant ∈ (settleConversation messages conversation).memberships.map
        (·.participantId) := by
  rw [settleConversation, mem_participantIds_normalize, mem_memberIds_normalize]
  constructor
  · rintro (hmem | hmember)
    · rw [List.mem_append] at hmem
      cases hmem with
      | inl hhere => exact hlisted participant hhere
      | inr hsender => exact hlisted participant (hsenders participant hsender)
    · exact hmember
  · exact .inr

theorem mem_settle {conversation : CanonicalConversation} {participant : String}
    (h : participant ∈ conversation.participantIds) :
    participant ∈ (settleConversation messages conversation).participantIds := by
  rw [settleConversation, mem_participantIds_normalize]
  exact .inl (List.mem_append_left _ h)

end Memberships

section Sources

variable {α : Type} {key : α → String} {strip : α → α} {Joins : Option α → α → α → Prop}
  {sources : α → List EntitySourceRecord} {selected affected : SourceSets}
  {previous fragment : List α}

/-- How a merge of one entity treats its source records. -/
structure JoinsSources (Joins : Option α → α → α → Prop) (sources : α → List EntitySourceRecord)
    (selected affected : SourceSets) : Prop where
  selected : ∀ {found new value}, Joins found new value →
    ∀ source ∈ sources new, source.sourceSetId ∈ selected
  fresh : ∀ {new value}, Joins none new value → (sources value).Perm (sources new)
  joined : ∀ {old new value}, Joins (some old) new value → ∃ merged,
    mergeSourceRecords (sources old) (sources new) affected = .ok merged ∧
      (sources value).Perm merged

theorem joinsSources_conversation {messages : List CanonicalMessage} :
    JoinsSources (JoinsConversation messages selected affected) (·.sourceRecords) selected
      affected := by
  refine ⟨fun h => h.1, ?_, ?_⟩
  · rintro new value ⟨_, joined, hjoined, rfl⟩
    obtain rfl := Except.ok.inj hjoined
    exact perm_sourceRecords_normalize _
  · rintro old new value ⟨_, joined, hjoined, rfl⟩
    obtain ⟨source, hsource, rfl⟩ := joinConversation_some hjoined
    exact ⟨source, hsource, perm_sourceRecords_normalize _⟩

theorem joinsSources_participant :
    JoinsSources (JoinsParticipant selected affected) (·.sourceRecords) selected affected := by
  refine ⟨fun h => h.1, ?_, ?_⟩
  · rintro new value ⟨_, hjoined⟩
    obtain rfl := Except.ok.inj hjoined
    rfl
  · rintro old new value ⟨_, hjoined⟩
    obtain ⟨source, hsource, rfl⟩ := joinParticipant_some hjoined
    exact ⟨source, hsource, .refl _⟩

/-- A source record of a merged entity is an untouched previous one or the fragment's. -/
theorem origin_sources (hjoins : JoinsSources Joins sources selected affected)
    (hstrip : ∀ a, sources (strip a) = retainSourceRecords affected (sources a))
    (hkeyStrip : ∀ a, key (strip a) = key a)
    (hkey : ∀ {found new value}, Joins found new value → key value = key new) {value : α}
    (h : Origin key strip Joins previous fragment value) {source : EntitySourceRecord}
    (hsource : source ∈ sources value) :
    (source.sourceSetId ∉ affected ∧
        ∃ old ∈ previous, key old = key value ∧ source ∈ sources old) ∨
      source.sourceSetId ∈ selected ∧
        ∃ new ∈ fragment, key new = key value ∧ source ∈ sources new := by
  cases h with
  | kept old hold _ =>
    rw [hstrip, retainSourceRecords, mem_unaffected] at hsource
    exact .inl ⟨hsource.2, old, hold, (hkeyStrip old).symm, hsource.1⟩
  | fresh new _ hnew _ hvalue =>
    have hmem := (hjoins.fresh hvalue).mem_iff.mp hsource
    exact .inr ⟨hjoins.selected hvalue source hmem, new, hnew, (hkey hvalue).symm, hmem⟩
  | joined old new _ hold hnew hsame hvalue =>
    obtain ⟨merged, hmerged, hperm⟩ := hjoins.joined hvalue
    have hmem := (mergeSourceRecords_ok hmerged).1.mem_iff.mp (hperm.mem_iff.mp hsource)
    rw [List.mem_append, mem_unaffected, hstrip, retainSourceRecords, mem_unaffected] at hmem
    rw [hkey hvalue]
    cases hmem with
    | inl hkept => exact .inl ⟨hkept.2, old, hold, hsame, hkept.1.1⟩
    | inr hcurrent =>
      exact .inr ⟨hjoins.selected hvalue source hcurrent, new, hnew, rfl, hcurrent⟩

theorem origin_nodup (hjoins : JoinsSources Joins sources selected affected)
    (hstrip : ∀ a, sources (strip a) = retainSourceRecords affected (sources a))
    (hprevious : ∀ old ∈ previous, ((sources old).map entityRow).Nodup)
    (hfragment : ∀ new ∈ fragment, ((sources new).map entityRow).Nodup) {value : α}
    (h : Origin key strip Joins previous fragment value) :
    ((sources value).map entityRow).Nodup := by
  cases h with
  | kept old hold _ =>
    rw [hstrip]
    exact (List.filter_sublist.map _).nodup (hprevious old hold)
  | fresh new _ hnew _ hvalue =>
    exact ((hjoins.fresh hvalue).map _).nodup_iff.mpr (hfragment new hnew)
  | joined old new _ hold hnew hsame hvalue =>
    obtain ⟨merged, hmerged, hperm⟩ := hjoins.joined hvalue
    apply List.Nodup.of_map (fun row : EntityRow => (row.1, row.2.2.1, row.2.2.2))
    rw [List.map_map]
    exact (hperm.map _).nodup_iff.mpr (mergeSourceRecords_ok hmerged).2

end Sources

section Rows

theorem entity_of_row {conversations : List CanonicalConversation}
    {participants : List CanonicalParticipant}
    (h : ((entities conversations participants).flatMap fun entity =>
      entity.2.map entityRow).Nodup)
    {left right : (ℕ × String) × List EntitySourceRecord}
    (hleft : left ∈ entities conversations participants)
    (hright : right ∈ entities conversations participants) {row : EntityRow}
    (hrowLeft : row ∈ left.2.map entityRow) (hrowRight : row ∈ right.2.map entityRow) :
    left.1 = right.1 := by
  rw [List.nodup_flatMap] at h
  by_contra hdifferent
  have hsymm : Std.Symm (Function.onFun List.Disjoint
      fun entity : (ℕ × String) × List EntitySourceRecord => entity.2.map entityRow) :=
    ⟨fun _ _ hdisjoint _ hfirst hsecond => hdisjoint hsecond hfirst⟩
  exact h.2.forall hleft hright (fun heq => hdifferent (congrArg Prod.fst heq)) hrowLeft hrowRight

theorem nodup_entityRows {conversations : List CanonicalConversation}
    {participants : List CanonicalParticipant}
    (hkeys : ((entities conversations participants).map Prod.fst).Nodup)
    (hrows : ∀ entity ∈ entities conversations participants, (entity.2.map entityRow).Nodup)
    (hentity : ∀ left ∈ entities conversations participants,
      ∀ right ∈ entities conversations participants, ∀ row ∈ left.2.map entityRow,
        row ∈ right.2.map entityRow → left.1 = right.1) :
    ((entities conversations participants).flatMap fun entity =>
      entity.2.map entityRow).Nodup := by
  rw [List.nodup_flatMap]
  refine ⟨hrows, ?_⟩
  rw [List.Nodup, List.pairwise_map] at hkeys
  apply hkeys.imp_of_mem
  intro left right hleft hright hdifferent row hrowLeft hrowRight
  exact hdifferent (hentity left hleft right hright row hrowLeft hrowRight)

theorem nodup_entityKeys {conversations : List CanonicalConversation}
    {participants : List CanonicalParticipant}
    (hconversations : (conversations.map (·.conversationId)).Nodup)
    (hparticipants : (participants.map (·.participantId)).Nodup) :
    ((entities conversations participants).map Prod.fst).Nodup := by
  rw [entities, List.map_append, List.map_map, List.map_map, List.nodup_append']
  refine ⟨?_, ?_, ?_⟩
  · apply List.Nodup.of_map Prod.snd
    rwa [List.map_map]
  · apply List.Nodup.of_map Prod.snd
    rwa [List.map_map]
  · intro key hleft hright
    obtain ⟨conversation, _, rfl⟩ := List.mem_map.mp hleft
    obtain ⟨participant, _, hsame⟩ := List.mem_map.mp hright
    simp at hsame

end Rows

section Inputs

/-- The reference checks an audited archive has passed, as facts about its ledgers. -/
structure SoundReferences (sha256 : List UInt8 → String)
    (decodeBase64 : String → Option (List UInt8)) (accountId : String)
    (archive : RestorationArchive) : Prop where
  conversations : ∀ conversation ∈ archive.conversations, ConversationSound sha256 decodeBase64
    accountId archive.coverage.allTables (archive.participants.map (·.participantId)) conversation
  participants : ∀ participant ∈ archive.participants, ParticipantSound sha256 decodeBase64
    accountId archive.coverage.allTables archive.conversations participant
  rows : ((entities archive.conversations archive.participants).flatMap fun entity =>
    entity.2.map entityRow).Nodup
  conversationIds : (archive.conversations.map (·.conversationId)).Nodup
  identified : ∀ message ∈ archive.messages, MessageScoped sha256 decodeBase64 accountId message
  linked : ∀ message ∈ archive.messages,
    MessageLinked archive.conversations archive.participants message
  artifactIds : (archive.artifacts.map (·.artifactId)).Nodup
  roles : ∀ pair ∈ artifactReferences archive.messages, ∃ artifact ∈ archive.artifacts,
    artifact.artifactId = pair.1 ∧ pair.2 ∈ artifactRoles artifact

theorem AuditedReferences.sound {sha256 : List UInt8 → String}
    {decodeBase64 : String → Option (List UInt8)} {archive : RestorationArchive}
    (h : AuditedReferences sha256 decodeBase64 archive)
    (hconversations : (archive.conversations.map (·.conversationId)).Nodup)
    (hparticipants : (archive.participants.map (·.participantId)).Nodup) :
    SoundReferences sha256 decodeBase64 archive.report.accountId archive := by
  have htables : (archive.coverage.allTables.map tableIdentity).Nodup := by
    rw [List.Nodup, List.pairwise_map]
    exact (verifyTables_ok.mp h.tables).2.2.imp fun hdistinct => hdistinct.1
  obtain ⟨hconversation, hparticipant, hrows⟩ := (verifyEntities_ok htables).mp h.entities
  obtain ⟨seen, hseen⟩ := h.artifacts
  have hartifacts := verifyArtifactIdentities_ok hseen
  exact ⟨hconversation, hparticipant, hrows, hconversations,
    fun message hmessage => verifyMessageIdentity_scoped (forM_ok.mp h.messages message hmessage),
    (verifyMessageEntities_ok hconversations hparticipants).mp h.messageEntities, hartifacts,
    ((verifyMessageArtifacts_ok hartifacts).mp h.messageArtifacts).1⟩

/-- What a merge makes of the entity ledgers of its inputs. -/
structure MergesEntities (previous fragment merged : RestorationArchive)
    (selected affected : SourceSets) : Prop where
  replaced : ∀ sourceSet ∈ selected, sourceSet ∈ affected
  account : previous.report.accountId = merged.report.accountId ∧
    fragment.report.accountId = merged.report.accountId
  message : ∀ message ∈ merged.messages, ∃ source, unplaced message = unplaced source ∧
    (source ∈ previous.messages ∧ source.sourceSetId ∉ affected ∨ source ∈ fragment.messages)
  source : ∀ source, source ∈ previous.messages ∧ source.sourceSetId ∉ affected ∨
    source ∈ fragment.messages → ∃ message ∈ merged.messages, unplaced message = unplaced source
  tables : ∀ table, table ∈ merged.coverage.allTables ↔
    table ∈ previous.coverage.allTables ∧ table.sourceSetId ∉ affected ∨
      table ∈ fragment.coverage.allTables
  tableIds : (merged.coverage.allTables.map tableIdentity).Nodup
  conversations : mergeConversations previous.conversations fragment.conversations
    merged.messages selected affected = .ok merged.conversations
  participants : mergeParticipants previous.participants fragment.participants merged.messages
    merged.conversations selected affected = .ok merged.participants
  artifacts : ∃ kept, mergeArtifacts previous.artifacts fragment.artifacts merged.messages =
    .ok kept ∧ merged.artifacts.map (fun artifact => (artifact.artifactId, artifactRoles artifact)) =
      kept.map fun artifact => (artifact.artifactId, artifactRoles artifact)

theorem relocate_view {relocate : Relocate} (artifact relocated : CanonicalArtifact)
    (h : relocateConnectorArtifact relocate artifact = .ok relocated) :
    (relocated.artifactId, artifactRoles relocated) =
      (artifact.artifactId, artifactRoles artifact) := by
  unfold relocateConnectorArtifact at h
  obtain ⟨materialized, _, h⟩ := bind_ok.mp h
  obtain ⟨decoded, _, h⟩ := bind_ok.mp h
  obtain rfl := Except.ok.inj h
  rfl

theorem validateMergeInputs_account {previous fragment : RestorationReport}
    (h : validateMergeInputs previous fragment = .ok ()) :
    previous.accountId = fragment.accountId := by
  unfold validateMergeInputs at h
  split_ifs at h with _ haccount
  · exact not_not.mp haccount

theorem mergesEntities {environment : Environment} {previous fragment merged : RestorationArchive}
    (h : mergeIncrementalArchive environment previous fragment = .ok merged) :
    MergesEntities previous fragment merged (restoredSets fragment.report)
      (replacedSets fragment.report) := by
  obtain ⟨hunion, -, -⟩ := mergedRows_perm h
  obtain ⟨trace, htrace⟩ := mergeIncrementalArchive_ok h
  obtain ⟨hselected, haffected, -⟩ := mergeScope_sets htrace.scope
  have hledgers := mergeLedgers_ok.mp htrace.ledgers
  rw [hselected, haffected] at hledgers
  obtain ⟨-, -, hallTables, -, -, huniqueAll⟩ :=
    mergeCoverage_ok environment.sha256 hledgers.coverage
  obtain ⟨kept, hkept, hrelocated⟩ := hledgers.artifacts
  have haccount := validateMergeInputs_account htrace.inputs
  rw [htrace.merged] at hunion ⊢
  refine ⟨?_, ⟨haccount, rfl⟩, ?_, ?_, ?_, nodup_tableIdentity huniqueAll, hledgers.conversations,
    hledgers.participants, ⟨kept, hkept, mapM_ok_map relocate_view hrelocated⟩⟩
  · intro sourceSet hmem
    simp [replacedSets, hmem]
  · intro message hmessage
    obtain ⟨source, hsource, hsame⟩ :=
      List.mem_map.mp (hunion.mem_iff.mp (List.mem_map_of_mem hmessage))
    rw [mergedRows, besides, List.mem_append, mem_unaffected] at hsource
    exact ⟨source, hsame.symm, hsource⟩
  · intro source hsource
    have hlisted : source ∈ mergedRows previous fragment := by
      rw [mergedRows, besides, List.mem_append, mem_unaffected]
      exact hsource
    obtain ⟨message, hmessage, hsame⟩ :=
      List.mem_map.mp (hunion.mem_iff.mpr (List.mem_map_of_mem hlisted))
    exact ⟨message, hmessage, hsame⟩
  · intro table
    simp only [hallTables, mem_sortBy, List.mem_append, mem_unaffected]

end Inputs

section Closure

variable {sha256 : List UInt8 → String} {decodeBase64 : String → Option (List UInt8)}
  {previous fragment merged : RestorationArchive} {selected affected : SourceSets}

/-- Messages equal up to their place agree in everything the checks read. -/
structure SameReferences (left right : CanonicalMessage) : Prop where
  conversation : left.conversationId = right.conversationId
  conversationSource :
    left.conversationSourceIdentifierBase64 = right.conversationSourceIdentifierBase64
  sender : left.senderId = right.senderId
  senderSource : left.senderSourceIdentifierBase64 = right.senderSourceIdentifierBase64
  artifacts : left.artifactReferences = right.artifactReferences

theorem sameReferences {left right : CanonicalMessage} (h : unplaced left = unplaced right) :
    SameReferences left right := by
  have hconversation : (unplaced left).conversationId = (unplaced right).conversationId := by rw [h]
  have hsource : (unplaced left).conversationSourceIdentifierBase64 =
      (unplaced right).conversationSourceIdentifierBase64 := by rw [h]
  have hsender : (unplaced left).senderId = (unplaced right).senderId := by rw [h]
  have hsenderSource : (unplaced left).senderSourceIdentifierBase64 =
      (unplaced right).senderSourceIdentifierBase64 := by rw [h]
  have hartifacts : (unplaced left).artifactReferences = (unplaced right).artifactReferences := by
    rw [h]
  exact ⟨hconversation, hsource, hsender, hsenderSource, hartifacts⟩

section Tables

variable (hm : MergesEntities previous fragment merged selected affected)
include hm

theorem recordSound_previous {source : EntitySourceRecord} (hset : source.sourceSetId ∉ affected)
    (h : RecordSound decodeBase64 previous.coverage.allTables source) :
    RecordSound decodeBase64 merged.coverage.allTables source := by
  obtain ⟨table, htable, hidentity, hmatches⟩ := h.covered
  have hsame : table.sourceSetId = source.sourceSetId := congrArg Prod.fst hidentity
  exact ⟨h.named, h.columns, table, (hm.tables table).mpr (.inl ⟨htable, hsame ▸ hset⟩), hidentity,
    hmatches⟩

theorem recordSound_fragment {source : EntitySourceRecord}
    (h : RecordSound decodeBase64 fragment.coverage.allTables source) :
    RecordSound decodeBase64 merged.coverage.allTables source := by
  obtain ⟨table, htable, hidentity, hmatches⟩ := h.covered
  exact ⟨h.named, h.columns, table, (hm.tables table).mpr (.inr htable), hidentity, hmatches⟩

end Tables

variable (decodeBase64 merged) in
/-- What a merged conversation is before the last pass, next to the record it keeps. -/
structure OriginSound (base value : CanonicalConversation) : Prop where
  same : base.conversationId = value.conversationId
  account : base.accountId = value.accountId
  source : base.sourceIdentifierBase64 = value.sourceIdentifierBase64
  owner : base.ownerParticipantId = value.ownerParticipantId
  keys : ∀ key ∈ base.memberships.map membershipKey, key ∈ value.memberships.map membershipKey
  listed : Listed value
  senders : ∀ participant ∈ messageParticipants merged.messages value.conversationId,
    participant ∈ value.participantIds
  displayed : ∀ membership ∈ value.memberships,
    Decodes decodeBase64 membership.displayNameBase64

/-- Observing the senders of a listed conversation makes them members. -/
theorem originSound_observed {base value : CanonicalConversation}
    (hsame : base.conversationId = value.conversationId) (haccount : base.accountId = value.accountId)
    (hsource : base.sourceIdentifierBase64 = value.sourceIdentifierBase64)
    (howner : base.ownerParticipantId = value.ownerParticipantId)
    (hkeys : ∀ key ∈ base.memberships.map membershipKey, key ∈ value.memberships.map membershipKey)
    (hlisted : Listed value)
    (hdisplayed : ∀ membership ∈ value.memberships,
      Decodes decodeBase64 membership.displayNameBase64) :
    OriginSound decodeBase64 merged base
      (normalizeConversation (observeSenders merged.messages value)) := by
  refine ⟨hsame, haccount, hsource, howner, ?_, hlisted.observeSenders.normalize, ?_, ?_⟩
  · intro key hkey
    rw [mem_membershipKeys_normalize, observeSenders, List.map_append]
    exact List.mem_append_left _ (hkeys key hkey)
  · intro participant hsender
    rw [mem_participantIds_normalize]
    exact .inl (List.mem_append_right _ hsender)
  · intro membership hmem
    have hmem' := mem_memberships_normalize hmem
    rw [observeSenders, List.mem_append] at hmem'
    cases hmem' with
    | inl hhere => exact hdisplayed membership hhere
    | inr hobserved =>
      obtain ⟨participant, _, rfl⟩ := List.mem_map.mp hobserved
      intro text htext
      cases htext

variable (hm : MergesEntities previous fragment merged selected affected)
  (hp : SoundReferences sha256 decodeBase64 merged.report.accountId previous)
  (hf : SoundReferences sha256 decodeBase64 merged.report.accountId fragment)

include hm hp hf

/-- A sender was already listed in the conversation of the archive the message is from. -/
theorem sender_listed {participant conversation : String}
    (h : participant ∈ messageParticipants merged.messages conversation) :
    ∃ listed, (listed ∈ previous.conversations ∨ listed ∈ fragment.conversations) ∧
      listed.conversationId = conversation ∧ participant ∈ listed.participantIds := by
  obtain ⟨message, hmessage, rfl, hsender⟩ := mem_messageParticipants.mp h
  obtain ⟨source, hplaced, hsource⟩ := hm.message message hmessage
  have hsame := sameReferences hplaced
  rw [hsame.sender] at hsender
  rw [hsame.conversation]
  cases hsource with
  | inl hkept =>
    obtain ⟨listed, hlisted, hid, _, hmembers⟩ := (hp.linked source hkept.1).conversation
    exact ⟨listed, .inl hlisted, hid, hmembers participant hsender⟩
  | inr hcurrent =>
    obtain ⟨listed, hlisted, hid, _, hmembers⟩ := (hf.linked source hcurrent).conversation
    exact ⟨listed, .inr hlisted, hid, hmembers participant hsender⟩

theorem originSound {value : CanonicalConversation}
    (h : ConversationOrigin merged.messages selected affected previous.conversations
      fragment.conversations value) :
    ∃ base, (base ∈ previous.conversations ∧
        (∀ new ∈ fragment.conversations, new.conversationId ≠ base.conversationId) ∨
        base ∈ fragment.conversations) ∧ OriginSound decodeBase64 merged base value := by
  cases h with
  | kept old hold hnew =>
    have hsound := hp.conversations old hold
    refine ⟨old, .inl ⟨hold, hnew⟩, rfl, rfl, rfl, rfl, fun _ hkey => hkey, ?_, ?_,
      hsound.displayed⟩
    · intro participant hmem
      exact (hsound.agree participant).mp hmem
    · intro participant hsender
      obtain ⟨listed, hlisted, hid, hmem⟩ := sender_listed hm hp hf hsender
      cases hlisted with
      | inl hprevious =>
        have heq : listed = old :=
          List.inj_on_of_nodup_map hp.conversationIds hprevious hold hid
        exact heq ▸ hmem
      | inr hcurrent => exact absurd hid (hnew listed hcurrent)
  | fresh new _ hnew _ hvalue =>
    obtain ⟨_, joined, hjoined, rfl⟩ := hvalue
    obtain rfl := Except.ok.inj hjoined
    have hsound := hf.conversations new hnew
    refine ⟨new, .inr hnew, originSound_observed rfl rfl rfl rfl (fun _ hkey => hkey) ?_
      hsound.displayed⟩
    intro participant hmem
    exact (hsound.agree participant).mp hmem
  | joined old new _ hold hnew _ hvalue =>
    obtain ⟨_, joined, hjoined, rfl⟩ := hvalue
    obtain ⟨source, _, rfl⟩ := joinConversation_some hjoined
    have hsoundOld := hp.conversations old hold
    have hsoundNew := hf.conversations new hnew
    refine ⟨new, .inr hnew, originSound_observed rfl rfl rfl rfl ?_ ?_ ?_⟩
    · intro key hkey
      exact mem_membershipKeys_merge.mpr (.inr hkey)
    · intro participant hmem
      rw [mem_memberIds]
      simp only [mem_membershipKeys_merge]
      rw [List.mem_append] at hmem
      cases hmem with
      | inl hcurrent =>
        obtain ⟨rank, hrank⟩ := mem_memberIds.mp ((hsoundNew.agree participant).mp hcurrent)
        exact ⟨rank, .inr hrank⟩
      | inr hprevious =>
        obtain ⟨rank, hrank⟩ := mem_memberIds.mp ((hsoundOld.agree participant).mp hprevious)
        exact ⟨rank, .inl hrank⟩
    · intro membership hmem
      cases mem_mergeMemberships hmem with
      | inl hprevious => exact hsoundOld.displayed membership hprevious
      | inr hcurrent => exact hsoundNew.displayed membership hcurrent

omit hp hf in
theorem conversationIds_merged : (merged.conversations.map (·.conversationId)).Nodup :=
  (mergeConversations_ok hm.conversations).2.2.2.1.nodup

/-- Every message leads to a merged conversation that lists its sender. -/
theorem message_conversation {message : CanonicalMessage} (hmessage : message ∈ merged.messages) :
    ∃ conversation ∈ merged.conversations,
      conversation.conversationId = message.conversationId ∧
      ∀ sender, message.senderId = some sender → sender ∈ conversation.participantIds := by
  obtain ⟨_, _, hexists, _, hmem⟩ := mergeConversations_ok hm.conversations
  obtain ⟨source, hplaced, hsource⟩ := hm.message message hmessage
  have hsame := sameReferences hplaced
  have hlisted : ∃ listed, (listed ∈ previous.conversations ∨ listed ∈ fragment.conversations) ∧
      listed.conversationId = message.conversationId := by
    rw [hsame.conversation]
    cases hsource with
    | inl hkept =>
      obtain ⟨listed, hlisted, hid, _⟩ := (hp.linked source hkept.1).conversation
      exact ⟨listed, .inl hlisted, hid⟩
    | inr hcurrent =>
      obtain ⟨listed, hlisted, hid, _⟩ := (hf.linked source hcurrent).conversation
      exact ⟨listed, .inr hlisted, hid⟩
  obtain ⟨listed, hlisted, hid⟩ := hlisted
  obtain ⟨value, hvalue, hvalueId⟩ := hexists listed hlisted
  have hhere : value.conversationId = message.conversationId := hvalueId.trans hid
  refine ⟨settleConversation merged.messages value, ?_, hhere, ?_⟩
  · exact (hmem _).mpr ⟨value, hvalue, rfl, .inl ⟨message, hmessage, hhere.symm⟩⟩
  · intro sender hsender
    obtain ⟨_, _, hsound⟩ := originSound hm hp hf hvalue
    apply mem_settle
    apply hsound.senders
    exact mem_messageParticipants.mpr ⟨message, hmessage, hhere.symm, hsender⟩

/-- The references of a participant are the conversations that list it. -/
theorem mem_references {participant identifier : String} :
    (participant, identifier) ∈ participantReferences merged.conversations merged.messages ↔
      ∃ conversation ∈ merged.conversations, conversation.conversationId = identifier ∧
        participant ∈ conversation.participantIds := by
  rw [mem_participantReferences]
  constructor
  · rintro (hlisted | ⟨message, hmessage, rfl, hsender⟩)
    · exact hlisted
    · obtain ⟨conversation, hmem, hid, hsenders⟩ := message_conversation hm hp hf hmessage
      exact ⟨conversation, hmem, hid, hsenders participant hsender⟩
  · exact .inl

theorem participant_present {conversation : CanonicalConversation}
    (hconversation : conversation ∈ merged.conversations) {identifier : String}
    (hmember : identifier ∈ conversation.participantIds) :
    ∃ participant ∈ merged.participants, participant.participantId = identifier := by
  obtain ⟨_, _, _, _, hreferences, hmem⟩ := mergeParticipants_ok hm.participants
  have hreference : (identifier, conversation.conversationId) ∈
      participantReferences merged.conversations merged.messages :=
    (mem_references hm hp hf).mpr ⟨conversation, hconversation, rfl, hmember⟩
  obtain ⟨value, hvalue, hid⟩ := hreferences _ hreference
  refine ⟨_, (hmem _).mpr ⟨value, hvalue, rfl, .inr ?_⟩, hid⟩
  apply List.ne_nil_of_mem
  rw [mem_referencedConversations, hid]
  exact hreference

theorem conversation_sound {conversation : CanonicalConversation}
    (hconversation : conversation ∈ merged.conversations) :
    ConversationSound sha256 decodeBase64 merged.report.accountId merged.coverage.allTables
      (merged.participants.map (·.participantId)) conversation := by
  obtain ⟨_, _, _, _, hmem⟩ := mergeConversations_ok hm.conversations
  obtain ⟨value, hvalue, hsettled, _⟩ := (hmem conversation).mp hconversation
  obtain ⟨base, hbase, horigin⟩ := originSound hm hp hf hvalue
  have hsources : ∀ source ∈ conversation.sourceRecords,
      RecordSound decodeBase64 merged.coverage.allTables source := by
    intro source hsource
    rw [hsettled] at hsource
    have hhere := (perm_sourceRecords_normalize _).mem_iff.mp hsource
    cases origin_sources joinsSources_conversation (by intro _; rfl) (by intro _; rfl)
      JoinsConversation.id_eq hvalue hhere with
    | inl hkept =>
      obtain ⟨hset, old, hold, _, hlisted⟩ := hkept
      exact recordSound_previous hm hset ((hp.conversations old hold).sources source hlisted)
    | inr hcurrent =>
      obtain ⟨_, new, hnew, _, hlisted⟩ := hcurrent
      exact recordSound_fragment hm ((hf.conversations new hnew).sources source hlisted)
  have hbaseSound : ∃ tables participants, ConversationSound sha256 decodeBase64
      merged.report.accountId tables participants base := by
    cases hbase with
    | inl hkept => exact ⟨_, _, hp.conversations base hkept.1⟩
    | inr hcurrent => exact ⟨_, _, hf.conversations base hcurrent⟩
  obtain ⟨tables, participants, hbaseSound⟩ := hbaseSound
  have hpresent : ∀ participant ∈ conversation.participantIds,
      participant ∈ merged.participants.map (·.participantId) := by
    intro participant hmember
    obtain ⟨found, hfound, hid⟩ := participant_present hm hp hf hconversation hmember
    exact List.mem_map.mpr ⟨found, hfound, hid⟩
  rw [hsettled] at hpresent hsources ⊢
  refine ⟨?_, ?_, ?_, ?_, hsources, hpresent, ?_, settle_agree horigin.listed horigin.senders,
    nodup_identities (ascending_memberships_normalize _).nodup, ?_⟩
  · exact horigin.same ▸ hbaseSound.named
  · exact horigin.account ▸ hbaseSound.account
  · have hnodup := (ascending_participantIds_normalize { value with
      participantIds := value.participantIds ++
        messageParticipants merged.messages value.conversationId }).nodup
    rw [List.map_id] at hnodup
    exact hnodup
  · have hscoped := hbaseSound.identity
    rw [horigin.source, horigin.same] at hscoped
    exact hscoped
  · intro membership hmembership
    exact horigin.displayed membership (mem_memberships_normalize hmembership)
  · intro owner howner
    have hbaseOwner := hbaseSound.owner owner (horigin.owner.trans howner)
    rw [mem_identities_iff] at hbaseOwner ⊢
    exact mem_membershipKeys_normalize.mpr (horigin.keys _ hbaseOwner)

theorem participant_sound {participant : CanonicalParticipant}
    (hparticipant : participant ∈ merged.participants) :
    ParticipantSound sha256 decodeBase64 merged.report.accountId merged.coverage.allTables
      merged.conversations participant := by
  obtain ⟨_, _, _, _, _, hmem⟩ := mergeParticipants_ok hm.participants
  obtain ⟨value, hvalue, rfl, _⟩ := (hmem participant).mp hparticipant
  have hsources : ∀ source ∈ value.sourceRecords,
      RecordSound decodeBase64 merged.coverage.allTables source := by
    intro source hsource
    cases origin_sources joinsSources_participant (by intro _; rfl) (by intro _; rfl)
      JoinsParticipant.id_eq hvalue hsource with
    | inl hkept =>
      obtain ⟨hset, old, hold, _, hlisted⟩ := hkept
      exact recordSound_previous hm hset ((hp.participants old hold).sources source hlisted)
    | inr hcurrent =>
      obtain ⟨_, new, hnew, _, hlisted⟩ := hcurrent
      exact recordSound_fragment hm ((hf.participants new hnew).sources source hlisted)
  have hbase : ∃ base tables conversations, ParticipantSound sha256 decodeBase64
      merged.report.accountId tables conversations base ∧
        { base with
          sourceRecords := value.sourceRecords
          conversationIds := value.conversationIds } = value := by
    cases hvalue with
    | kept old hold _ => exact ⟨old, _, _, hp.participants old hold, rfl⟩
    | fresh new _ hnew _ hjoins =>
      obtain ⟨_, hjoined⟩ := hjoins
      obtain rfl := Except.ok.inj hjoined
      exact ⟨new, _, _, hf.participants new hnew, rfl⟩
    | joined old new _ _ hnew _ hjoins =>
      obtain ⟨_, hjoined⟩ := hjoins
      obtain ⟨source, _, rfl⟩ := joinParticipant_some hjoined
      exact ⟨new, _, _, hf.participants new hnew, rfl⟩
  obtain ⟨base, _, _, hsound, hsame⟩ := hbase
  rw [← hsame] at hsources ⊢
  refine ⟨hsound.named, hsound.account, nodup_referencedConversations _ _, hsound.identity,
    hsound.displayed, hsources, ?_⟩
  intro identifier hmember
  obtain ⟨conversation, hconversation, hid, hlisted⟩ :=
    (mem_references hm hp hf).mp (mem_referencedConversations.mp hmember)
  exact ⟨conversation, (find?_key (conversationIds_merged hm)).mpr ⟨hconversation, hid⟩, hlisted⟩

omit hp hf in
theorem participantIds_merged : (merged.participants.map (·.participantId)).Nodup :=
  (mergeParticipants_ok hm.participants).2.2.2.1.nodup

omit hp hf in
/-- A row of a merged entity comes from the entity of the same identity. -/
theorem row_origin {entity : (ℕ × String) × List EntitySourceRecord}
    (h : entity ∈ entities merged.conversations merged.participants) {row : EntityRow}
    (hrow : row ∈ entity.2.map entityRow) :
    (row.1 ∉ affected ∧ ∃ old ∈ entities previous.conversations previous.participants,
        old.1 = entity.1 ∧ row ∈ old.2.map entityRow) ∨
      row.1 ∈ selected ∧ ∃ new ∈ entities fragment.conversations fragment.participants,
        new.1 = entity.1 ∧ row ∈ new.2.map entityRow := by
  obtain ⟨source, hsource, rfl⟩ := List.mem_map.mp hrow
  have hconversation : ∀ {archive : RestorationArchive} {conversation : CanonicalConversation},
      conversation ∈ archive.conversations →
        ((0, conversation.conversationId), conversation.sourceRecords) ∈
          entities archive.conversations archive.participants :=
    fun hmem => List.mem_append_left _ (List.mem_map.mpr ⟨_, hmem, rfl⟩)
  have hparticipant : ∀ {archive : RestorationArchive} {participant : CanonicalParticipant},
      participant ∈ archive.participants →
        ((1, participant.participantId), participant.sourceRecords) ∈
          entities archive.conversations archive.participants :=
    fun hmem => List.mem_append_right _ (List.mem_map.mpr ⟨_, hmem, rfl⟩)
  rw [entities, List.mem_append] at h
  cases h with
  | inl hleft =>
    obtain ⟨conversation, hmem, rfl⟩ := List.mem_map.mp hleft
    obtain ⟨value, hvalue, rfl, _⟩ :=
      ((mergeConversations_ok hm.conversations).2.2.2.2 conversation).mp hmem
    have hhere := (perm_sourceRecords_normalize _).mem_iff.mp hsource
    cases origin_sources joinsSources_conversation (by intro _; rfl) (by intro _; rfl)
      JoinsConversation.id_eq hvalue hhere with
    | inl hkept =>
      obtain ⟨hset, old, hold, hid, hlisted⟩ := hkept
      exact .inl ⟨hset, _, hconversation hold, congrArg (Prod.mk 0) hid,
        List.mem_map_of_mem hlisted⟩
    | inr hcurrent =>
      obtain ⟨hset, new, hnew, hid, hlisted⟩ := hcurrent
      exact .inr ⟨hset, _, hconversation hnew, congrArg (Prod.mk 0) hid,
        List.mem_map_of_mem hlisted⟩
  | inr hright =>
    obtain ⟨participant, hmem, rfl⟩ := List.mem_map.mp hright
    obtain ⟨value, hvalue, rfl, _⟩ :=
      ((mergeParticipants_ok hm.participants).2.2.2.2.2 participant).mp hmem
    cases origin_sources joinsSources_participant (by intro _; rfl) (by intro _; rfl)
      JoinsParticipant.id_eq hvalue hsource with
    | inl hkept =>
      obtain ⟨hset, old, hold, hid, hlisted⟩ := hkept
      exact .inl ⟨hset, _, hparticipant hold, congrArg (Prod.mk 1) hid,
        List.mem_map_of_mem hlisted⟩
    | inr hcurrent =>
      obtain ⟨hset, new, hnew, hid, hlisted⟩ := hcurrent
      exact .inr ⟨hset, _, hparticipant hnew, congrArg (Prod.mk 1) hid,
        List.mem_map_of_mem hlisted⟩

theorem rows_merged : ((entities merged.conversations merged.participants).flatMap fun entity =>
    entity.2.map entityRow).Nodup := by
  have hnodup : ∀ {archive : RestorationArchive},
      SoundReferences sha256 decodeBase64 merged.report.accountId archive →
      (∀ conversation ∈ archive.conversations,
          (conversation.sourceRecords.map entityRow).Nodup) ∧
        ∀ participant ∈ archive.participants, (participant.sourceRecords.map entityRow).Nodup := by
    intro archive hsound
    have hall := (List.nodup_flatMap.mp hsound.rows).1
    constructor
    · intro conversation hmem
      exact hall _ (List.mem_append_left _ (List.mem_map.mpr ⟨conversation, hmem, rfl⟩))
    · intro participant hmem
      exact hall _ (List.mem_append_right _ (List.mem_map.mpr ⟨participant, hmem, rfl⟩))
  apply nodup_entityRows (nodup_entityKeys (conversationIds_merged hm) (participantIds_merged hm))
  · intro entity hentity
    rw [entities, List.mem_append] at hentity
    cases hentity with
    | inl hleft =>
      obtain ⟨conversation, hmem, rfl⟩ := List.mem_map.mp hleft
      obtain ⟨value, hvalue, rfl, _⟩ :=
        ((mergeConversations_ok hm.conversations).2.2.2.2 conversation).mp hmem
      have hunsettled : (value.sourceRecords.map entityRow).Nodup :=
        origin_nodup joinsSources_conversation (by intro _; rfl) (hnodup hp).1 (hnodup hf).1 hvalue
      exact ((perm_sourceRecords_normalize _).map _).nodup_iff.mpr hunsettled
    | inr hright =>
      obtain ⟨participant, hmem, rfl⟩ := List.mem_map.mp hright
      obtain ⟨value, hvalue, rfl, _⟩ :=
        ((mergeParticipants_ok hm.participants).2.2.2.2.2 participant).mp hmem
      exact origin_nodup joinsSources_participant (by intro _; rfl) (hnodup hp).2 (hnodup hf).2
        hvalue
  · intro left hleft right hright row hrowLeft hrowRight
    -- Both rows lie in one source set, so both are untouched or both are the fragment's.
    cases row_origin hm hleft hrowLeft with
    | inl hkept =>
      obtain ⟨hset, old, hold, hid, hlisted⟩ := hkept
      cases row_origin hm hright hrowRight with
      | inl hkept' =>
        obtain ⟨_, old', hold', hid', hlisted'⟩ := hkept'
        rw [← hid, ← hid', entity_of_row hp.rows hold hold' hlisted hlisted']
      | inr hcurrent => exact absurd (hm.replaced _ hcurrent.1) hset
    | inr hcurrent =>
      obtain ⟨hset, new, hnew, hid, hlisted⟩ := hcurrent
      cases row_origin hm hright hrowRight with
      | inl hkept => exact absurd (hm.replaced _ hset) hkept.1
      | inr hcurrent' =>
        obtain ⟨_, new', hnew', hid', hlisted'⟩ := hcurrent'
        rw [← hid, ← hid', entity_of_row hf.rows hnew hnew' hlisted hlisted']

omit hp hf in
theorem participant_base {participant : CanonicalParticipant}
    (h : participant ∈ merged.participants) : ∃ base,
      (base ∈ previous.participants ∧
          (∀ new ∈ fragment.participants, new.participantId ≠ base.participantId) ∨
        base ∈ fragment.participants) ∧
      base.participantId = participant.participantId ∧
      base.sourceIdentifierBase64 = participant.sourceIdentifierBase64 := by
  obtain ⟨value, hvalue, rfl, _⟩ :=
    ((mergeParticipants_ok hm.participants).2.2.2.2.2 participant).mp h
  cases hvalue with
  | kept old hold hnew => exact ⟨old, .inl ⟨hold, hnew⟩, rfl, rfl⟩
  | fresh new _ hnew _ hjoins =>
    obtain ⟨_, hjoined⟩ := hjoins
    obtain rfl := Except.ok.inj hjoined
    exact ⟨new, .inr hnew, rfl, rfl⟩
  | joined old new _ _ hnew _ hjoins =>
    obtain ⟨_, hjoined⟩ := hjoins
    obtain ⟨source, _, rfl⟩ := joinParticipant_some hjoined
    exact ⟨new, .inr hnew, rfl, rfl⟩

section Collisions

variable (hstrict : ∀ left right bytes, decodeBase64 left = some bytes →
    decodeBase64 right = some bytes → left = right)
  (hcollision : CollisionFree sha256 decodeBase64 previous fragment)
include hstrict hcollision

omit hp hf in
/-- One identity has one source in both archives. -/
theorem source_unique {left right identifier : String} (hleft : left ∈ scopedSources previous)
    (hright : right ∈ scopedSources fragment)
    (hleftScoped : Scoped sha256 decodeBase64 merged.report.accountId left identifier)
    (hrightScoped : Scoped sha256 decodeBase64 merged.report.accountId right identifier) :
    right = left := by
  obtain ⟨bytes, hbytes, _, hdigest⟩ := hleftScoped
  obtain ⟨bytes', hbytes', _, hdigest'⟩ := hrightScoped
  have heq : bytes = bytes' := by
    apply hcollision left hleft right hright bytes bytes' hbytes hbytes'
    rw [hm.account.2, hdigest, hdigest']
  exact hstrict right left bytes (heq ▸ hbytes') hbytes

theorem message_linked {message : CanonicalMessage} (hmessage : message ∈ merged.messages) :
    MessageLinked merged.conversations merged.participants message := by
  obtain ⟨source, hplaced, hsource⟩ := hm.message message hmessage
  have hsame := sameReferences hplaced
  obtain ⟨conversation, hconversation, hid, hsenders⟩ := message_conversation hm hp hf hmessage
  constructor
  · refine ⟨conversation, hconversation, hid, ?_, hsenders⟩
    obtain ⟨value, hvalue, rfl, _⟩ :=
      ((mergeConversations_ok hm.conversations).2.2.2.2 conversation).mp hconversation
    obtain ⟨base, hbase, horigin⟩ := originSound hm hp hf hvalue
    have hbaseId : base.conversationId = source.conversationId :=
      (horigin.same.trans hid).trans hsame.conversation
    suffices hsource : base.sourceIdentifierBase64 =
        source.conversationSourceIdentifierBase64 by
      rw [hsame.conversationSource, ← hsource]
      exact horigin.source.symm
    cases hsource with
    | inl hkept =>
      obtain ⟨listed, hlisted, hlistedId, hlistedSource, _⟩ :=
        (hp.linked source hkept.1).conversation
      cases hbase with
      | inl hprevious =>
        have heq : base = listed := List.inj_on_of_nodup_map hp.conversationIds hprevious.1 hlisted
          (hbaseId.trans hlistedId.symm)
        rw [heq, hlistedSource]
      | inr hcurrent =>
        have hscoped := (hf.conversations base hcurrent).identity
        rw [hbaseId] at hscoped
        apply source_unique hm hstrict hcollision _ _ (hp.identified source hkept.1).conversation
          hscoped
        · simp only [scopedSources, List.mem_append, List.mem_map]
          exact .inl (.inr ⟨source, hkept.1, rfl⟩)
        · simp only [scopedSources, List.mem_append, List.mem_map]
          exact .inl (.inl (.inl ⟨base, hcurrent, rfl⟩))
    | inr hcurrent =>
      obtain ⟨listed, hlisted, hlistedId, hlistedSource, _⟩ :=
        (hf.linked source hcurrent).conversation
      cases hbase with
      | inl hprevious =>
        exact absurd (hlistedId.trans hbaseId.symm) (hprevious.2 listed hlisted)
      | inr hbaseCurrent =>
        have heq : base = listed := List.inj_on_of_nodup_map hf.conversationIds hbaseCurrent
          hlisted (hbaseId.trans hlistedId.symm)
        rw [heq, hlistedSource]
  · intro sender hsender
    obtain ⟨participant, hparticipant, hparticipantId⟩ :=
      participant_present hm hp hf hconversation (hsenders sender hsender)
    refine ⟨participant, hparticipant, hparticipantId, ?_⟩
    obtain ⟨base, hbase, hbaseId, hbaseSource⟩ := participant_base hm hparticipant
    obtain ⟨hnodupOld, hnodupNew, _⟩ := mergeParticipants_ok hm.participants
    rw [hparticipantId] at hbaseId
    rw [hsame.sender] at hsender
    rw [← hbaseSource, hsame.senderSource]
    cases hsource with
    | inl hkept =>
      obtain ⟨listed, hlisted, hlistedId, hlistedSource⟩ :=
        (hp.linked source hkept.1).sender sender hsender
      cases hbase with
      | inl hprevious =>
        have heq : base = listed := List.inj_on_of_nodup_map hnodupOld hprevious.1 hlisted
          (hbaseId.trans hlistedId.symm)
        rw [heq, hlistedSource]
      | inr hcurrent =>
        obtain ⟨text, htext, htextScoped⟩ :=
          (hp.identified source hkept.1).sender sender hsender
        have hscoped := (hf.participants base hcurrent).identity
        rw [hbaseId] at hscoped
        rw [htext, Option.getD_some]
        apply source_unique hm hstrict hcollision _ _ htextScoped hscoped
        · simp only [scopedSources, List.mem_append, List.mem_filterMap]
          exact .inr ⟨source, hkept.1, htext⟩
        · simp only [scopedSources, List.mem_append, List.mem_map]
          exact .inl (.inl (.inr ⟨base, hcurrent, rfl⟩))
    | inr hcurrent =>
      obtain ⟨listed, hlisted, hlistedId, hlistedSource⟩ :=
        (hf.linked source hcurrent).sender sender hsender
      cases hbase with
      | inl hprevious =>
        exact absurd (hlistedId.trans hbaseId.symm) (hprevious.2 listed hlisted)
      | inr hbaseCurrent =>
        have heq : base = listed := List.inj_on_of_nodup_map hnodupNew hbaseCurrent hlisted
          (hbaseId.trans hlistedId.symm)
        rw [heq, hlistedSource]

end Collisions

omit hp in
/-- Identity and roles of the merged artifacts are those of the record that stayed. -/
theorem mem_artifacts_merged {identifier : String} {roles : List ArtifactRole} :
    (∃ artifact ∈ merged.artifacts, artifact.artifactId = identifier ∧
        artifactRoles artifact = roles) ↔
      (∃ artifact, (artifact ∈ fragment.artifacts ∨ artifact ∈ previous.artifacts ∧
          ∀ other ∈ fragment.artifacts, other.artifactId ≠ artifact.artifactId) ∧
        artifact.artifactId = identifier ∧ artifactRoles artifact = roles) ∧
        identifier ∈ referencedArtifacts merged.messages := by
  obtain ⟨kept, hkept, hview⟩ := hm.artifacts
  obtain ⟨_, _, hmem⟩ := mergeArtifacts_ok hf.artifactIds hkept
  have hleft : (∃ artifact ∈ merged.artifacts, artifact.artifactId = identifier ∧
      artifactRoles artifact = roles) ↔ (identifier, roles) ∈
        merged.artifacts.map fun artifact => (artifact.artifactId, artifactRoles artifact) := by
    simp
  rw [hleft, hview]
  simp only [List.mem_map, Prod.mk.injEq, hmem]
  constructor
  · rintro ⟨artifact, ⟨hsource, hreferenced⟩, rfl, rfl⟩
    exact ⟨⟨artifact, hsource, rfl, rfl⟩, hreferenced⟩
  · rintro ⟨⟨artifact, hsource, rfl, rfl⟩, hreferenced⟩
    exact ⟨artifact, ⟨hsource, hreferenced⟩, rfl, rfl⟩

omit hp in
theorem artifactIds_merged : (merged.artifacts.map (·.artifactId)).Nodup := by
  obtain ⟨kept, hkept, hview⟩ := hm.artifacts
  have hids := congrArg (List.map Prod.fst) hview
  simp only [List.map_map, Function.comp_def] at hids
  rw [hids]
  exact (mergeArtifacts_ok hf.artifactIds hkept).1.nodup

omit hp in
theorem artifact_present {message : CanonicalMessage} (hmessage : message ∈ merged.messages)
    {reference : MessageArtifactReference} (hreference : reference ∈ message.artifactReferences) :
    ∃ artifact ∈ merged.artifacts, artifact.artifactId = reference.artifactId := by
  obtain ⟨kept, hkept, hview⟩ := hm.artifacts
  obtain ⟨_, hpresent, _⟩ := mergeArtifacts_ok hf.artifactIds hkept
  obtain ⟨artifact, hartifact, hid⟩ := hpresent reference.artifactId
    (mem_referencedArtifacts.mpr ⟨message, hmessage, reference, hreference, rfl⟩)
  have hlisted : (artifact.artifactId, artifactRoles artifact) ∈ merged.artifacts.map
      fun artifact => (artifact.artifactId, artifactRoles artifact) := by
    rw [hview]
    exact List.mem_map.mpr ⟨artifact, hartifact, rfl⟩
  obtain ⟨found, hfound, hsame⟩ := List.mem_map.mp hlisted
  exact ⟨found, hfound, (congrArg Prod.fst hsame).trans hid⟩

omit hp in
theorem artifact_referenced {artifact : CanonicalArtifact} (h : artifact ∈ merged.artifacts) :
    ∃ message ∈ merged.messages, ∃ reference ∈ message.artifactReferences,
      reference.artifactId = artifact.artifactId :=
  mem_referencedArtifacts.mp ((mem_artifacts_merged hm hf).mp ⟨artifact, h, rfl, rfl⟩).2

/-- The artifact check accepts the merged archive exactly when the roles are kept. -/
theorem verifyMessageArtifacts_iff :
    verifyMessageArtifacts merged.messages merged.artifacts = .ok () ↔
      ∀ message ∈ previous.messages, message.sourceSetId ∉ affected →
        ∀ reference ∈ message.artifactReferences, ∀ artifact ∈ fragment.artifacts,
          artifact.artifactId = reference.artifactId →
            reference.role ∈ artifactRoles artifact := by
  rw [verifyMessageArtifacts_ok (artifactIds_merged hm hf)]
  constructor
  · rintro ⟨hroles, _⟩ message hmessage hset reference hreference artifact hartifact hid
    obtain ⟨placed, hplaced, hsame⟩ := hm.source message (.inl ⟨hmessage, hset⟩)
    have hlisted : reference ∈ placed.artifactReferences := by
      rw [(sameReferences hsame).artifacts]
      exact hreference
    have hpair : (reference.artifactId, reference.role) ∈ artifactReferences merged.messages :=
      mem_artifactReferences.mpr ⟨placed, hplaced, reference, hlisted, rfl, rfl⟩
    obtain ⟨found, hfound, hfoundId, hrole⟩ := hroles _ hpair
    obtain ⟨⟨kept, hkept, hkeptId, hkeptRoles⟩, _⟩ :=
      (mem_artifacts_merged hm hf).mp ⟨found, hfound, hfoundId, rfl⟩
    rw [← hkeptRoles] at hrole
    cases hkept with
    | inl hcurrent =>
      have heq : artifact = kept :=
        List.inj_on_of_nodup_map hf.artifactIds hartifact hcurrent (hid.trans hkeptId.symm)
      exact heq ▸ hrole
    | inr hprevious =>
      exact absurd (hid.trans hkeptId.symm) (hprevious.2 artifact hartifact)
  · intro hroles
    constructor
    · rintro ⟨identifier, role⟩ hpair
      obtain ⟨message, hmessage, reference, hreference, rfl, rfl⟩ :=
        mem_artifactReferences.mp hpair
      obtain ⟨artifact, hartifact, hid⟩ := artifact_present hm hf hmessage hreference
      refine ⟨artifact, hartifact, hid, ?_⟩
      obtain ⟨⟨kept, hkept, hkeptId, hkeptRoles⟩, _⟩ :=
        (mem_artifacts_merged hm hf).mp ⟨artifact, hartifact, hid, rfl⟩
      rw [← hkeptRoles]
      obtain ⟨source, hplaced, hsource⟩ := hm.message message hmessage
      rw [(sameReferences hplaced).artifacts] at hreference
      have hown : ∀ {archive : RestorationArchive},
          SoundReferences sha256 decodeBase64 merged.report.accountId archive →
          source ∈ archive.messages → kept ∈ archive.artifacts →
          reference.role ∈ artifactRoles kept := by
        intro archive hsound hmem hlisted
        obtain ⟨found, hfound, hfoundId, hrole⟩ := hsound.roles _
          (mem_artifactReferences.mpr ⟨source, hmem, reference, hreference, rfl, rfl⟩)
        have heq : found = kept := List.inj_on_of_nodup_map hsound.artifactIds hfound hlisted
          (hfoundId.trans hkeptId.symm)
        exact heq ▸ hrole
      cases hsource with
      | inl hkeptMessage =>
        cases hkept with
        | inl hcurrent =>
          exact hroles source hkeptMessage.1 hkeptMessage.2 reference hreference kept hcurrent hkeptId
        | inr hprevious => exact hown hp hkeptMessage.1 hprevious.1
      | inr hcurrentMessage =>
        cases hkept with
        | inl hcurrent => exact hown hf hcurrentMessage hcurrent
        | inr hprevious =>
          -- The fragment's own artifact would have replaced the previous record.
          obtain ⟨found, hfound, hfoundId, _⟩ := hf.roles _
            (mem_artifactReferences.mpr ⟨source, hcurrentMessage, reference, hreference, rfl, rfl⟩)
          exact absurd (hfoundId.trans hkeptId.symm) (hprevious.2 found hfound)
    · intro artifact hartifact
      obtain ⟨message, hmessage, reference, hreference, hid⟩ := artifact_referenced hm hf hartifact
      exact ⟨(reference.artifactId, reference.role),
        mem_artifactReferences.mpr ⟨message, hmessage, reference, hreference, rfl, rfl⟩, hid⟩

end Closure

/-- A merge of audited archives closes all references exactly when the
fragment's artifact records keep the roles untouched messages reference. -/
theorem referencesClosed_iff (environment : Environment)
    (decodeBase64 : String → Option (List UInt8)) (previous fragment merged : RestorationArchive)
    (hstrict : ∀ left right bytes, decodeBase64 left = some bytes →
      decodeBase64 right = some bytes → left = right)
    (hcollision : CollisionFree environment.sha256 decodeBase64 previous fragment)
    (hprevious : AuditedReferences environment.sha256 decodeBase64 previous)
    (hfragment : AuditedReferences environment.sha256 decodeBase64 fragment)
    (h : mergeIncrementalArchive environment previous fragment = .ok merged) :
    ReferencesClosed environment.sha256 decodeBase64 merged ↔ RolesKept previous fragment := by
  have hm := mergesEntities h
  obtain ⟨hpreviousConversations, hfragmentConversations, _⟩ := mergeConversations_ok hm.conversations
  obtain ⟨hpreviousParticipants, hfragmentParticipants, _⟩ := mergeParticipants_ok hm.participants
  have hp := hprevious.sound hpreviousConversations hpreviousParticipants
  have hf := hfragment.sound hfragmentConversations hfragmentParticipants
  rw [hm.account.1] at hp
  rw [hm.account.2] at hf
  have hartifacts := verifyMessageArtifacts_iff hm hp hf
  constructor
  · intro hclosed
    exact hartifacts.mp hclosed.messageArtifacts
  · intro hroles
    refine ⟨?_, ?_, ?_, ?_, ?_, ?_, ?_, ?_, ?_, ?_, ?_, ?_, hartifacts.mpr hroles⟩
    · intro message hmessage
      obtain ⟨conversation, hmem, hid, _⟩ := message_conversation hm hp hf hmessage
      exact ⟨conversation, hmem, hid⟩
    · intro message hmessage sender hsender
      obtain ⟨conversation, hmem, _, hsenders⟩ := message_conversation hm hp hf hmessage
      exact participant_present hm hp hf hmem (hsenders sender hsender)
    · intro message hmessage reference hreference
      exact artifact_present hm hf hmessage hreference
    · intro artifact hartifact
      exact artifact_referenced hm hf hartifact
    · intro conversation hconversation identifier hmember
      exact participant_present hm hp hf hconversation hmember
    · intro conversation hconversation
      exact (conversation_sound hm hp hf hconversation).agree
    · intro conversation hconversation
      exact (conversation_sound hm hp hf hconversation).distinct
    · intro conversation hconversation owner howner
      have hsound := conversation_sound hm hp hf hconversation
      obtain ⟨membership, hmem, hidentity⟩ := List.mem_map.mp (hsound.owner owner howner)
      have hsame : membership.participantId = owner := congrArg Prod.fst hidentity
      exact (hsound.agree owner).mpr (List.mem_map.mpr ⟨membership, hmem, hsame⟩)
    · intro participant hparticipant identifier hmember
      obtain ⟨conversation, hfound, _⟩ :=
        (participant_sound hm hp hf hparticipant).linked identifier hmember
      obtain ⟨hmem, hid⟩ := (find?_key (conversationIds_merged hm)).mp hfound
      exact ⟨conversation, hmem, hid⟩
    · intro participant hparticipant conversation hconversation
      obtain ⟨value, hvalue, rfl, _⟩ :=
        ((mergeParticipants_ok hm.participants).2.2.2.2.2 participant).mp hparticipant
      simp only [mem_referencedConversations, mem_references hm hp hf]
      constructor
      · rintro ⟨other, hother, hid, hmember⟩
        have heq : other = conversation :=
          List.inj_on_of_nodup_map (conversationIds_merged hm) hother hconversation hid
        exact heq ▸ hmember
      · intro hmember
        exact ⟨conversation, hconversation, rfl, hmember⟩
    · exact (verifyEntities_ok hm.tableIds).mpr ⟨fun _ => conversation_sound hm hp hf,
        fun _ => participant_sound hm hp hf, rows_merged hm hp hf⟩
    · exact (verifyMessageEntities_ok (conversationIds_merged hm) (participantIds_merged hm)).mpr
        fun _ => message_linked hm hp hf hstrict hcollision

/-! Two databases with one picture message each. Both messages reference one
artifact, which the fragment lists with the roles given. -/

section Samples

def sampleChat : String := "c10feee9254a6b578b24299ea639fc5ee6dd10dbd4a68b6d462b76d5a35a8b09"

def pictureProfile (paths : List String) : List UInt8 :=
  hashField (utf8 "greenbubbles-schema-profile-v1") ++ paths.flatMap fun path =>
    hashField (utf8 path) ++ hashField (utf8 "Msg_1") ++ hashField (utf8 chatSchema)

/-- The digests the samples need. -/
def pictureDigests : List (List UInt8 × String) :=
  [(utf8 "account" ++ 0 :: utf8 "chat", sampleChat),
   (pictureProfile ["message/message_0.db"], chatProfile),
   (pictureProfile ["message/message_1.db"],
    "d893cf9792a334fe1643a1feabc9a146a58db3899b0eabe0c3b7d4bf61f8441c"),
   (pictureProfile ["message/message_0.db", "message/message_1.db"],
    "b7f3ff85db4da37f4a5d1b5938be859684565a7532561e62a52553d5753d55a9")]

def pictureEnvironment : Environment where
  sha256 bytes := ((pictureDigests.find? (·.1 == bytes)).map Prod.snd).getD
    (sampleEnvironment.sha256 bytes)
  relocate := sampleEnvironment.relocate

def pictureDecoder (text : String) : Option (List UInt8) :=
  if text = "Y2hhdA==" then some (utf8 "chat") else none

def pictureArtifact (role : ArtifactRole) (roles : List ArtifactRole) : CanonicalArtifact where
  artifactId := "artifact-1"
  kind := .image
  role := role
  roles := roles
  availability := .notDownloaded
  sourceMd5 := none
  sourceLocalPath := none
  accountRelativePath := none
  sourceByteCount := none
  sourceDeviceId := none
  sourceFileId := none
  sourceModifiedSeconds := none
  sourceModifiedNanoseconds := none
  sourceSha256 := none
  detectedFormat := none
  materializedLocalPath := none
  decodedLocalPath := none
  decodedByteCount := none
  decodedSha256 := none
  decodedFormat := none
  decodeState := .notRequired
  verificationDetail := some "no local file was found"
  sourceResourceSetId := none
  sourceResourceLogicalPath := none
  sourceResourceTableId := none
  sourceResourceTableName := none
  sourceResourceRowId := none

def pictureMessage (identifier sourceSet path : String) (position : ℤ) (role : ArtifactRole) :
    CanonicalMessage where
  canonicalId := identifier
  accountId := "account"
  sourceSetId := sourceSet
  sourceLogicalPath := path
  sourceTableId := "table-1"
  sourceTableName := "Msg_1"
  sourceRowId := 1
  conversationId := sampleChat
  conversationSourceIdentifierBase64 := "Y2hhdA=="
  senderId := none
  senderSourceIdentifierBase64 := none
  localId := some 1
  serverId := some position
  sortSequence := some position
  createdAtUnix := some position
  conversationOrdinal := 0
  orderingBasis := .sortSequence
  rawType := some 3
  logicalType := some 3
  subType := some 0
  status := some 3
  direction := .unknown
  directionEvidence := .unresolved
  contentBase64 := none
  packedInfoBase64 := none
  compressionType := none
  rawColumns := ∅
  typedPayload := .decoded "\x7b\x7d"
  semanticDecodeState := .complete
  semanticGapReason := none
  relationships := []
  artifactReferences := [⟨"artifact-1", role, true⟩]

def pictureTable (sourceSet path : String) : TableSchemaCoverage :=
  { chatTable .complete with
    sourceSetId := sourceSet
    sourceLogicalPath := path
    sourceRowCount := some 1
    columns := [] }

def pictureConversation : CanonicalConversation where
  conversationId := sampleChat
  accountId := "account"
  sourceIdentifierBase64 := "Y2hhdA=="
  kind := .unresolved
  participantIds := []
  memberships := []
  ownerParticipantId := none
  entityDecodeState := .rawOnly
  sourceRecords := []

def pictureArchive (report : RestorationReport) (sourceSet path profile : String)
    (message : CanonicalMessage) (artifact : CanonicalArtifact) : RestorationArchive :=
  { emptyArchive report with
    coverage := { emptyCoverage with
      schemaProfileFingerprint := some profile
      allTables := [pictureTable sourceSet path]
      messageTables :=
        [{ sourceSetId := sourceSet
           sourceLogicalPath := path
           sourceTableId := "table-1"
           sourceTableName := "Msg_1"
           sourceRowCount := 1
           columns := []
           schemaFingerprint := some chatSchema }] }
    messages := [message]
    conversations := [pictureConversation]
    artifacts := [artifact] }

def previousPicture : RestorationArchive :=
  pictureArchive (chatArchive .complete).report "set-a" "message/message_0.db" chatProfile
    (pictureMessage "message-1" "set-a" "message/message_0.db" 100 .original)
    (pictureArtifact .original [.original])

def fragmentPicture (roles : List ArtifactRole) : RestorationArchive :=
  pictureArchive secondDatabaseFragment.report "set-b" "message/message_1.db"
    "d893cf9792a334fe1643a1feabc9a146a58db3899b0eabe0c3b7d4bf61f8441c"
    (pictureMessage "message-2" "set-b" "message/message_1.db" 200 .thumbnail)
    (pictureArtifact .thumbnail roles)

theorem pictureDecoder_strict (left right : String) (bytes : List UInt8)
    (hleft : pictureDecoder left = some bytes) (hright : pictureDecoder right = some bytes) :
    left = right := by
  unfold pictureDecoder at hleft hright
  split_ifs at hleft hright with h h'
  exact h.trans h'.symm

theorem picture_collisionFree (roles : List ArtifactRole) :
    CollisionFree pictureEnvironment.sha256 pictureDecoder previousPicture
      (fragmentPicture roles) := by
  intro left hleft right hright bytes bytes' hbytes hbytes' _
  have hsame : left = right := by
    simp only [scopedSources, previousPicture, fragmentPicture, pictureArchive, emptyArchive,
      pictureConversation, pictureMessage] at hleft hright
    simp at hleft hright
    rw [hleft, hright]
  rw [hsame, hbytes'] at hbytes
  exact (Option.some.inj hbytes).symm

theorem previousPicture_audited :
    AuditedReferences pictureEnvironment.sha256 pictureDecoder previousPicture :=
  ⟨by decide +kernel, by decide +kernel, by decide +kernel, by decide +kernel,
    ⟨["artifact-1"], by decide +kernel⟩, by decide +kernel⟩

theorem fragmentPicture_audited {roles : List ArtifactRole}
    (h : roles = [.thumbnail] ∨ roles = [.original, .thumbnail]) :
    AuditedReferences pictureEnvironment.sha256 pictureDecoder (fragmentPicture roles) := by
  rcases h with rfl | rfl
  · exact ⟨by decide +kernel, by decide +kernel, by decide +kernel, by decide +kernel,
      ⟨["artifact-1"], by decide +kernel⟩, by decide +kernel⟩
  · exact ⟨by decide +kernel, by decide +kernel, by decide +kernel, by decide +kernel,
      ⟨["artifact-1"], by decide +kernel⟩, by decide +kernel⟩

/-- A fragment that knows both roles of the artifact keeps the references closed. -/
theorem referencesClosed_of_both_roles :
    ∃ merged, mergeIncrementalArchive pictureEnvironment previousPicture
        (fragmentPicture [.original, .thumbnail]) = .ok merged ∧
      ReferencesClosed pictureEnvironment.sha256 pictureDecoder merged := by
  obtain ⟨merged, hmerged⟩ := merges_of_isOk pictureEnvironment previousPicture
    (fragmentPicture [.original, .thumbnail]) (by decide +kernel)
  refine ⟨merged, hmerged, ?_⟩
  rw [referencesClosed_iff pictureEnvironment pictureDecoder previousPicture
    (fragmentPicture [.original, .thumbnail]) merged pictureDecoder_strict
    (picture_collisionFree _) previousPicture_audited (fragmentPicture_audited (.inr rfl)) hmerged]
  unfold RolesKept
  decide +kernel

/-- A fragment that knows the artifact as a thumbnail only replaces the record
whose role the untouched message references. -/
theorem referencesClosed_fails_for_replaced_role :
    AuditedReferences pictureEnvironment.sha256 pictureDecoder previousPicture ∧
      AuditedReferences pictureEnvironment.sha256 pictureDecoder (fragmentPicture [.thumbnail]) ∧
      CollisionFree pictureEnvironment.sha256 pictureDecoder previousPicture
        (fragmentPicture [.thumbnail]) ∧
      ∃ merged, mergeIncrementalArchive pictureEnvironment previousPicture
          (fragmentPicture [.thumbnail]) = .ok merged ∧
        ¬ReferencesClosed pictureEnvironment.sha256 pictureDecoder merged := by
  refine ⟨previousPicture_audited, fragmentPicture_audited (.inl rfl), picture_collisionFree _, ?_⟩
  obtain ⟨merged, hmerged⟩ := merges_of_isOk pictureEnvironment previousPicture
    (fragmentPicture [.thumbnail]) (by decide +kernel)
  refine ⟨merged, hmerged, fun hclosed => ?_⟩
  have hrefused : (mergeIncrementalArchive pictureEnvironment previousPicture
      (fragmentPicture [.thumbnail]) >>= fun merged =>
        verifyMessageArtifacts merged.messages merged.artifacts) =
      .error (.integrity "message artifact role disagrees with the artifact ledger") := by
    decide +kernel
  rw [hmerged] at hrefused
  have haccepted := hclosed.messageArtifacts.symm.trans hrefused
  cases haccepted

end Samples

end GreenBubbles.Audit
