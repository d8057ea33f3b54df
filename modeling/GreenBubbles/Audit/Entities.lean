import GreenBubbles.Audit.Coverage
import GreenBubbles.Merge.Entities

/-! # Auditing entities and artifacts

The auditor's checks that identities are scoped to the account, that entity
records agree with the tables they came from and that conversations,
participants, messages and artifacts reference one another both ways. The
digest and the strict base64 decoder are parameters.
-/
namespace GreenBubbles.Audit

open Std Archive Merge Library.Ordered

variable (sha256 : List UInt8 → String) (decodeBase64 : String → Option (List UInt8))

def malformedBase64 : String := "archive contains a malformed source-preserving base64 field"

def validateBase64 (value : String) : Except RestoreError Unit :=
  require (decodeBase64 value).isSome malformedBase64

def validateOptionalBase64 (value : Option String) : Except RestoreError Unit :=
  match value with
  | none => .ok ()
  | some value => validateBase64 decodeBase64 value

def scopedDigest (accountId : String) (bytes : List UInt8) : String :=
  sha256 (utf8 accountId ++ 0 :: bytes)

def validateScopedIdentifier (accountId : String) (source identifier : Option String)
    (kind : String) : Except RestoreError Unit :=
  match source, identifier with
  | none, none => .ok ()
  | some source, some identifier =>
    match decodeBase64 source with
    | none => .error (.integrity malformedBase64)
    | some bytes => do
      require (!bytes.isEmpty) (kind ++ " source identifier is empty")
      require (scopedDigest sha256 accountId bytes == identifier)
        (kind ++ " identity is not account-scoped and source-deterministic")
  | _, _ => .error (.integrity (kind ++ " identity and source evidence are incomplete"))

def validateRawValue (value : RawSQLiteValue) : Except RestoreError Unit :=
  match value with
  | .textBase64 value | .blobBase64 value => validateBase64 decodeBase64 value
  | .null | .integer _ | .real _ => .ok ()

def validateRawColumns (columns : ExtTreeMap String RawSQLiteValue) : Except RestoreError Unit :=
  (records columns).forM (validateRawValue decodeBase64)

abbrev EntityRow := String × String × String × ℤ

def entityRow (source : EntitySourceRecord) : EntityRow :=
  (source.sourceSetId, source.sourceLogicalPath, source.sourceTableId, source.sourceRowId)

def recordTable (source : EntitySourceRecord) : TableIdentity :=
  (source.sourceSetId, source.sourceLogicalPath, source.sourceTableId)

def recordNamesItself (source : EntitySourceRecord) : Bool :=
  !source.sourceSetId.isEmpty && !source.sourceLogicalPath.isEmpty &&
    !source.sourceTableId.isEmpty && !source.sourceTableName.isEmpty

def nameSet (names : List String) : ExtTreeSet String := .ofList names

def matchesTable (source : EntitySourceRecord) (table : TableSchemaCoverage) : Bool :=
  source.sourceTableName == table.sourceTableName &&
    nameSet source.rawColumns.keys == nameSet table.columns

/-- Checks one record and adds its row to those already seen. -/
def validateEntitySourceRecord (tables : List TableSchemaCoverage) (seen : List EntityRow)
    (source : EntitySourceRecord) : Except RestoreError (List EntityRow) := do
  require (recordNamesItself source && !seen.contains (entityRow source))
    "entity source record has missing or duplicate provenance"
  validateRawColumns decodeBase64 source.rawColumns
  match tables.reverse.find? (tableIdentity · == recordTable source) with
  | none => throw (.integrity "entity source record is absent from table coverage")
  | some table =>
    require (matchesTable source table) "entity source record disagrees with its covered table"
    return seen ++ [entityRow source]

def validateMembership (participants : List String) (conversation : CanonicalConversation)
    (membership : ConversationMembership) : Except RestoreError Unit := do
  validateOptionalBase64 decodeBase64 membership.displayNameBase64
  require (participants.contains membership.participantId &&
      conversation.participantIds.contains membership.participantId)
    "conversation membership is not bidirectionally valid"

def membershipIdentity (membership : ConversationMembership) :
    String × ConversationMembershipRole :=
  (membership.participantId, membership.role)

def membersAgree (conversation : CanonicalConversation) : Bool :=
  nameSet conversation.participantIds == nameSet (conversation.memberships.map (·.participantId)) &&
    decide (conversation.memberships.map membershipIdentity).Nodup

def ownerHasMembership (conversation : CanonicalConversation) (owner : String) : Bool :=
  conversation.memberships.any fun membership =>
    membership.participantId == owner && membership.role == .owner

def verifyConversation (accountId : String) (tables : List TableSchemaCoverage)
    (participants : List String) (seen : List EntityRow) (conversation : CanonicalConversation) :
    Except RestoreError (List EntityRow) := do
  require (!conversation.conversationId.isEmpty && conversation.accountId == accountId &&
      decide conversation.participantIds.Nodup)
    "conversation entity is invalid or contains duplicate members"
  validateBase64 decodeBase64 conversation.sourceIdentifierBase64
  validateScopedIdentifier sha256 decodeBase64 accountId
    (some conversation.sourceIdentifierBase64) (some conversation.conversationId) "conversation"
  let seen ← conversation.sourceRecords.foldlM (validateEntitySourceRecord decodeBase64 tables) seen
  conversation.participantIds.forM fun participant =>
    require (participants.contains participant) "conversation references an absent participant"
  conversation.memberships.forM (validateMembership decodeBase64 participants conversation)
  require (membersAgree conversation) "conversation participant and membership lists disagree"
  require (conversation.ownerParticipantId.all (conversation.participantIds.contains ·))
    "conversation owner is absent from its participant list"
  require (conversation.ownerParticipantId.all (ownerHasMembership conversation))
    "conversation owner lacks an owner membership"
  return seen

def verifyParticipantLink (conversations : List CanonicalConversation) (participant : String)
    (conversation : String) : Except RestoreError Unit :=
  match conversations.find? (·.conversationId == conversation) with
  | none => .error (.integrity "participant references an absent conversation")
  | some found =>
    require (found.participantIds.contains participant)
      "participant relationship is not bidirectional"

def verifyParticipant (accountId : String) (tables : List TableSchemaCoverage)
    (conversations : List CanonicalConversation) (seen : List EntityRow)
    (participant : CanonicalParticipant) : Except RestoreError (List EntityRow) := do
  require (!participant.participantId.isEmpty && participant.accountId == accountId &&
      decide participant.conversationIds.Nodup)
    "participant entity is invalid or has duplicate conversations"
  validateBase64 decodeBase64 participant.sourceIdentifierBase64
  validateScopedIdentifier sha256 decodeBase64 accountId
    (some participant.sourceIdentifierBase64) (some participant.participantId) "participant"
  validateOptionalBase64 decodeBase64 participant.aliasBase64
  validateOptionalBase64 decodeBase64 participant.remarkBase64
  validateOptionalBase64 decodeBase64 participant.nicknameBase64
  validateOptionalBase64 decodeBase64 participant.displayNameBase64
  let seen ← participant.sourceRecords.foldlM (validateEntitySourceRecord decodeBase64 tables) seen
  participant.conversationIds.forM (verifyParticipantLink conversations participant.participantId)
  return seen

def verifyEntities (conversations : List CanonicalConversation)
    (participants : List CanonicalParticipant) (report : RestorationReport)
    (coverage : RestorationCoverage) : Except RestoreError Unit := do
  let seen ← conversations.foldlM (verifyConversation sha256 decodeBase64 report.accountId
    coverage.allTables (participants.map (·.participantId))) []
  let _ ← participants.foldlM (verifyParticipant sha256 decodeBase64 report.accountId
    coverage.allTables conversations) seen

/-- The identity checks of the message audit. -/
def verifyMessageIdentity (report : RestorationReport) (message : CanonicalMessage) :
    Except RestoreError Unit := do
  require (!message.canonicalId.isEmpty && message.accountId == report.accountId &&
      !message.conversationId.isEmpty)
    "message identity or account binding is invalid"
  validateBase64 decodeBase64 message.conversationSourceIdentifierBase64
  validateScopedIdentifier sha256 decodeBase64 report.accountId
    (some message.conversationSourceIdentifierBase64) (some message.conversationId)
    "message conversation"
  validateScopedIdentifier sha256 decodeBase64 report.accountId
    message.senderSourceIdentifierBase64 message.senderId "message sender"

def verifySenderMembership (conversations : List CanonicalConversation)
    (pair : String × String) : Except RestoreError Unit :=
  match conversations.find? (·.conversationId == pair.1) with
  | none => .error (.integrity "message conversation is absent")
  | some conversation =>
    require (conversation.participantIds.contains pair.2)
      "message sender is absent from the conversation membership"

/-- Conversation and sender of every message that has one. -/
def participantMemberships (messages : List CanonicalMessage) : List (String × String) :=
  messages.filterMap fun message => message.senderId.map fun sender =>
    (message.conversationId, sender)

def conversationSources (messages : List CanonicalMessage) : List (String × String) :=
  messages.map fun message =>
    (message.conversationId, message.conversationSourceIdentifierBase64)

/-- A sender without a source identifier does not pass the identity checks. -/
def participantSources (messages : List CanonicalMessage) : List (String × String) :=
  messages.filterMap fun message => message.senderId.map fun sender =>
    (sender, message.senderSourceIdentifierBase64.getD "")

def verifyMessageEntities (messages : List CanonicalMessage)
    (conversations : List CanonicalConversation) (participants : List CanonicalParticipant) :
    Except RestoreError Unit := do
  require (messages.all (fun message =>
        (conversations.map (·.conversationId)).contains message.conversationId) &&
      messages.all (fun message => message.senderId.all fun sender =>
        (participants.map (·.participantId)).contains sender))
    "message references an absent conversation or sender"
  (participantMemberships messages).forM (verifySenderMembership conversations)
  (conversationSources messages).forM fun pair =>
    require ((conversations.find? (·.conversationId == pair.1)).any
        (·.sourceIdentifierBase64 == pair.2))
      "message conversation source disagrees with its canonical entity"
  (participantSources messages).forM fun pair =>
    require ((participants.find? (·.participantId == pair.1)).any
        (·.sourceIdentifierBase64 == pair.2))
      "message sender source disagrees with its canonical participant"

/-- Archives written before role sets record a single role, which stands for
the complete set. -/
def artifactRoles (artifact : CanonicalArtifact) : List ArtifactRole :=
  if artifact.roles.isEmpty then [artifact.role] else artifact.roles

/-- The identity checks of the artifact audit. -/
def verifyArtifactIdentity (seen : List String) (artifact : CanonicalArtifact) :
    Except RestoreError (List String) := do
  require (!artifact.artifactId.isEmpty && !seen.contains artifact.artifactId)
    "artifact ledger contains a duplicate or empty identity"
  require ((artifactRoles artifact).contains artifact.role)
    "artifact role set does not contain its primary role"
  return seen ++ [artifact.artifactId]

def artifactReferences (messages : List CanonicalMessage) : List (String × ArtifactRole) :=
  (messages.flatMap (·.artifactReferences)).map fun reference =>
    (reference.artifactId, reference.role)

def verifyMessageArtifacts (messages : List CanonicalMessage)
    (artifacts : List CanonicalArtifact) : Except RestoreError Unit := do
  let referenced := (artifactReferences messages).map Prod.fst
  let listed := artifacts.map (·.artifactId)
  require (referenced.all (listed.contains ·) && listed.all (referenced.contains ·))
    "message and artifact ledgers are not fully linked"
  (artifactReferences messages).forM fun pair =>
    require ((artifacts.find? (·.artifactId == pair.1)).any
        fun artifact => (artifactRoles artifact).contains pair.2)
      "message artifact role disagrees with the artifact ledger"

/-! What the checks accept, stated without the order in which they run. -/

/-- A source whose decoded bytes digest to the identifier within the account. -/
def Scoped (accountId source identifier : String) : Prop :=
  ∃ bytes, decodeBase64 source = some bytes ∧ bytes ≠ [] ∧
    scopedDigest sha256 accountId bytes = identifier

def Decodes (value : Option String) : Prop :=
  ∀ text, value = some text → (decodeBase64 text).isSome = true

structure RecordSound (tables : List TableSchemaCoverage) (source : EntitySourceRecord) :
    Prop where
  named : recordNamesItself source = true
  columns : validateRawColumns decodeBase64 source.rawColumns = .ok ()
  covered : ∃ table ∈ tables, tableIdentity table = recordTable source ∧
    matchesTable source table = true

structure ConversationSound (accountId : String) (tables : List TableSchemaCoverage)
    (participants : List String) (conversation : CanonicalConversation) : Prop where
  named : conversation.conversationId.isEmpty = false
  account : conversation.accountId = accountId
  unique : conversation.participantIds.Nodup
  identity : Scoped sha256 decodeBase64 accountId conversation.sourceIdentifierBase64
    conversation.conversationId
  sources : ∀ source ∈ conversation.sourceRecords, RecordSound decodeBase64 tables source
  present : ∀ participant ∈ conversation.participantIds, participant ∈ participants
  displayed : ∀ membership ∈ conversation.memberships,
    Decodes decodeBase64 membership.displayNameBase64
  agree : ∀ participant, participant ∈ conversation.participantIds ↔
    participant ∈ conversation.memberships.map (·.participantId)
  distinct : (conversation.memberships.map membershipIdentity).Nodup
  owner : ∀ owner, conversation.ownerParticipantId = some owner →
    (owner, .owner) ∈ conversation.memberships.map membershipIdentity

structure ParticipantSound (accountId : String) (tables : List TableSchemaCoverage)
    (conversations : List CanonicalConversation) (participant : CanonicalParticipant) :
    Prop where
  named : participant.participantId.isEmpty = false
  account : participant.accountId = accountId
  unique : participant.conversationIds.Nodup
  identity : Scoped sha256 decodeBase64 accountId participant.sourceIdentifierBase64
    participant.participantId
  displayed : Decodes decodeBase64 participant.aliasBase64 ∧
    Decodes decodeBase64 participant.remarkBase64 ∧
    Decodes decodeBase64 participant.nicknameBase64 ∧
    Decodes decodeBase64 participant.displayNameBase64
  sources : ∀ source ∈ participant.sourceRecords, RecordSound decodeBase64 tables source
  linked : ∀ identifier ∈ participant.conversationIds, ∃ conversation,
    conversations.find? (·.conversationId == identifier) = some conversation ∧
      participant.participantId ∈ conversation.participantIds

section Checks

variable {sha256 decodeBase64} {accountId : String} {tables : List TableSchemaCoverage}

@[simp] theorem validateBase64_ok {value : String} :
    validateBase64 decodeBase64 value = .ok () ↔ (decodeBase64 value).isSome = true := by
  simp [validateBase64]

@[simp] theorem validateOptionalBase64_ok {value : Option String} :
    validateOptionalBase64 decodeBase64 value = .ok () ↔ Decodes decodeBase64 value := by
  cases value <;> simp [validateOptionalBase64, Decodes]

theorem validateScopedIdentifier_ok {source identifier kind : String} :
    validateScopedIdentifier sha256 decodeBase64 accountId (some source) (some identifier) kind =
        .ok () ↔ Scoped sha256 decodeBase64 accountId source identifier := by
  cases hbytes : decodeBase64 source with
  | none => simp [validateScopedIdentifier, Scoped, hbytes]
  | some bytes =>
    simp [validateScopedIdentifier, Scoped, hbytes, check_bind_ok]

theorem Scoped.decodes {source identifier : String}
    (h : Scoped sha256 decodeBase64 accountId source identifier) :
    (decodeBase64 source).isSome = true := by
  obtain ⟨bytes, hbytes, _⟩ := h
  rw [hbytes]
  rfl

theorem find?_recordTable (htables : (tables.map tableIdentity).Nodup) {identity : TableIdentity}
    {table : TableSchemaCoverage} :
    tables.reverse.find? (tableIdentity · == identity) = some table ↔
      table ∈ tables ∧ tableIdentity table = identity := by
  have hreverse : (tables.reverse.map tableIdentity).Nodup := by
    rw [List.map_reverse, List.nodup_reverse]
    exact htables
  rw [find?_key hreverse, List.mem_reverse]

theorem validateEntitySourceRecord_ok (htables : (tables.map tableIdentity).Nodup)
    (seen : List EntityRow) (source : EntitySourceRecord) (seen' : List EntityRow) :
    validateEntitySourceRecord decodeBase64 tables seen source = .ok seen' ↔
      RecordSound decodeBase64 tables source ∧ [entityRow source].Nodup ∧
        (∀ row ∈ [entityRow source], row ∉ seen) ∧ seen' = seen ++ [entityRow source] := by
  unfold validateEntitySourceRecord
  simp only [check_bind_ok, require_ok, Bool.and_eq_true, Bool.not_eq_true',
    List.contains_eq_mem, decide_eq_false_iff_not, List.nodup_singleton, true_and,
    List.forall_mem_singleton]
  cases hfound : tables.reverse.find? (tableIdentity · == recordTable source) with
  | none =>
    simp only [throw, throwThe, MonadExceptOf.throw, reduceCtorEq, and_false, false_iff]
    rintro ⟨⟨_, _, table, htable, hidentity, _⟩, _⟩
    rw [(find?_recordTable htables).mpr ⟨htable, hidentity⟩] at hfound
    cases hfound
  | some table =>
    obtain ⟨htable, hidentity⟩ := (find?_recordTable htables).mp hfound
    simp only [check_bind_ok, require_ok, pure, Except.pure, Except.ok.injEq]
    constructor
    · rintro ⟨⟨hnamed, hfresh⟩, hcolumns, hmatches, rfl⟩
      exact ⟨⟨hnamed, hcolumns, table, htable, hidentity, hmatches⟩, hfresh, rfl⟩
    · rintro ⟨⟨hnamed, hcolumns, other, hother, hsame, hmatches⟩, hfresh, rfl⟩
      rw [(find?_recordTable htables).mpr ⟨hother, hsame⟩] at hfound
      obtain rfl := Option.some.inj hfound
      exact ⟨⟨hnamed, hfresh⟩, hcolumns, hmatches, rfl⟩

theorem validateEntitySourceRecords_ok (htables : (tables.map tableIdentity).Nodup)
    {seen seen' : List EntityRow} {sources : List EntitySourceRecord} :
    sources.foldlM (validateEntitySourceRecord decodeBase64 tables) seen = .ok seen' ↔
      (∀ source ∈ sources, RecordSound decodeBase64 tables source) ∧
        (sources.map entityRow).Nodup ∧ (∀ row ∈ sources.map entityRow, row ∉ seen) ∧
        seen' = seen ++ sources.map entityRow := by
  rw [foldlM_collect (validateEntitySourceRecord_ok htables), ← List.map_eq_flatMap]

theorem mem_nameSet {names : List String} {name : String} : name ∈ nameSet names ↔ name ∈ names := by
  simp [nameSet]

theorem nameSet_eq {left right : List String} :
    nameSet left = nameSet right ↔ ∀ name, name ∈ left ↔ name ∈ right := by
  constructor
  · intro h name
    rw [← mem_nameSet, h, mem_nameSet]
  · intro h
    apply ExtTreeSet.ext_mem
    intro name
    rw [mem_nameSet, mem_nameSet, h]

theorem ownerHasMembership_iff {conversation : CanonicalConversation} {owner : String} :
    ownerHasMembership conversation owner = true ↔
      (owner, .owner) ∈ conversation.memberships.map membershipIdentity := by
  simp only [ownerHasMembership, List.any_eq_true, Bool.and_eq_true, beq_iff_eq, List.mem_map,
    membershipIdentity, Prod.mk.injEq]

theorem verifyConversation_ok (htables : (tables.map tableIdentity).Nodup)
    {participants : List String} (seen : List EntityRow) (conversation : CanonicalConversation)
    (seen' : List EntityRow) :
    verifyConversation sha256 decodeBase64 accountId tables participants seen conversation =
        .ok seen' ↔
      ConversationSound sha256 decodeBase64 accountId tables participants conversation ∧
        (conversation.sourceRecords.map entityRow).Nodup ∧
        (∀ row ∈ conversation.sourceRecords.map entityRow, row ∉ seen) ∧
        seen' = seen ++ conversation.sourceRecords.map entityRow := by
  unfold verifyConversation
  simp only [check_bind_ok, require_ok, Bool.and_eq_true, Bool.not_eq_true', beq_iff_eq,
    decide_eq_true_eq, validateBase64_ok, validateScopedIdentifier_ok, forM_ok,
    validateMembership, validateOptionalBase64_ok, List.contains_iff_mem, membersAgree,
    nameSet_eq, Option.all_eq_true, ownerHasMembership_iff, bind_ok (α := List EntityRow),
    validateEntitySourceRecords_ok htables, pure, Except.pure, Except.ok.injEq]
  constructor
  · rintro ⟨⟨⟨hnamed, haccount⟩, hunique⟩, _, hscoped, _, ⟨hsources, hnodup, hfresh, rfl⟩, hpresent,
      hmemberships, ⟨hagree, hdistinct⟩, hmember, howner, rfl⟩
    exact ⟨⟨hnamed, haccount, hunique, hscoped, hsources, hpresent,
      fun membership hmem => (hmemberships membership hmem).1, hagree, hdistinct, howner⟩,
      hnodup, hfresh, rfl⟩
  · rintro ⟨h, hnodup, hfresh, rfl⟩
    have hlisted : ∀ membership ∈ conversation.memberships,
        membership.participantId ∈ conversation.participantIds := fun membership hmem =>
      (h.agree _).mpr (List.mem_map_of_mem hmem)
    refine ⟨⟨⟨h.named, h.account⟩, h.unique⟩, h.identity.decodes, h.identity, _,
      ⟨h.sources, hnodup, hfresh, rfl⟩, h.present, ?_, ⟨h.agree, h.distinct⟩, ?_, h.owner, rfl⟩
    · intro membership hmem
      exact ⟨h.displayed membership hmem, h.present _ (hlisted membership hmem),
        hlisted membership hmem⟩
    · intro owner howner
      obtain ⟨membership, hmem, hidentity⟩ := List.mem_map.mp (h.owner owner howner)
      have hsame : membership.participantId = owner := congrArg Prod.fst hidentity
      exact hsame ▸ hlisted membership hmem

theorem verifyParticipantLink_ok {conversations : List CanonicalConversation}
    {participant identifier : String} :
    verifyParticipantLink conversations participant identifier = .ok () ↔ ∃ conversation,
      conversations.find? (·.conversationId == identifier) = some conversation ∧
        participant ∈ conversation.participantIds := by
  unfold verifyParticipantLink
  cases conversations.find? (·.conversationId == identifier) <;> simp

theorem verifyParticipant_ok (htables : (tables.map tableIdentity).Nodup)
    {conversations : List CanonicalConversation} (seen : List EntityRow)
    (participant : CanonicalParticipant) (seen' : List EntityRow) :
    verifyParticipant sha256 decodeBase64 accountId tables conversations seen participant =
        .ok seen' ↔
      ParticipantSound sha256 decodeBase64 accountId tables conversations participant ∧
        (participant.sourceRecords.map entityRow).Nodup ∧
        (∀ row ∈ participant.sourceRecords.map entityRow, row ∉ seen) ∧
        seen' = seen ++ participant.sourceRecords.map entityRow := by
  unfold verifyParticipant
  simp only [check_bind_ok, require_ok, Bool.and_eq_true, Bool.not_eq_true', beq_iff_eq,
    decide_eq_true_eq, validateBase64_ok, validateScopedIdentifier_ok, forM_ok,
    validateOptionalBase64_ok, verifyParticipantLink_ok,
    bind_ok (α := List EntityRow), validateEntitySourceRecords_ok htables, pure, Except.pure, Except.ok.injEq]
  constructor
  · rintro ⟨⟨⟨hnamed, haccount⟩, hunique⟩, _, hscoped, halias, hremark, hnickname, hdisplay, _,
      ⟨hsources, hnodup, hfresh, rfl⟩, hlinked, rfl⟩
    exact ⟨⟨hnamed, haccount, hunique, hscoped, ⟨halias, hremark, hnickname, hdisplay⟩, hsources,
      hlinked⟩, hnodup, hfresh, rfl⟩
  · rintro ⟨h, hnodup, hfresh, rfl⟩
    exact ⟨⟨⟨h.named, h.account⟩, h.unique⟩, h.identity.decodes, h.identity, h.displayed.1,
      h.displayed.2.1, h.displayed.2.2.1, h.displayed.2.2.2, _,
      ⟨h.sources, hnodup, hfresh, rfl⟩, h.linked, rfl⟩

/-- Entities of both kinds with their source rows. -/
def entities (conversations : List CanonicalConversation)
    (participants : List CanonicalParticipant) : List ((ℕ × String) × List EntitySourceRecord) :=
  conversations.map (fun conversation =>
      ((0, conversation.conversationId), conversation.sourceRecords)) ++
    participants.map fun participant => ((1, participant.participantId), participant.sourceRecords)

theorem verifyEntities_ok {report : RestorationReport} {coverage : RestorationCoverage}
    (htables : (coverage.allTables.map tableIdentity).Nodup)
    {conversations : List CanonicalConversation} {participants : List CanonicalParticipant} :
    verifyEntities sha256 decodeBase64 conversations participants report coverage = .ok () ↔
      (∀ conversation ∈ conversations, ConversationSound sha256 decodeBase64 report.accountId
        coverage.allTables (participants.map (·.participantId)) conversation) ∧
      (∀ participant ∈ participants, ParticipantSound sha256 decodeBase64 report.accountId
        coverage.allTables conversations participant) ∧
      ((entities conversations participants).flatMap fun entity =>
        entity.2.map entityRow).Nodup := by
  have hrows : ((entities conversations participants).flatMap fun entity =>
      entity.2.map entityRow) =
      conversations.flatMap (fun conversation => conversation.sourceRecords.map entityRow) ++
        participants.flatMap fun participant => participant.sourceRecords.map entityRow := by
    simp [entities, List.flatMap_append, List.flatMap_map]
  rw [hrows, List.nodup_append']
  unfold verifyEntities
  simp only [bind_ok, foldlM_collect (verifyConversation_ok htables),
    foldlM_collect (verifyParticipant_ok htables), pure, Except.pure]
  constructor
  · rintro ⟨_, ⟨hconversations, hfirst, _, rfl⟩, _, ⟨hparticipants, hsecond, hfresh, _⟩, _⟩
    rw [List.nil_append] at hfresh
    exact ⟨hconversations, hparticipants, hfirst, hsecond,
      fun row hleft hright => hfresh row hright hleft⟩
  · rintro ⟨hconversations, hparticipants, hfirst, hsecond, hapart⟩
    refine ⟨_, ⟨hconversations, hfirst, fun _ _ => List.not_mem_nil, rfl⟩, _,
      ⟨hparticipants, hsecond, ?_, rfl⟩, trivial⟩
    intro row hright hleft
    rw [List.nil_append] at hleft
    exact hapart hleft hright

variable (sha256 decodeBase64) in
/-- What the identity checks accept of one message. -/
structure MessageScoped (accountId : String) (message : CanonicalMessage) : Prop where
  conversation : Scoped sha256 decodeBase64 accountId message.conversationSourceIdentifierBase64
    message.conversationId
  sender : ∀ sender, message.senderId = some sender → ∃ source,
    message.senderSourceIdentifierBase64 = some source ∧
      Scoped sha256 decodeBase64 accountId source sender

theorem verifyMessageIdentity_scoped {report : RestorationReport} {message : CanonicalMessage}
    (h : verifyMessageIdentity sha256 decodeBase64 report message = .ok ()) :
    MessageScoped sha256 decodeBase64 report.accountId message := by
  simp only [verifyMessageIdentity, check_bind_ok, validateScopedIdentifier_ok] at h
  obtain ⟨_, _, hconversation, hsender⟩ := h
  refine ⟨hconversation, ?_⟩
  intro sender hsome
  rw [hsome] at hsender
  cases hsource : message.senderSourceIdentifierBase64 with
  | none => simp [validateScopedIdentifier, hsource] at hsender
  | some source =>
    rw [hsource, validateScopedIdentifier_ok] at hsender
    exact ⟨source, rfl, hsender⟩

/-- Conversation and sender of a message lead to entities with the same sources. -/
structure MessageLinked (conversations : List CanonicalConversation)
    (participants : List CanonicalParticipant) (message : CanonicalMessage) : Prop where
  conversation : ∃ conversation ∈ conversations,
    conversation.conversationId = message.conversationId ∧
      conversation.sourceIdentifierBase64 = message.conversationSourceIdentifierBase64 ∧
      ∀ sender, message.senderId = some sender → sender ∈ conversation.participantIds
  sender : ∀ sender, message.senderId = some sender → ∃ participant ∈ participants,
    participant.participantId = sender ∧ participant.sourceIdentifierBase64 =
      message.senderSourceIdentifierBase64.getD ""

theorem verifyMessageEntities_ok {messages : List CanonicalMessage}
    {conversations : List CanonicalConversation} {participants : List CanonicalParticipant}
    (hconversations : (conversations.map (·.conversationId)).Nodup)
    (hparticipants : (participants.map (·.participantId)).Nodup) :
    verifyMessageEntities messages conversations participants = .ok () ↔
      ∀ message ∈ messages, MessageLinked conversations participants message := by
  have hconversation : ∀ {identifier : String} {conversation : CanonicalConversation},
      conversations.find? (·.conversationId == identifier) = some conversation ↔
        conversation ∈ conversations ∧ conversation.conversationId = identifier :=
    find?_key hconversations
  have hparticipant : ∀ {identifier : String} {participant : CanonicalParticipant},
      participants.find? (·.participantId == identifier) = some participant ↔
        participant ∈ participants ∧ participant.participantId = identifier :=
    find?_key hparticipants
  have hmembership : ∀ pair : String × String,
      verifySenderMembership conversations pair = .ok () ↔ ∃ conversation ∈ conversations,
        conversation.conversationId = pair.1 ∧ pair.2 ∈ conversation.participantIds := by
    intro pair
    unfold verifySenderMembership
    cases hfound : conversations.find? (·.conversationId == pair.1) with
    | none =>
      simp only [reduceCtorEq, false_iff]
      rintro ⟨conversation, hmem, hid, _⟩
      rw [hconversation.mpr ⟨hmem, hid⟩] at hfound
      cases hfound
    | some conversation =>
      obtain ⟨hmem, hid⟩ := hconversation.mp hfound
      simp only [require_ok, List.contains_iff_mem]
      constructor
      · intro hlisted
        exact ⟨conversation, hmem, hid, hlisted⟩
      · rintro ⟨other, hother, hsame, hlisted⟩
        rw [hconversation.mpr ⟨hother, hsame⟩] at hfound
        exact Option.some.inj hfound ▸ hlisted
  unfold verifyMessageEntities
  simp only [check_bind_ok, require_ok, forM_ok, hmembership, Bool.and_eq_true, List.all_eq_true,
    List.contains_iff_mem, List.mem_map, Option.all_eq_true, Option.any_eq_true, beq_iff_eq,
    hconversation, hparticipant, participantMemberships, conversationSources, participantSources,
    List.mem_filterMap, Option.map_eq_some_iff, forall_exists_index, and_imp]
  constructor
  · rintro ⟨_, hmembers, hsources, hsenders⟩ message hmessage
    obtain ⟨conversation, ⟨hmem, hid⟩, hsource⟩ := hsources _ message hmessage rfl
    refine ⟨⟨conversation, hmem, hid, hsource, ?_⟩, ?_⟩
    · intro sender hsender
      obtain ⟨other, hother, hsame, hlisted⟩ := hmembers _ message hmessage sender hsender rfl
      have heq : other = conversation :=
        List.inj_on_of_nodup_map hconversations hother hmem (hsame.trans hid.symm)
      exact heq ▸ hlisted
    · intro sender hsender
      obtain ⟨participant, ⟨hlisted, hsame⟩, heq⟩ := hsenders _ message hmessage sender hsender rfl
      exact ⟨participant, hlisted, hsame, heq⟩
  · intro hlinked
    refine ⟨⟨?_, ?_⟩, ?_, ?_, ?_⟩
    · intro message hmessage
      obtain ⟨conversation, hmem, hid, _⟩ := (hlinked message hmessage).conversation
      exact ⟨conversation, hmem, hid⟩
    · intro message hmessage sender hsender
      obtain ⟨participant, hmem, hid, _⟩ := (hlinked message hmessage).sender sender hsender
      exact ⟨participant, hmem, hid⟩
    · rintro _ message hmessage sender hsender rfl
      obtain ⟨conversation, hmem, hid, _, hlisted⟩ := (hlinked message hmessage).conversation
      exact ⟨conversation, hmem, hid, hlisted sender hsender⟩
    · rintro _ message hmessage rfl
      obtain ⟨conversation, hmem, hid, hsource, _⟩ := (hlinked message hmessage).conversation
      exact ⟨conversation, ⟨hmem, hid⟩, hsource⟩
    · rintro _ message hmessage sender hsender rfl
      obtain ⟨participant, hmem, hid, hsource⟩ := (hlinked message hmessage).sender sender hsender
      exact ⟨participant, ⟨hmem, hid⟩, hsource⟩

theorem verifyArtifactIdentities_ok {artifacts : List CanonicalArtifact} {seen' : List String}
    (h : artifacts.foldlM verifyArtifactIdentity [] = .ok seen') :
    (artifacts.map (·.artifactId)).Nodup := by
  have hstep : ∀ seen artifact seen', verifyArtifactIdentity seen artifact = .ok seen' ↔
      (artifact.artifactId.isEmpty = false ∧ artifact.role ∈ artifactRoles artifact) ∧
        [artifact.artifactId].Nodup ∧ (∀ row ∈ [artifact.artifactId], row ∉ seen) ∧
        seen' = seen ++ [artifact.artifactId] := by
    intro seen artifact seen'
    unfold verifyArtifactIdentity
    simp only [check_bind_ok, require_ok, Bool.and_eq_true, Bool.not_eq_true',
      List.contains_eq_mem, decide_eq_false_iff_not, decide_eq_true_eq, pure, Except.pure,
      Except.ok.injEq, List.nodup_singleton, List.forall_mem_singleton, true_and]
    tauto
  obtain ⟨_, hnodup, _⟩ := (foldlM_collect hstep).mp h
  rwa [← List.map_eq_flatMap] at hnodup

theorem mem_artifactReferences {messages : List CanonicalMessage} {identifier : String}
    {role : ArtifactRole} : (identifier, role) ∈ artifactReferences messages ↔
      ∃ message ∈ messages, ∃ reference ∈ message.artifactReferences,
        reference.artifactId = identifier ∧ reference.role = role := by
  simp only [artifactReferences, List.mem_map, List.mem_flatMap, Prod.mk.injEq]
  constructor
  · rintro ⟨reference, ⟨message, hmessage, hreference⟩, hsame⟩
    exact ⟨message, hmessage, reference, hreference, hsame⟩
  · rintro ⟨message, hmessage, reference, hreference, hsame⟩
    exact ⟨reference, ⟨message, hmessage, hreference⟩, hsame⟩

theorem verifyMessageArtifacts_ok {messages : List CanonicalMessage}
    {artifacts : List CanonicalArtifact} (h : (artifacts.map (·.artifactId)).Nodup) :
    verifyMessageArtifacts messages artifacts = .ok () ↔
      (∀ pair ∈ artifactReferences messages, ∃ artifact ∈ artifacts,
        artifact.artifactId = pair.1 ∧ pair.2 ∈ artifactRoles artifact) ∧
      ∀ artifact ∈ artifacts, ∃ pair ∈ artifactReferences messages,
        pair.1 = artifact.artifactId := by
  have hfound : ∀ {identifier : String} {artifact : CanonicalArtifact},
      artifacts.find? (·.artifactId == identifier) = some artifact ↔
        artifact ∈ artifacts ∧ artifact.artifactId = identifier := find?_key h
  unfold verifyMessageArtifacts
  simp only [check_bind_ok, require_ok, forM_ok, Bool.and_eq_true, List.all_eq_true,
    List.contains_iff_mem, List.mem_map, forall_exists_index, and_imp,
    forall_apply_eq_imp_iff₂, Option.any_eq_true, hfound]
  constructor
  · rintro ⟨⟨_, hlisted⟩, hroles⟩
    refine ⟨?_, hlisted⟩
    intro pair hpair
    obtain ⟨artifact, ⟨hmem, hid⟩, hrole⟩ := hroles pair hpair
    exact ⟨artifact, hmem, hid, hrole⟩
  · rintro ⟨hroles, hlisted⟩
    refine ⟨⟨?_, hlisted⟩, ?_⟩
    · intro pair hpair
      obtain ⟨artifact, hmem, hid, _⟩ := hroles pair hpair
      exact ⟨artifact, hmem, hid⟩
    · intro pair hpair
      obtain ⟨artifact, hmem, hid, hrole⟩ := hroles pair hpair
      exact ⟨artifact, ⟨hmem, hid⟩, hrole⟩

end Checks

end GreenBubbles.Audit
