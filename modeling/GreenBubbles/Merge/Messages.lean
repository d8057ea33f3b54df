import GreenBubbles.Archive.Records
import GreenBubbles.Library.Ordered
import GreenBubbles.Archive.Report

/-! # Merging messages

Previous messages of untouched source sets and the messages of the fragment
form one ledger, which is ordered again within each conversation.
-/
namespace GreenBubbles.Merge

open Std Archive Library.Ordered

/-- Fills a keyed ledger; two records under one key are refused. -/
def insertAll {κ α : Type} [Ord κ] [TransOrd κ] (key : α → κ) (kind : String)
    (map : ExtTreeMap κ α) (values : List α) : Except RestoreError (ExtTreeMap κ α) :=
  match insertUnique key map values with
  | none => .error (.integrity ("merged archive contains duplicate " ++ kind ++ " identity"))
  | some filled => .ok filled

theorem insertAll_ok {κ α : Type} [Ord κ] [TransOrd κ] {key : α → κ} {kind : String}
    {map filled : ExtTreeMap κ α} {values : List α} :
    insertAll key kind map values = .ok filled ↔ insertUnique key map values = some filled := by
  unfold insertAll
  cases insertUnique key map values <;> simp

def keyed {α : Type} (key : α → String) (kind : String) (values : List α) :
    Except RestoreError (ExtTreeMap String α) :=
  insertAll key kind ∅ values

/-- The records of a fragment come from restored source sets only. -/
def requireSelected {α : Type} (sourceSet : α → String) (selected : SourceSets)
    (message : String) (values : List α) : Except RestoreError Unit :=
  if values.any (fun value => !selected.contains (sourceSet value)) then
    .error (.integrity message)
  else .ok ()

theorem requireSelected_ok {α : Type} {sourceSet : α → String} {selected : SourceSets}
    {message : String} {values : List α} :
    requireSelected sourceSet selected message values = .ok () ↔
      ∀ value ∈ values, sourceSet value ∈ selected := by
  simp [requireSelected]

def unaffected {α : Type} (sourceSet : α → String) (affected : SourceSets)
    (values : List α) : List α :=
  values.filter fun value => !affected.contains (sourceSet value)

@[simp] theorem mem_unaffected {α : Type} {sourceSet : α → String} {affected : SourceSets}
    {values : List α} {value : α} :
    value ∈ unaffected sourceSet affected values ↔ value ∈ values ∧ sourceSet value ∉ affected := by
  simp [unaffected, ← ExtTreeSet.contains_iff_mem]

def mergeMessages (previous fragment : List CanonicalMessage) (selected affected : SourceSets) :
    Except RestoreError (List CanonicalMessage) := do
  let kept ← insertAll CanonicalMessage.canonicalId "message" ∅
    (unaffected (·.sourceSetId) affected previous)
  requireSelected (·.sourceSetId) selected
    "incremental fragment contains a message from an unselected source set" fragment
  let merged ← insertAll CanonicalMessage.canonicalId "message" kept fragment
  return records merged

/-- A merge keeps exactly the untouched previous messages and the fragment's. -/
theorem mergeMessages_ok {previous fragment merged : List CanonicalMessage}
    {selected affected : SourceSets}
    (h : mergeMessages previous fragment selected affected = .ok merged) :
    merged.Perm (unaffected (·.sourceSetId) affected previous ++ fragment) ∧
      ((unaffected (·.sourceSetId) affected previous ++ fragment).map (·.canonicalId)).Nodup ∧
      ∀ message ∈ fragment, message.sourceSetId ∈ selected := by
  unfold mergeMessages at h
  obtain ⟨kept, hkept, h⟩ := bind_ok.mp h
  obtain ⟨_, hselected, h⟩ := bind_ok.mp h
  obtain ⟨filled, hfilled, h⟩ := bind_ok.mp h
  obtain rfl := Except.ok.inj h
  rw [insertAll_ok] at hkept hfilled
  have hperm := insertUnique_perm _ hkept
  rw [records_empty, List.append_nil] at hperm
  refine ⟨?_, ?_, requireSelected_ok.mp hselected⟩
  · exact (insertUnique_perm _ hfilled).trans ((hperm.append_left _).trans List.perm_append_comm)
  · rw [List.map_append, List.nodup_append']
    refine ⟨(insertUnique_nodup _ hkept).1, (insertUnique_nodup _ hfilled).1, ?_⟩
    intro identifier hold hnew
    obtain ⟨message, hmessage, rfl⟩ := List.mem_map.mp hold
    obtain ⟨other, hother, hsame⟩ := List.mem_map.mp hnew
    have hlisted := (insertUnique_getElem? _ hkept _ message).mpr (.inr ⟨hmessage, rfl⟩)
    apply (insertUnique_nodup _ hfilled).2 other hother
    rw [hsame, ExtTreeMap.mem_iff_isSome_getElem?, hlisted]
    rfl

def conversationOrderingBasis (messages : List CanonicalMessage) : MessageOrderingBasis :=
  if messages.all (·.sortSequence.isSome) then .sortSequence
  else if messages.all (·.serverId.isSome) then .serverId
  else if messages.all (·.createdAtUnix.isSome) then .createdAt
  else if messages.all (·.localId.isSome) then .localId
  else .hybridSourceFallback

def primaryOrder (basis : MessageOrderingBasis) (message : CanonicalMessage) : ℤ :=
  match basis with
  | .sortSequence => message.sortSequence.getD 0
  | .serverId => message.serverId.getD 0
  | .createdAt => message.createdAtUnix.getD 0
  | .localId => message.localId.getD 0
  | .hybridSourceFallback =>
    (message.sortSequence <|> message.serverId <|> message.createdAtUnix <|>
      message.localId).getD message.sourceRowId

def compareMessages (basis : MessageOrderingBasis) (left right : CanonicalMessage) : Ordering :=
  (compare (primaryOrder basis left) (primaryOrder basis right)).then <|
  (compare left.sortSequence right.sortSequence).then <|
  (compare left.serverId right.serverId).then <|
  (compare left.createdAtUnix right.createdAtUnix).then <|
  (compare left.localId right.localId).then <|
  (compare left.sourceLogicalPath right.sourceLogicalPath).then <|
  (compare left.sourceTableId right.sourceTableId).then <|
  (compare left.sourceRowId right.sourceRowId).then <|
  compare left.canonicalId right.canonicalId

def orderConversation (group : List CanonicalMessage) : List CanonicalMessage :=
  let basis := conversationOrderingBasis group
  (group.insertionSort fun left right =>
    (compareMessages basis left right).isLE = true).mapIdx fun ordinal message =>
      { message with conversationOrdinal := ordinal, orderingBasis := basis }

def conversationIds (messages : List CanonicalMessage) : List String :=
  (ExtTreeSet.ofList (messages.map (·.conversationId)) : SourceSets).toList

theorem nodup_conversationIds (messages : List CanonicalMessage) :
    (conversationIds messages).Nodup := by
  apply ExtTreeSet.distinct_toList.imp
  rintro left right hdistinct rfl
  exact hdistinct ReflCmp.compare_self

def orderMessages (messages : List CanonicalMessage) : List CanonicalMessage :=
  (conversationIds messages).flatMap fun conversation =>
    orderConversation (messages.filter (·.conversationId = conversation))

/-- Canonical ids of the messages of a conversation under an identifier. -/
def targetsBy (identifier : CanonicalMessage → Option ℤ) (messages : List CanonicalMessage)
    (conversation : String) (wanted : ℤ) : List String :=
  (messages.filter fun message =>
    message.conversationId == conversation && identifier message == some wanted).map
      (·.canonicalId)

def relationshipTargets (messages : List CanonicalMessage) (conversation : String)
    (relationship : MessageRelationship) : List String :=
  match relationship.targetServerId.map (targetsBy (·.serverId) messages conversation) with
  | some (target :: targets) => target :: targets
  | _ =>
    (relationship.targetLocalId.map (targetsBy (·.localId) messages conversation)).getD []

def resolveRelationship (messages : List CanonicalMessage) (conversation : String)
    (relationship : MessageRelationship) : MessageRelationship :=
  let targets := relationshipTargets messages conversation relationship
  let state : RelationshipResolutionState :=
    if relationship.targetServerId.isNone && relationship.targetLocalId.isNone then
      .referenceIdentifierMissing
    else
      match targets with
      | [] => .targetNotPresentLocally
      | [_] => .resolved
      | _ => .ambiguous
  { relationship with
    resolutionState := state
    resolved := state == .resolved
    targetCanonicalId := if targets.length = 1 then targets.head? else none }

def resolveMessage (messages : List CanonicalMessage) (message : CanonicalMessage) :
    CanonicalMessage :=
  { message with relationships :=
      message.relationships.map (resolveRelationship messages message.conversationId) }

def orderAndResolveMessages (messages : List CanonicalMessage) : List CanonicalMessage :=
  let ordered := orderMessages messages
  ordered.map (resolveMessage ordered)

/-! Ordering and resolution write three fields of a message and keep the rest. -/

/-- A relationship before its target was looked up. -/
def unresolved (relationship : MessageRelationship) : MessageRelationship :=
  { relationship with
    targetCanonicalId := none
    resolved := false
    resolutionState := .pending }

/-- A message before it was placed in its conversation. -/
def unplaced (message : CanonicalMessage) : CanonicalMessage :=
  { message with
    conversationOrdinal := 0
    orderingBasis := .hybridSourceFallback
    relationships := message.relationships.map unresolved }

theorem unplaced_resolveMessage (messages : List CanonicalMessage) (message : CanonicalMessage) :
    unplaced (resolveMessage messages message) = unplaced message := by
  simp [unplaced, resolveMessage, Function.comp_def, unresolved, resolveRelationship]

theorem orderConversation_perm (group : List CanonicalMessage) :
    ((orderConversation group).map unplaced).Perm (group.map unplaced) := by
  have hplaced : (orderConversation group).map unplaced =
      (group.insertionSort fun left right => (compareMessages (conversationOrderingBasis group)
        left right).isLE = true).map unplaced := by
    apply List.ext_getElem
    · simp [orderConversation]
    · intro index _ _
      simp [orderConversation, unplaced]
  rw [hplaced]
  exact (List.perm_insertionSort _ group).map _

theorem orderMessages_perm (messages : List CanonicalMessage) :
    ((orderMessages messages).map unplaced).Perm (messages.map unplaced) := by
  have hall : messages.filter (·.conversationId ∈ conversationIds messages) = messages := by
    rw [List.filter_eq_self]
    intro message hmessage
    simpa [conversationIds] using ⟨message, hmessage, rfl⟩
  have hgroups : ∀ conversations : List String,
      ((conversations.flatMap fun conversation => orderConversation
        (messages.filter (·.conversationId = conversation))).map unplaced).Perm
      ((conversations.flatMap fun conversation =>
        messages.filter (·.conversationId = conversation)).map unplaced) := by
    intro conversations
    induction conversations with
    | nil => rfl
    | cons conversation conversations ih =>
      simp only [List.flatMap_cons, List.map_append]
      exact (orderConversation_perm _).append ih
  have hfilter := (flatMap_filter_perm (·.conversationId) messages
    (nodup_conversationIds messages)).map unplaced
  rw [hall] at hfilter
  exact (hgroups (conversationIds messages)).trans hfilter

theorem orderAndResolveMessages_perm (messages : List CanonicalMessage) :
    ((orderAndResolveMessages messages).map unplaced).Perm (messages.map unplaced) := by
  have hresolved : (orderAndResolveMessages messages).map unplaced =
      (orderMessages messages).map unplaced := by
    rw [orderAndResolveMessages, List.map_map]
    apply List.map_congr_left
    intro message _
    exact unplaced_resolveMessage _ message
  rw [hresolved]
  exact orderMessages_perm messages

end GreenBubbles.Merge
