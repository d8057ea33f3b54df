import Mathlib.Data.List.Perm.Basic
import GreenBubbles.Merge.Messages

/-! # What the order of the messages depends on

The messages of a conversation are sorted by a key that ends with their
identity, and placed from the first to the last. Neither the order they come in
nor the place and the links they had before matter to the result.
-/
namespace GreenBubbles.Merge

open Std Archive Library.Ordered

abbrev MessageKey :=
  ℤ × Option ℤ × Option ℤ × Option ℤ × Option ℤ × String × String × ℤ × String

def messageKey (basis : MessageOrderingBasis) (message : CanonicalMessage) : MessageKey :=
  (primaryOrder basis message, message.sortSequence, message.serverId, message.createdAtUnix,
    message.localId, message.sourceLogicalPath, message.sourceTableId, message.sourceRowId,
    message.canonicalId)

theorem compareMessages_eq (basis : MessageOrderingBasis) (left right : CanonicalMessage) :
    compareMessages basis left right = compare (messageKey basis left) (messageKey basis right) :=
  rfl

/-- The messages of a conversation in their order. -/
def sortConversation (group : List CanonicalMessage) : List CanonicalMessage :=
  sortBy (messageKey (conversationOrderingBasis group)) group

def conversationMessages (messages : List CanonicalMessage) (conversation : String) :
    List CanonicalMessage :=
  messages.filter (·.conversationId = conversation)

/-- All messages in their order, before they are placed. -/
def sortMessages (messages : List CanonicalMessage) : List CanonicalMessage :=
  (conversationIds messages).flatMap fun conversation =>
    sortConversation (conversationMessages messages conversation)

def placed (basis : MessageOrderingBasis) (ordinal : ℕ) (message : CanonicalMessage) :
    CanonicalMessage :=
  { message with conversationOrdinal := ordinal, orderingBasis := basis }

theorem orderConversation_eq (group : List CanonicalMessage) :
    orderConversation group =
      (sortConversation group).mapIdx (placed (conversationOrderingBasis group)) := rfl

theorem sortConversation_perm (group : List CanonicalMessage) :
    (sortConversation group).Perm group := sortBy_perm _ group

@[simp] theorem mem_sortConversation {group : List CanonicalMessage} {message : CanonicalMessage} :
    message ∈ sortConversation group ↔ message ∈ group := mem_sortBy _

@[simp] theorem mem_conversationMessages {messages : List CanonicalMessage} {conversation : String}
    {message : CanonicalMessage} : message ∈ conversationMessages messages conversation ↔
      message ∈ messages ∧ message.conversationId = conversation := by
  simp [conversationMessages]

@[simp] theorem mem_conversationIds {messages : List CanonicalMessage} {conversation : String} :
    conversation ∈ conversationIds messages ↔
      ∃ message ∈ messages, message.conversationId = conversation := by
  simp [conversationIds]

theorem conversationIds_perm {left right : List CanonicalMessage} (h : left.Perm right) :
    conversationIds left = conversationIds right := by
  have hsets : (ExtTreeSet.ofList (left.map (·.conversationId)) : SourceSets) =
      ExtTreeSet.ofList (right.map (·.conversationId)) := by
    apply ExtTreeSet.ext_mem
    intro conversation
    rw [ExtTreeSet.mem_ofList, ExtTreeSet.mem_ofList, List.contains_iff_mem, List.contains_iff_mem,
      (h.map (·.conversationId)).mem_iff]
  rw [conversationIds, hsets, conversationIds]

theorem conversationOrderingBasis_perm {left right : List CanonicalMessage} (h : left.Perm right) :
    conversationOrderingBasis left = conversationOrderingBasis right := by
  have hall : ∀ p : CanonicalMessage → Bool, left.all p = right.all p := by
    intro p
    rw [Bool.eq_iff_iff, List.all_eq_true, List.all_eq_true]
    exact forall_congr' fun message => by rw [h.mem_iff]
  simp only [conversationOrderingBasis, hall]

theorem nodup_messageKey {basis : MessageOrderingBasis} {messages : List CanonicalMessage}
    (h : (messages.map (·.canonicalId)).Nodup) : (messages.map (messageKey basis)).Nodup := by
  apply List.Nodup.of_map (fun key : MessageKey => key.2.2.2.2.2.2.2.2)
  rwa [List.map_map]

theorem sortConversation_of_perm {left right : List CanonicalMessage} (h : left.Perm right)
    (hids : (left.map (·.canonicalId)).Nodup) : sortConversation left = sortConversation right := by
  rw [sortConversation, sortConversation, conversationOrderingBasis_perm h]
  exact sortBy_eq_of_perm _ h (nodup_messageKey hids)

/-- The order does not depend on the order the messages come in. -/
theorem sortMessages_of_perm {left right : List CanonicalMessage} (h : left.Perm right)
    (hids : (left.map (·.canonicalId)).Nodup) : sortMessages left = sortMessages right := by
  rw [sortMessages, sortMessages, conversationIds_perm h]
  congr 1
  funext conversation
  apply sortConversation_of_perm (h.filter _)
  exact hids.sublist (List.filter_sublist.map _)

theorem sortMessages_perm (messages : List CanonicalMessage) :
    (sortMessages messages).Perm messages := by
  have hall : messages.filter (·.conversationId ∈ conversationIds messages) = messages := by
    rw [List.filter_eq_self]
    intro message hmessage
    simpa using ⟨message, hmessage, rfl⟩
  have hgroups := flatMap_filter_perm (·.conversationId) messages (nodup_conversationIds messages)
  rw [hall] at hgroups
  exact (List.Perm.flatMap_left _ fun _ _ => sortConversation_perm _).trans hgroups

/-! Links see four columns of a message -/

def linkColumns (message : CanonicalMessage) : String × String × Option ℤ × Option ℤ :=
  (message.canonicalId, message.conversationId, message.serverId, message.localId)

theorem targetsByServer_perm {left right : List CanonicalMessage}
    (h : (left.map linkColumns).Perm (right.map linkColumns)) (conversation : String) (wanted : ℤ) :
    (targetsBy (·.serverId) left conversation wanted).Perm
      (targetsBy (·.serverId) right conversation wanted) := by
  have hcolumns : ∀ messages, targetsBy (·.serverId) messages conversation wanted =
      ((messages.map linkColumns).filter fun columns =>
        columns.2.1 == conversation && columns.2.2.1 == some wanted).map (·.1) := by
    intro messages
    simp [targetsBy, List.filter_map, Function.comp_def, linkColumns]
  rw [hcolumns, hcolumns]
  exact (h.filter _).map _

theorem targetsByLocal_perm {left right : List CanonicalMessage}
    (h : (left.map linkColumns).Perm (right.map linkColumns)) (conversation : String) (wanted : ℤ) :
    (targetsBy (·.localId) left conversation wanted).Perm
      (targetsBy (·.localId) right conversation wanted) := by
  have hcolumns : ∀ messages, targetsBy (·.localId) messages conversation wanted =
      ((messages.map linkColumns).filter fun columns =>
        columns.2.1 == conversation && columns.2.2.2 == some wanted).map (·.1) := by
    intro messages
    simp [targetsBy, List.filter_map, Function.comp_def, linkColumns]
  rw [hcolumns, hcolumns]
  exact (h.filter _).map _

theorem relationshipTargets_perm {left right : List CanonicalMessage}
    (h : (left.map linkColumns).Perm (right.map linkColumns)) (conversation : String)
    (relationship : MessageRelationship) :
    (relationshipTargets left conversation relationship).Perm
      (relationshipTargets right conversation relationship) := by
  have hlocal : ((relationship.targetLocalId.map
      (targetsBy (·.localId) left conversation)).getD []).Perm
      ((relationship.targetLocalId.map (targetsBy (·.localId) right conversation)).getD []) := by
    cases relationship.targetLocalId with
    | none => exact .refl _
    | some wanted => exact targetsByLocal_perm h conversation wanted
  rw [relationshipTargets, relationshipTargets]
  cases relationship.targetServerId with
  | none => exact hlocal
  | some wanted =>
    have hserver := targetsByServer_perm h conversation wanted
    simp only [Option.map_some]
    cases hleft : targetsBy (·.serverId) left conversation wanted with
    | nil =>
      rw [hleft] at hserver
      rw [hserver.nil_eq.symm]
      exact hlocal
    | cons target targets =>
      rw [hleft] at hserver
      cases hright : targetsBy (·.serverId) right conversation wanted with
      | nil =>
        rw [hright] at hserver
        exact absurd hserver.eq_nil (List.cons_ne_nil _ _)
      | cons target' targets' =>
        rw [hright] at hserver
        exact hserver

/-- A relationship whose targets were looked up. -/
def settled (relationship : MessageRelationship) (targets : List String) : MessageRelationship :=
  let state : RelationshipResolutionState :=
    if relationship.targetServerId.isNone && relationship.targetLocalId.isNone then
      .referenceIdentifierMissing
    else
      match targets with
      | [] => .targetNotPresentLocally
      | [_] => .resolved
      | _ => .ambiguous
  { relationship with
    resolutionState := state
    resolved := state == .resolved
    targetCanonicalId := if targets.length = 1 then targets.head? else none }

theorem resolveRelationship_eq (messages : List CanonicalMessage) (conversation : String)
    (relationship : MessageRelationship) :
    resolveRelationship messages conversation relationship =
      settled relationship (relationshipTargets messages conversation relationship) := rfl

/-- Of several targets only their number is kept. -/
theorem settled_perm {left right : List String} (h : left.Perm right)
    (relationship : MessageRelationship) : settled relationship left = settled relationship right := by
  have hlength := h.length_eq
  match left, right with
  | [], [] => rfl
  | [target], [target'] =>
    rw [List.perm_singleton.mp h.symm]
  | _ :: _ :: _, _ :: _ :: _ => simp [settled]
  | [], _ :: _ => simp at hlength
  | _ :: _, [] => simp at hlength
  | [_], _ :: _ :: _ => simp at hlength
  | _ :: _ :: _, [_] => simp at hlength

theorem resolveMessage_of_perm {left right : List CanonicalMessage}
    (h : (left.map linkColumns).Perm (right.map linkColumns)) (message : CanonicalMessage) :
    resolveMessage left message = resolveMessage right message := by
  rw [resolveMessage, resolveMessage]
  congr 1
  apply List.map_congr_left
  intro relationship _
  rw [resolveRelationship_eq, resolveRelationship_eq]
  exact settled_perm (relationshipTargets_perm h _ relationship) relationship

theorem linkColumns_orderMessages (messages : List CanonicalMessage) :
    ((orderMessages messages).map linkColumns).Perm (messages.map linkColumns) := by
  have hcolumns : linkColumns ∘ unplaced = linkColumns := rfl
  have horder := (orderMessages_perm messages).map linkColumns
  rwa [List.map_map, List.map_map, hcolumns] at horder

/-- The links see the messages whether they are placed or not. -/
theorem orderAndResolveMessages_eq (messages : List CanonicalMessage) :
    orderAndResolveMessages messages = (orderMessages messages).map (resolveMessage messages) := by
  rw [orderAndResolveMessages]
  apply List.map_congr_left
  intro message _
  exact resolveMessage_of_perm (linkColumns_orderMessages messages) message

/-! What the messages carried before does not matter -/

theorem orderMessages_of_perm {left right : List CanonicalMessage} (h : left.Perm right)
    (hids : (left.map (·.canonicalId)).Nodup) : orderMessages left = orderMessages right := by
  rw [orderMessages, orderMessages, conversationIds_perm h]
  congr 1
  funext conversation
  have hgroup : (conversationMessages left conversation).Perm
      (conversationMessages right conversation) := h.filter _
  have hgroupIds : ((conversationMessages left conversation).map (·.canonicalId)).Nodup :=
    hids.sublist (List.filter_sublist.map _)
  rw [← conversationMessages, ← conversationMessages, orderConversation_eq, orderConversation_eq, sortConversation_of_perm hgroup hgroupIds,
    conversationOrderingBasis_perm hgroup]

theorem orderAndResolveMessages_of_perm {left right : List CanonicalMessage} (h : left.Perm right)
    (hids : (left.map (·.canonicalId)).Nodup) :
    orderAndResolveMessages left = orderAndResolveMessages right := by
  rw [orderAndResolveMessages_eq, orderAndResolveMessages_eq, orderMessages_of_perm h hids]
  apply List.map_congr_left
  intro message _
  exact resolveMessage_of_perm (h.map linkColumns) message

theorem conversationOrderingBasis_unplaced (group : List CanonicalMessage) :
    conversationOrderingBasis (group.map unplaced) = conversationOrderingBasis group := by
  simp only [conversationOrderingBasis, List.all_map]
  rfl

theorem sortConversation_unplaced (group : List CanonicalMessage) :
    sortConversation (group.map unplaced) = (sortConversation group).map unplaced := by
  have hbasis : conversationOrderingBasis (group.map unplaced) = conversationOrderingBasis group := by
    simp only [conversationOrderingBasis, List.all_map]
    rfl
  rw [sortConversation, hbasis, sortConversation, sortBy, sortBy]
  symm
  apply List.map_insertionSort
  intro _ _ _ _
  rfl

theorem resolveMessage_unplaced (messages : List CanonicalMessage) (basis : MessageOrderingBasis)
    (ordinal : ℕ) (message : CanonicalMessage) :
    resolveMessage messages (placed basis ordinal (unplaced message)) =
      resolveMessage messages (placed basis ordinal message) := by
  have hlink : ∀ relationship, resolveRelationship messages message.conversationId
      (unresolved relationship) =
        resolveRelationship messages message.conversationId relationship := fun _ => rfl
  simp only [resolveMessage, placed, unplaced, List.map_map, Function.comp_def, hlink]

theorem orderAndResolveMessages_unplaced (messages : List CanonicalMessage) :
    orderAndResolveMessages (messages.map unplaced) = orderAndResolveMessages messages := by
  have hids : conversationIds (messages.map unplaced) = conversationIds messages := by
    rw [conversationIds, List.map_map]
    rfl
  have hlinks : ∀ message, resolveMessage (messages.map unplaced) message =
      resolveMessage messages message := by
    intro message
    apply resolveMessage_of_perm
    rw [List.map_map]
    exact .refl _
  rw [orderAndResolveMessages_eq, orderAndResolveMessages_eq, orderMessages, orderMessages, hids,
    List.map_flatMap, List.map_flatMap]
  congr 1
  funext conversation
  have hgroup : (messages.map unplaced).filter (·.conversationId = conversation) =
      (messages.filter (·.conversationId = conversation)).map unplaced := by
    rw [List.filter_map]
    rfl
  rw [hgroup, orderConversation_eq, orderConversation_eq, sortConversation_unplaced]
  apply List.ext_getElem
  · simp
  · intro index _ _
    simp only [List.getElem_map, List.getElem_mapIdx, hlinks, resolveMessage_unplaced,
      conversationOrderingBasis_unplaced]

/-- Ordering again gives the same archive, whatever places and links the messages had. -/
theorem orderAndResolveMessages_congr {left right : List CanonicalMessage}
    (h : (left.map unplaced).Perm (right.map unplaced))
    (hids : (left.map (·.canonicalId)).Nodup) :
    orderAndResolveMessages left = orderAndResolveMessages right := by
  rw [← orderAndResolveMessages_unplaced left, ← orderAndResolveMessages_unplaced right]
  apply orderAndResolveMessages_of_perm h
  rwa [List.map_map]

end GreenBubbles.Merge
