import GreenBubbles.Merge.Ordering

/-! # The canonical order of merged messages

Ordering and resolution depend on the set of messages alone. Each conversation is
numbered from zero without gaps, and a relationship is resolved exactly where one
message of the merged set is its target.
-/
namespace GreenBubbles.Merge

open Std Archive Library.Ordered

/-- The message comes first under the basis of its conversation. -/
def Precedes (basis : MessageOrderingBasis) (left right : CanonicalMessage) : Prop :=
  compareMessages basis left right = .lt

/-- What ordering makes of one conversation. -/
structure InOrder (messages result : List CanonicalMessage) (conversation : String) : Prop where
  content : ((conversationMessages result conversation).map unplaced).Perm
    ((conversationMessages messages conversation).map unplaced)
  ordinals : (conversationMessages result conversation).map (·.conversationOrdinal) =
    List.range (conversationMessages messages conversation).length
  basis : ∀ message ∈ conversationMessages result conversation, message.orderingBasis =
    conversationOrderingBasis (conversationMessages messages conversation)
  order : (conversationMessages result conversation).Pairwise fun left right =>
    (compareMessages (conversationOrderingBasis (conversationMessages messages conversation))
      left right).isLE = true

/-- The messages of a conversation that match the target of a relationship: by server
identifier where any of them has it, by local identifier else. -/
def targetsOf (messages : List CanonicalMessage) (conversation : String)
    (relationship : MessageRelationship) : List CanonicalMessage :=
  let byServer := (conversationMessages messages conversation).filter fun message =>
    message.serverId.isSome && message.serverId == relationship.targetServerId
  if byServer.isEmpty then
    (conversationMessages messages conversation).filter fun message =>
      message.localId.isSome && message.localId == relationship.targetLocalId
  else byServer

/-- A relationship is linked to its target if and only if it has exactly one. -/
structure Linked (targets : List CanonicalMessage) (relationship : MessageRelationship) : Prop where
  resolved : relationship.resolutionState = .resolved ↔ targets.length = 1
  ambiguous : relationship.resolutionState = .ambiguous ↔ 2 ≤ targets.length
  absent : relationship.resolutionState = .targetNotPresentLocally ↔ targets = [] ∧
    ¬ (relationship.targetServerId = none ∧ relationship.targetLocalId = none)
  missing : relationship.resolutionState = .referenceIdentifierMissing ↔
    relationship.targetServerId = none ∧ relationship.targetLocalId = none
  flag : relationship.resolved = true ↔ targets.length = 1
  target : ∀ identifier, relationship.targetCanonicalId = some identifier ↔
    targets.map (·.canonicalId) = [identifier]

/-! The comparison -/

theorem Precedes.trans {basis : MessageOrderingBasis} {first second third : CanonicalMessage}
    (h : Precedes basis first second) (h' : Precedes basis second third) :
    Precedes basis first third := by
  rw [Precedes, compareMessages_eq] at h h' ⊢
  exact TransCmp.lt_trans h h'

theorem precedes_irrefl (basis : MessageOrderingBasis) (message : CanonicalMessage) :
    ¬ Precedes basis message message := by
  have hself : compare (messageKey basis message) (messageKey basis message) = .eq :=
    ReflCmp.compare_self
  rw [Precedes, compareMessages_eq, hself]
  decide

theorem precedes_total (basis : MessageOrderingBasis) {left right : CanonicalMessage}
    (h : left.canonicalId ≠ right.canonicalId) :
    Precedes basis left right ∨ Precedes basis right left := by
  rw [Precedes, Precedes, compareMessages_eq, compareMessages_eq]
  cases hcompare : compare (messageKey basis left) (messageKey basis right) with
  | lt => exact .inl rfl
  | gt => exact .inr (by rw [OrientedOrd.eq_swap, hcompare]; rfl)
  | eq =>
    have hkey := Std.compare_eq_iff_eq.mp hcompare
    have hids := congrArg (fun key : MessageKey => key.2.2.2.2.2.2.2.2) hkey
    exact absurd hids h

/-! One conversation of the result -/

theorem conversationMessages_flatMap {group : String → List CanonicalMessage}
    (hgroup : ∀ conversation, ∀ message ∈ group conversation,
      message.conversationId = conversation)
    {conversations : List String} (hnodup : conversations.Nodup) (conversation : String) :
    conversationMessages (conversations.flatMap group) conversation =
      if conversation ∈ conversations then group conversation else [] := by
  induction conversations with
  | nil => rfl
  | cons head tail ih =>
    rw [List.nodup_cons] at hnodup
    have htail := ih hnodup.2
    rw [conversationMessages] at htail ⊢
    rw [List.flatMap_cons, List.filter_append, htail]
    by_cases hhead : head = conversation
    · subst hhead
      have hkept : (group head).filter (·.conversationId = head) = group head := by
        rw [List.filter_eq_self]
        intro message hmessage
        simpa using hgroup head message hmessage
      simp [hkept, hnodup.1]
    · have hdropped : (group head).filter (·.conversationId = conversation) = [] := by
        rw [List.filter_eq_nil_iff]
        intro message hmessage
        rw [hgroup head message hmessage]
        simpa using hhead
      simp [hdropped, Ne.symm hhead]

theorem conversationMessages_nil {messages : List CanonicalMessage} {conversation : String}
    (h : conversation ∉ conversationIds messages) :
    conversationMessages messages conversation = [] := by
  rw [conversationMessages, List.filter_eq_nil_iff]
  intro message hmessage hsame
  exact h (mem_conversationIds.mpr ⟨message, hmessage, by simpa using hsame⟩)

theorem conversationMessages_sortMessages (messages : List CanonicalMessage)
    (conversation : String) :
    conversationMessages (sortMessages messages) conversation =
      sortConversation (conversationMessages messages conversation) := by
  have hgroup : ∀ name, ∀ message ∈ sortConversation (conversationMessages messages name),
      message.conversationId = name := by
    intro name message hmessage
    rw [mem_sortConversation, mem_conversationMessages] at hmessage
    exact hmessage.2
  rw [sortMessages, conversationMessages_flatMap hgroup (nodup_conversationIds messages)]
  split_ifs with hconversation
  · rfl
  · rw [conversationMessages_nil hconversation]
    rfl

theorem conversationMessages_orderMessages (messages : List CanonicalMessage)
    (conversation : String) :
    conversationMessages (orderMessages messages) conversation =
      orderConversation (conversationMessages messages conversation) := by
  have hgroup : ∀ name, ∀ message ∈ orderConversation (conversationMessages messages name),
      message.conversationId = name := by
    intro name message hmessage
    rw [orderConversation_eq, List.mem_mapIdx] at hmessage
    obtain ⟨index, hindex, rfl⟩ := hmessage
    have hmember := List.getElem_mem hindex
    rw [mem_sortConversation, mem_conversationMessages] at hmember
    exact hmember.2
  have horder := conversationMessages_flatMap hgroup (nodup_conversationIds messages) conversation
  rw [orderMessages]
  refine horder.trans ?_
  split_ifs with hconversation
  · rfl
  · rw [conversationMessages_nil hconversation]
    rfl

theorem conversationMessages_orderAndResolveMessages (messages : List CanonicalMessage)
    (conversation : String) :
    conversationMessages (orderAndResolveMessages messages) conversation =
      (orderConversation (conversationMessages messages conversation)).map
        (resolveMessage messages) := by
  have hfilter : ∀ ordered : List CanonicalMessage,
      conversationMessages (ordered.map (resolveMessage messages)) conversation =
        (conversationMessages ordered conversation).map (resolveMessage messages) := by
    intro ordered
    rw [conversationMessages, List.filter_map]
    rfl
  rw [orderAndResolveMessages_eq, hfilter, conversationMessages_orderMessages]

theorem inOrder (messages : List CanonicalMessage) (conversation : String) :
    InOrder messages (orderAndResolveMessages messages) conversation := by
  refine ⟨?_, ?_, ?_, ?_⟩
  · rw [conversationMessages_orderAndResolveMessages, List.map_map]
    have hunplaced : unplaced ∘ resolveMessage messages = unplaced := by
      funext message
      exact unplaced_resolveMessage messages message
    rw [hunplaced]
    exact orderConversation_perm _
  · rw [conversationMessages_orderAndResolveMessages, orderConversation_eq]
    apply List.ext_getElem
    · simp [(sortConversation_perm _).length_eq]
    · intro index _ _
      simp [resolveMessage, placed]
  · intro message hmessage
    rw [conversationMessages_orderAndResolveMessages, orderConversation_eq, List.mem_map] at hmessage
    obtain ⟨ordered, hordered, rfl⟩ := hmessage
    rw [List.mem_mapIdx] at hordered
    obtain ⟨index, hindex, rfl⟩ := hordered
    rfl
  · -- Neither placing nor resolving touches a column of the key.
    have hkeys : (conversationMessages (orderAndResolveMessages messages) conversation).map
        (messageKey (conversationOrderingBasis (conversationMessages messages conversation))) =
          (sortConversation (conversationMessages messages conversation)).map
            (messageKey (conversationOrderingBasis
              (conversationMessages messages conversation))) := by
      rw [conversationMessages_orderAndResolveMessages, orderConversation_eq]
      apply List.ext_getElem
      · simp
      · intro index _ _
        simp only [List.getElem_map, List.getElem_mapIdx]
        rfl
    have hsorted := sortBy_pairwise
      (messageKey (conversationOrderingBasis (conversationMessages messages conversation)))
      (conversationMessages messages conversation)
    rw [← sortConversation, ← List.pairwise_map (R := fun left right =>
      (compare left right).isLE = true), ← hkeys, List.pairwise_map] at hsorted
    exact hsorted

/-! Ordering twice -/

theorem sortConversation_sorted (group : List CanonicalMessage) :
    sortConversation (sortConversation group) = sortConversation group := by
  have hbasis := conversationOrderingBasis_perm (sortConversation_perm group)
  rw [sortConversation, hbasis]
  exact List.Pairwise.insertionSort_eq (sortBy_pairwise _ group)

theorem orderAndResolveMessages_sortMessages (messages : List CanonicalMessage) :
    orderAndResolveMessages (sortMessages messages) = orderAndResolveMessages messages := by
  have hperm := sortMessages_perm messages
  rw [orderAndResolveMessages_eq, orderAndResolveMessages_eq, orderMessages, orderMessages,
    conversationIds_perm hperm]
  have hgroups : ∀ conversation,
      orderConversation (conversationMessages (sortMessages messages) conversation) =
        orderConversation (conversationMessages messages conversation) := by
    intro conversation
    rw [conversationMessages_sortMessages, orderConversation_eq, orderConversation_eq,
      sortConversation_sorted, conversationOrderingBasis_perm (sortConversation_perm _)]
  have hlinks : resolveMessage (sortMessages messages) = resolveMessage messages := by
    funext message
    exact resolveMessage_of_perm (hperm.map linkColumns) message
  rw [hlinks]
  congr 2
  funext conversation
  exact hgroups conversation

theorem unplaced_orderAndResolveMessages (messages : List CanonicalMessage) :
    (orderAndResolveMessages messages).map unplaced = (sortMessages messages).map unplaced := by
  rw [orderAndResolveMessages_eq, orderMessages, sortMessages, List.map_map, List.map_flatMap,
    List.map_flatMap]
  congr 1
  funext conversation
  rw [← conversationMessages, orderConversation_eq]
  apply List.ext_getElem
  · simp
  · intro index _ _
    simp only [List.getElem_map, List.getElem_mapIdx, Function.comp_apply,
      unplaced_resolveMessage]
    rfl

theorem orderAndResolveMessages_idempotent (messages : List CanonicalMessage) :
    orderAndResolveMessages (orderAndResolveMessages messages) =
      orderAndResolveMessages messages := by
  calc orderAndResolveMessages (orderAndResolveMessages messages)
      = orderAndResolveMessages ((orderAndResolveMessages messages).map unplaced) :=
        (orderAndResolveMessages_unplaced _).symm
    _ = orderAndResolveMessages ((sortMessages messages).map unplaced) := by
        rw [unplaced_orderAndResolveMessages]
    _ = orderAndResolveMessages (sortMessages messages) := orderAndResolveMessages_unplaced _
    _ = orderAndResolveMessages messages := orderAndResolveMessages_sortMessages messages

/-! Links -/

theorem relationshipTargets_eq (messages : List CanonicalMessage) (conversation : String)
    (relationship : MessageRelationship) :
    relationshipTargets messages conversation relationship =
      (targetsOf messages conversation relationship).map (·.canonicalId) := by
  have hby : ∀ (identifier : CanonicalMessage → Option ℤ) (wanted : Option ℤ),
      (wanted.map (targetsBy identifier messages conversation)).getD [] =
        ((conversationMessages messages conversation).filter fun message =>
          (identifier message).isSome && identifier message == wanted).map (·.canonicalId) := by
    intro identifier wanted
    cases wanted with
    | none =>
      have hnone : ∀ message : CanonicalMessage,
          ((identifier message).isSome && identifier message == none) = false := by
        intro message
        cases identifier message <;> rfl
      simp only [hnone, List.filter_false, List.map_nil, Option.map_none, Option.getD_none]
    | some value =>
      rw [Option.map_some, Option.getD_some, targetsBy, conversationMessages, List.filter_filter]
      congr 1
      apply List.filter_congr
      intro message _
      cases identifier message with
      | none => simp
      | some other => simp [Bool.and_comm, Bool.beq_eq_decide_eq]
  have hserver := hby (·.serverId) relationship.targetServerId
  have hlocal := hby (·.localId) relationship.targetLocalId
  rw [relationshipTargets, targetsOf]
  split_ifs with hempty
  · rw [List.isEmpty_iff.mp hempty, List.map_nil] at hserver
    rw [← hlocal]
    cases htargets : relationship.targetServerId.map (targetsBy (·.serverId) messages conversation)
      with
    | none => rfl
    | some targets =>
      rw [htargets, Option.getD_some] at hserver
      rw [hserver]
  · rw [← hserver]
    cases htargets : relationship.targetServerId.map (targetsBy (·.serverId) messages conversation)
      with
    | none =>
      rw [htargets, Option.getD_none, eq_comm, List.map_eq_nil_iff] at hserver
      rw [hserver] at hempty
      exact absurd rfl hempty
    | some targets =>
      cases targets with
      | nil =>
        rw [htargets, Option.getD_some, eq_comm, List.map_eq_nil_iff] at hserver
        rw [hserver] at hempty
        exact absurd rfl hempty
      | cons target targets => rfl

theorem targetsOf_unnamed (messages : List CanonicalMessage) (conversation : String)
    {relationship : MessageRelationship} (hserver : relationship.targetServerId = none)
    (hlocal : relationship.targetLocalId = none) :
    targetsOf messages conversation relationship = [] := by
  have htargets := relationshipTargets_eq messages conversation relationship
  rw [relationshipTargets, hserver, hlocal] at htargets
  exact List.map_eq_nil_iff.mp htargets.symm

theorem resolveRelationship_linked (messages : List CanonicalMessage) (conversation : String)
    (relationship : MessageRelationship) :
    Linked (targetsOf messages conversation relationship)
      (resolveRelationship messages conversation relationship) := by
  rw [resolveRelationship_eq, relationshipTargets_eq]
  by_cases hunnamed : relationship.targetServerId = none ∧ relationship.targetLocalId = none
  · rw [targetsOf_unnamed messages conversation hunnamed.1 hunnamed.2]
    constructor <;> simp [settled, hunnamed]
  · have hnamed : (relationship.targetServerId.isNone && relationship.targetLocalId.isNone) =
        false := by
      simpa [Option.isSome_iff_ne_none] using hunnamed
    rcases targetsOf messages conversation relationship with _ | ⟨target, _ | ⟨other, targets⟩⟩
    · constructor <;> simp [settled, hnamed, hunnamed]
    · constructor <;> simp [settled, hnamed, hunnamed]
    · constructor <;> simp [settled, hnamed, hunnamed]

theorem orderAndResolveMessages_linked {messages : List CanonicalMessage}
    {message : CanonicalMessage} (hmessage : message ∈ orderAndResolveMessages messages)
    {relationship : MessageRelationship} (hrelationship : relationship ∈ message.relationships) :
    Linked (targetsOf (orderAndResolveMessages messages) message.conversationId relationship)
      relationship := by
  rw [orderAndResolveMessages_eq, List.mem_map] at hmessage
  obtain ⟨ordered, -, rfl⟩ := hmessage
  obtain ⟨original, -, rfl⟩ := List.mem_map.mp hrelationship
  have hcolumns : ((orderAndResolveMessages messages).map linkColumns).Perm
      (messages.map linkColumns) := by
    have hunplaced : linkColumns ∘ unplaced = linkColumns := rfl
    have hperm := (orderAndResolveMessages_perm messages).map linkColumns
    rwa [List.map_map, List.map_map, hunplaced] at hperm
  have hagain : resolveRelationship (orderAndResolveMessages messages) ordered.conversationId
      (resolveRelationship messages ordered.conversationId original) =
        resolveRelationship messages ordered.conversationId original := by
    have hresolved : resolveRelationship (orderAndResolveMessages messages) ordered.conversationId
        (resolveRelationship messages ordered.conversationId original) =
          resolveRelationship (orderAndResolveMessages messages) ordered.conversationId original :=
      rfl
    rw [hresolved, resolveRelationship_eq, resolveRelationship_eq]
    exact settled_perm (relationshipTargets_perm hcolumns _ _) original
  have hlinked := resolveRelationship_linked (orderAndResolveMessages messages)
    ordered.conversationId (resolveRelationship messages ordered.conversationId original)
  rwa [hagain] at hlinked

/-- For messages with distinct identities the result does not depend on the order they
come in; the rest holds of any messages. -/
theorem merge_ordering_canonical :
    (∀ left right : List CanonicalMessage, left.Perm right →
      (left.map (·.canonicalId)).Nodup →
        orderAndResolveMessages left = orderAndResolveMessages right) ∧
    (∀ messages conversation, InOrder messages (orderAndResolveMessages messages) conversation) ∧
    (∀ basis, (∀ message, ¬ Precedes basis message message) ∧
      (∀ first second third, Precedes basis first second → Precedes basis second third →
        Precedes basis first third) ∧
      ∀ left right : CanonicalMessage, left.canonicalId ≠ right.canonicalId →
        Precedes basis left right ∨ Precedes basis right left) ∧
    (∀ messages, orderAndResolveMessages (orderAndResolveMessages messages) =
      orderAndResolveMessages messages) ∧
    (∀ messages, orderAndResolveMessages (messages.map unplaced) =
      orderAndResolveMessages messages) ∧
    ∀ messages, ∀ message ∈ orderAndResolveMessages messages,
      ∀ relationship ∈ message.relationships,
        Linked (targetsOf (orderAndResolveMessages messages) message.conversationId relationship)
          relationship := by
  refine ⟨?_, inOrder, ?_, orderAndResolveMessages_idempotent, orderAndResolveMessages_unplaced, ?_⟩
  · intro left right hperm hids
    exact orderAndResolveMessages_of_perm hperm hids
  · intro basis
    exact ⟨precedes_irrefl basis, fun _ _ _ h h' => h.trans h', fun _ _ h => precedes_total basis h⟩
  · intro messages message hmessage relationship hrelationship
    exact orderAndResolveMessages_linked hmessage hrelationship

/-- One of two records of a message that agree in all columns of the order. -/
def twin (content : String) : CanonicalMessage where
  canonicalId := "message"
  accountId := "account"
  sourceSetId := "phone"
  sourceLogicalPath := "message_0.db"
  sourceTableId := "table-1"
  sourceTableName := "Msg_1"
  sourceRowId := 1
  conversationId := "chat"
  conversationSourceIdentifierBase64 := "Y2hhdA=="
  senderId := none
  senderSourceIdentifierBase64 := none
  localId := some 1
  serverId := none
  sortSequence := some 1
  createdAtUnix := some 1
  conversationOrdinal := 0
  orderingBasis := .sortSequence
  rawType := some 1
  logicalType := some 1
  subType := some 0
  status := some 3
  direction := .unknown
  directionEvidence := .unresolved
  contentBase64 := some content
  packedInfoBase64 := none
  compressionType := none
  rawColumns := ∅
  typedPayload := .unknown "missing"
  semanticDecodeState := .missingType
  semanticGapReason := none
  relationships := []
  artifactReferences := []

/-- Under one identity the order of the input shows. -/
theorem twins_in_input_order :
    [twin "YQ==", twin "Yg=="].Perm [twin "Yg==", twin "YQ=="] ∧
      orderAndResolveMessages [twin "YQ==", twin "Yg=="] ≠
        orderAndResolveMessages [twin "Yg==", twin "YQ=="] := by
  refine ⟨.swap _ _ _, ?_⟩
  intro hsame
  have hcontents : (orderAndResolveMessages [twin "YQ==", twin "Yg=="]).map (·.contentBase64) ≠
      (orderAndResolveMessages [twin "Yg==", twin "YQ=="]).map (·.contentBase64) := by
    decide +kernel
  exact hcontents (congrArg (List.map (·.contentBase64)) hsame)

end GreenBubbles.Merge
