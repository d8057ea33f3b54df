import Mathlib.Logic.Equiv.Basic
import GreenBubbles.Merge.Ordering

/-! # Ordering and linking in a restore

A restore orders its staged messages by an SQL query and looks relationships up
in the staged table. The merge orders and links the same messages again, with
one more column in its order and one more attempt in its lookup.
-/
namespace GreenBubbles.Restore

open Std Archive Merge Library.Ordered

/-! The ordering query -/

/-- A column is the basis where it counts as many rows as the conversation has. -/
def stagedBasis (messages : List CanonicalMessage) (conversation : String) :
    MessageOrderingBasis :=
  let rows := conversationMessages messages conversation
  if rows.length = rows.countP (·.sortSequence.isSome) then .sortSequence
  else if rows.length = rows.countP (·.serverId.isSome) then .serverId
  else if rows.length = rows.countP (·.createdAtUnix.isSome) then .createdAt
  else if rows.length = rows.countP (·.localId.isSome) then .localId
  else .hybridSourceFallback

/-- The primary column; a null sorts first. -/
def stagedPrimary (basis : MessageOrderingBasis) (message : CanonicalMessage) : Option ℤ :=
  match basis with
  | .sortSequence => message.sortSequence
  | .serverId => message.serverId
  | .createdAt => message.createdAtUnix
  | .localId => message.localId
  | .hybridSourceFallback =>
    message.sortSequence <|> message.serverId <|> message.createdAtUnix <|> message.localId <|>
      some message.sourceRowId

abbrev StagedKey :=
  String × Option ℤ × Option ℤ × Option ℤ × Option ℤ × Option ℤ × String × String × ℤ

/-- The columns of `ORDER BY`. Text sorts by its bytes, which is by its code points. -/
def stagedKey (messages : List CanonicalMessage) (message : CanonicalMessage) : StagedKey :=
  (message.conversationId, stagedPrimary (stagedBasis messages message.conversationId) message,
    message.sortSequence, message.serverId, message.createdAtUnix, message.localId,
    message.sourceLogicalPath, message.sourceTableId, message.sourceRowId)

/-! Relationships -/

def stagedTargets (identifier : CanonicalMessage → Option ℤ) (messages : List CanonicalMessage)
    (conversation : String) (wanted : ℤ) : List String :=
  ((sortBy (fun message => (message.sourceLogicalPath, message.sourceTableId, message.sourceRowId))
    (messages.filter fun message =>
      message.conversationId == conversation && identifier message == some wanted)).take 2).map
        (·.canonicalId)

/-- The local identifier is looked up only where there is no server identifier. -/
def restoredTargets (messages : List CanonicalMessage) (conversation : String)
    (relationship : MessageRelationship) : List String :=
  match relationship.targetServerId, relationship.targetLocalId with
  | some server, _ => stagedTargets (·.serverId) messages conversation server
  | none, some localId => stagedTargets (·.localId) messages conversation localId
  | none, none => []

def resolveRelationships (messages : List CanonicalMessage) (message : CanonicalMessage) :
    CanonicalMessage :=
  let resolve := fun relationship =>
    settled relationship (restoredTargets messages message.conversationId relationship)
  { message with relationships := message.relationships.map resolve }

/-- The rows as they come out of the query, numbered within each conversation. -/
def writeRows (messages : List CanonicalMessage) : Option String → ℕ → List CanonicalMessage →
    List CanonicalMessage
  | _, _, [] => []
  | previousConversation, conversationOrdinal, message :: rows =>
    let ordinal :=
      if previousConversation = some message.conversationId then conversationOrdinal + 1 else 0
    resolveRelationships messages
        (placed (stagedBasis messages message.conversationId) ordinal message) ::
      writeRows messages (some message.conversationId) ordinal rows

/-- What a restore may write: rows that tie in every column come in any order. -/
def Restored (messages result : List CanonicalMessage) : Prop :=
  ∃ rows : List CanonicalMessage, rows.Perm messages ∧
    rows.Pairwise (fun left right =>
      (compare (stagedKey messages left) (stagedKey messages right)).isLE = true) ∧
    result = writeRows messages none 0 rows

/-! The merge sorts by the same columns and then by identity -/

theorem stagedBasis_eq (messages : List CanonicalMessage) (conversation : String) :
    stagedBasis messages conversation =
      conversationOrderingBasis (conversationMessages messages conversation) := by
  have hcount : ∀ (rows : List CanonicalMessage) (p : CanonicalMessage → Bool),
      rows.length = rows.countP p ↔ rows.all p = true := by
    intro rows p
    rw [eq_comm, List.countP_eq_length, List.all_eq_true]
  simp only [stagedBasis, conversationOrderingBasis, hcount]

theorem stagedPrimary_eq {group : List CanonicalMessage} {message : CanonicalMessage}
    (h : message ∈ group) : stagedPrimary (conversationOrderingBasis group) message =
      some (primaryOrder (conversationOrderingBasis group) message) := by
  have hpresent : ∀ column : CanonicalMessage → Option ℤ,
      group.all (fun message => (column message).isSome) = true →
        column message = some ((column message).getD 0) := by
    intro column hall
    have hsome := List.all_eq_true.mp hall message h
    rcases Option.isSome_iff_exists.mp hsome with ⟨value, hvalue⟩
    rw [hvalue, Option.getD_some]
  unfold conversationOrderingBasis
  split_ifs with hsort hserver hcreated hlocal
  · exact hpresent (·.sortSequence) hsort
  · exact hpresent (·.serverId) hserver
  · exact hpresent (·.createdAtUnix) hcreated
  · exact hpresent (·.localId) hlocal
  · cases hsequence : message.sortSequence <;> cases hserverId : message.serverId <;>
      cases hcreatedAt : message.createdAtUnix <;> cases hlocalId : message.localId <;>
      simp [stagedPrimary, primaryOrder, hsequence, hserverId, hcreatedAt, hlocalId]

theorem compare_pair {α β : Type} [Ord α] [Ord β] (left right : α × β) :
    compare left right = (compare left.1 right.1).then (compare left.2 right.2) := rfl

theorem compareMessages_staged {messages : List CanonicalMessage} {left right : CanonicalMessage}
    (hleft : left ∈ messages) (hright : right ∈ messages)
    (hsame : left.conversationId = right.conversationId) :
    compareMessages (stagedBasis messages left.conversationId) left right =
      (compare (stagedKey messages left) (stagedKey messages right)).then
        (compare left.canonicalId right.canonicalId) := by
  have hprimary : ∀ message ∈ messages, message.conversationId = left.conversationId →
      stagedPrimary (stagedBasis messages left.conversationId) message =
        some (primaryOrder (stagedBasis messages left.conversationId) message) := by
    intro message hmessage hconversation
    rw [stagedBasis_eq]
    exact stagedPrimary_eq (by simp [hmessage, hconversation])
  have hself : compare right.conversationId right.conversationId = .eq := ReflCmp.compare_self
  have hsome : ∀ a b : ℤ, compare (some a) (some b) = compare a b := fun _ _ => rfl
  simp only [stagedKey, ← hsame, hprimary left hleft rfl, hprimary right hright hsame.symm,
    compareMessages, compare_pair, hsome]
  simp only [hsame, hself, Ordering.eq_then, Ordering.then_assoc]

/-- The merge's order is one of the query's. -/
theorem sortMessages_staged (messages : List CanonicalMessage) :
    (sortMessages messages).Pairwise fun left right =>
      (compare (stagedKey messages left) (stagedKey messages right)).isLE = true := by
  rw [sortMessages, List.pairwise_flatMap]
  constructor
  · intro conversation _
    have hsorted := sortBy_pairwise (messageKey (conversationOrderingBasis
      (conversationMessages messages conversation))) (conversationMessages messages conversation)
    refine hsorted.imp_of_mem ?_
    intro left right hleft hright hle
    rw [mem_sortBy, mem_conversationMessages] at hleft hright
    have hbasis : conversationOrderingBasis (conversationMessages messages conversation) =
        stagedBasis messages left.conversationId := by
      rw [stagedBasis_eq, hleft.2]
    rw [← compareMessages_eq, hbasis,
      compareMessages_staged hleft.1 hright.1 (hleft.2.trans hright.2.symm)] at hle
    cases hstaged : compare (stagedKey messages left) (stagedKey messages right) with
    | lt => rfl
    | eq => rfl
    | gt => simp [hstaged] at hle
  · have hascending : (conversationIds messages).Pairwise fun first second =>
        compare first second = .lt := ExtTreeSet.ordered_toList
    refine hascending.imp ?_
    intro first second hlt left hleft right hright
    rw [mem_sortConversation, mem_conversationMessages] at hleft hright
    rw [compare_pair, stagedKey, stagedKey, hleft.2, hright.2, hlt]
    rfl

/-- The columns of the order that do not depend on the conversation. -/
def orderColumns (message : CanonicalMessage) :
    String × Option ℤ × Option ℤ × Option ℤ × Option ℤ × String × String × ℤ :=
  (message.conversationId, message.sortSequence, message.serverId, message.createdAtUnix,
    message.localId, message.sourceLogicalPath, message.sourceTableId, message.sourceRowId)

theorem stagedKey_eq_iff {messages : List CanonicalMessage} {left right : CanonicalMessage} :
    stagedKey messages left = stagedKey messages right ↔
      orderColumns left = orderColumns right := by
  constructor
  · intro h
    simp only [stagedKey, Prod.mk.injEq] at h
    simp only [orderColumns, Prod.mk.injEq]
    exact ⟨h.1, h.2.2⟩
  · intro h
    simp only [orderColumns, Prod.mk.injEq] at h
    rcases h with ⟨hconversation, hsequence, hserver, hcreated, hlocal, hpath, htable, hrow⟩
    have hprimary : ∀ basis, stagedPrimary basis left = stagedPrimary basis right := by
      intro basis
      cases basis <;> simp [stagedPrimary, hsequence, hserver, hcreated, hlocal, hrow]
    simp only [stagedKey, hconversation, hprimary, hsequence, hserver, hcreated, hlocal, hpath,
      htable, hrow]

/-- No two messages agree in all columns of the order. -/
def Untied (messages : List CanonicalMessage) : Prop := (messages.map orderColumns).Nodup

/-- Without ties the query has one result. -/
theorem rows_eq_sortMessages {messages rows : List CanonicalMessage} (huntied : Untied messages)
    (hperm : rows.Perm messages)
    (hsorted : rows.Pairwise fun left right =>
      (compare (stagedKey messages left) (stagedKey messages right)).isLE = true) :
    rows = sortMessages messages := by
  apply (hperm.trans (sortMessages_perm messages).symm).eq_of_pairwise _ hsorted
    (sortMessages_staged messages)
  intro left right hleft hright hle hge
  have heq := Std.compare_eq_iff_eq.mp (Std.OrientedCmp.isLE_antisymm hle hge)
  exact List.inj_on_of_nodup_map huntied (hperm.mem_iff.mp hleft)
    ((sortMessages_perm messages).mem_iff.mp hright) (stagedKey_eq_iff.mp heq)

/-! Numbering -/

/-- A row as the restore writes it. -/
def written (messages : List CanonicalMessage) (ordinal : ℕ) (message : CanonicalMessage) :
    CanonicalMessage :=
  resolveRelationships messages
    (placed (stagedBasis messages message.conversationId) ordinal message)

theorem writeRows_cons (messages : List CanonicalMessage) (previous : Option String) (ordinal : ℕ)
    (message : CanonicalMessage) (rows : List CanonicalMessage) :
    writeRows messages previous ordinal (message :: rows) =
      written messages (if previous = some message.conversationId then ordinal + 1 else 0) message ::
        writeRows messages (some message.conversationId)
          (if previous = some message.conversationId then ordinal + 1 else 0) rows := rfl

/-- Within a conversation the numbers go on. -/
theorem writeRows_same {messages group rest : List CanonicalMessage} {conversation : String}
    (h : ∀ message ∈ group, message.conversationId = conversation) (ordinal : ℕ) :
    writeRows messages (some conversation) ordinal (group ++ rest) =
      group.mapIdx (fun index => written messages (ordinal + 1 + index)) ++
        writeRows messages (some conversation) (ordinal + group.length) rest := by
  induction group generalizing ordinal with
  | nil => simp
  | cons message group ih =>
    rw [List.forall_mem_cons] at h
    rw [List.cons_append, writeRows_cons, h.1, if_pos rfl, ih h.2, List.mapIdx_cons,
      List.cons_append, List.length_cons]
    have hindex : ∀ index, ordinal + 1 + 1 + index = ordinal + 1 + (index + 1) := by omega
    have hlength : ordinal + 1 + group.length = ordinal + (group.length + 1) := by omega
    simp only [hindex, hlength, Nat.add_zero]

/-- Another conversation starts at zero. -/
theorem writeRows_groups {messages : List CanonicalMessage} {group : String → List CanonicalMessage}
    {conversations : List String} (hnodup : conversations.Nodup)
    (hgroup : ∀ conversation ∈ conversations, group conversation ≠ [] ∧
      ∀ message ∈ group conversation, message.conversationId = conversation)
    {previous : Option String} (hprevious : ∀ conversation ∈ conversations,
      previous ≠ some conversation) (ordinal : ℕ) :
    writeRows messages previous ordinal (conversations.flatMap group) =
      conversations.flatMap fun conversation => (group conversation).mapIdx (written messages) := by
  induction conversations generalizing previous ordinal with
  | nil => rfl
  | cons conversation conversations ih =>
    rw [List.nodup_cons] at hnodup
    rw [List.forall_mem_cons] at hgroup hprevious
    rw [List.flatMap_cons, List.flatMap_cons]
    cases hfirst : group conversation with
    | nil => exact absurd hfirst hgroup.1.1
    | cons message rows =>
      have hsame := hgroup.1.2
      rw [hfirst, List.forall_mem_cons] at hsame
      have hnext : ∀ later ∈ conversations, some conversation ≠ some later := by
        intro later hlater hequal
        apply hnodup.1
        rwa [Option.some.inj hequal]
      rw [List.cons_append, writeRows_cons, hsame.1, if_neg hprevious.1,
        writeRows_same hsame.2, ih hnodup.2 hgroup.2 hnext, List.mapIdx_cons, List.cons_append]
      simp only [Nat.zero_add, Nat.add_comm 1]

theorem writeRows_sorted (messages : List CanonicalMessage) :
    writeRows messages none 0 (sortMessages messages) =
      (conversationIds messages).flatMap fun conversation =>
        (sortConversation (conversationMessages messages conversation)).mapIdx
          (written messages) := by
  apply writeRows_groups (nodup_conversationIds messages)
  · intro conversation hconversation
    constructor
    · rcases mem_conversationIds.mp hconversation with ⟨message, hmessage, hsame⟩
      apply List.ne_nil_of_mem
      rw [mem_sortConversation, mem_conversationMessages]
      exact ⟨hmessage, hsame⟩
    · intro message hmessage
      rw [mem_sortConversation, mem_conversationMessages] at hmessage
      exact hmessage.2
  · intro _ _ hnone
    cases hnone

/-! Links -/

/-- A relationship names a server identifier that no message of the conversation
has, beside a local identifier that one has. -/
def FallsBack (messages : List CanonicalMessage) (conversation : String)
    (relationship : MessageRelationship) : Prop :=
  ∃ server localId, relationship.targetServerId = some server ∧
    relationship.targetLocalId = some localId ∧
    (∀ message ∈ messages, message.conversationId = conversation →
      message.serverId ≠ some server) ∧
    ∃ message ∈ messages, message.conversationId = conversation ∧
      message.localId = some localId

theorem targetsBy_eq_nil {identifier : CanonicalMessage → Option ℤ}
    {messages : List CanonicalMessage} {conversation : String} {wanted : ℤ} :
    targetsBy identifier messages conversation wanted = [] ↔ ∀ message ∈ messages,
      message.conversationId = conversation → identifier message ≠ some wanted := by
  simp [targetsBy, List.filter_eq_nil_iff]

/-- There the merge searches again, by the local identifier. -/
theorem fallsBack_iff {messages : List CanonicalMessage} {conversation : String}
    {relationship : MessageRelationship} : FallsBack messages conversation relationship ↔
      ∃ server localId, relationship.targetServerId = some server ∧
        relationship.targetLocalId = some localId ∧
        targetsBy (·.serverId) messages conversation server = [] ∧
        targetsBy (·.localId) messages conversation localId ≠ [] := by
  simp only [FallsBack, ne_eq, targetsBy_eq_nil]
  simp only [not_forall, not_not, exists_prop]

/-- Two targets are as good as more. -/
theorem settled_staged (identifier : CanonicalMessage → Option ℤ) (messages : List CanonicalMessage)
    (conversation : String) (wanted : ℤ) (relationship : MessageRelationship) :
    settled relationship (stagedTargets identifier messages conversation wanted) =
      settled relationship (targetsBy identifier messages conversation wanted) := by
  have htake : ∀ targets : List String,
      settled relationship (targets.take 2) = settled relationship targets := by
    intro targets
    match targets with
    | [] => rfl
    | [_] => rfl
    | [_, _] => rfl
    | _ :: _ :: _ :: _ => simp [settled]
  rw [stagedTargets, List.map_take, htake]
  exact settled_perm ((sortBy_perm _ _).map _) relationship

theorem settled_nil_ne {relationship : MessageRelationship} {target : String}
    {targets : List String} (hserver : relationship.targetServerId.isNone = false) :
    settled relationship [] ≠ settled relationship (target :: targets) := by
  intro h
  have hstate := congrArg MessageRelationship.resolutionState h
  cases targets <;> simp [settled, hserver] at hstate

theorem resolve_eq_iff (messages : List CanonicalMessage) (conversation : String)
    (relationship : MessageRelationship) :
    settled relationship (restoredTargets messages conversation relationship) =
        resolveRelationship messages conversation relationship ↔
      ¬ FallsBack messages conversation relationship := by
  rw [resolveRelationship_eq, restoredTargets, relationshipTargets, fallsBack_iff]
  cases hserver : relationship.targetServerId with
  | none =>
    simp only [reduceCtorEq, false_and, exists_false, not_false_eq_true, iff_true]
    cases hlocal : relationship.targetLocalId with
    | none => rfl
    | some localId => exact settled_staged _ _ _ _ _
  | some server =>
    simp only [Option.map_some]
    rw [settled_staged]
    cases hfound : targetsBy (·.serverId) messages conversation server with
    | cons target targets =>
      simp only [true_iff]
      rintro ⟨wanted, localId, hsame, -, hnone, -⟩
      obtain rfl := Option.some.inj hsame
      rw [hfound] at hnone
      cases hnone
    | nil =>
      cases hlocal : relationship.targetLocalId with
      | none =>
        simp only [Option.map_none, Option.getD_none, true_iff]
        rintro ⟨wanted, localId, -, hsome, -⟩
        cases hsome
      | some localId =>
        simp only [Option.map_some, Option.getD_some]
        cases htargets : targetsBy (·.localId) messages conversation localId with
        | nil =>
          simp only [true_iff]
          rintro ⟨wanted, other, -, hsame, -, hne⟩
          obtain rfl := Option.some.inj hsame
          exact hne htargets
        | cons target targets =>
          have hnamed : relationship.targetServerId.isNone = false := by rw [hserver, Option.isNone_some]
          have hne := @settled_nil_ne relationship target targets hnamed
          have hpresent : targetsBy (·.localId) messages conversation localId ≠ [] := by
            rw [htargets]
            exact List.cons_ne_nil _ _
          simp only [hne, false_iff, not_not]
          exact ⟨server, localId, rfl, rfl, hfound, hpresent⟩

/-- Every lookup of the restore that fails, fails in the merge too. -/
def Settled (messages : List CanonicalMessage) : Prop :=
  ∀ message ∈ messages, ∀ relationship ∈ message.relationships,
    ¬ FallsBack messages message.conversationId relationship

/-- The messages numbered within their conversations and finished one by one. -/
def numbered (messages : List CanonicalMessage) (finish : ℕ → CanonicalMessage → CanonicalMessage) :
    List CanonicalMessage :=
  (conversationIds messages).flatMap fun conversation =>
    (sortConversation (conversationMessages messages conversation)).mapIdx finish

theorem mapIdx_congr {α β : Type} {f g : ℕ → α → β} {values : List α}
    (h : ∀ index, ∀ value ∈ values, f index value = g index value) :
    values.mapIdx f = values.mapIdx g := by
  apply List.ext_getElem
  · simp
  · intro index _ _
    rw [List.getElem_mapIdx, List.getElem_mapIdx]
    exact h index _ (List.getElem_mem _)

theorem numbered_congr {messages : List CanonicalMessage}
    {finish finish' : ℕ → CanonicalMessage → CanonicalMessage}
    (h : ∀ ordinal, ∀ message ∈ messages, finish ordinal message = finish' ordinal message) :
    numbered messages finish = numbered messages finish' := by
  rw [numbered, numbered]
  apply List.flatMap_congr
  intro conversation _
  apply mapIdx_congr
  intro ordinal message hmessage
  rw [mem_sortConversation, mem_conversationMessages] at hmessage
  exact h ordinal message hmessage.1

/-- What does not depend on the number is read off the sorted messages. -/
theorem map_numbered {β : Type} {messages : List CanonicalMessage}
    {finish : ℕ → CanonicalMessage → CanonicalMessage} {view view' : CanonicalMessage → β}
    (h : ∀ ordinal message, view (finish ordinal message) = view' message) :
    (numbered messages finish).map view = (sortMessages messages).map view' := by
  rw [numbered, sortMessages, List.map_flatMap, List.map_flatMap]
  apply List.flatMap_congr
  intro conversation _
  apply List.ext_getElem
  · simp
  · intro index _ _
    simp only [List.getElem_map, List.getElem_mapIdx, h]

/-- A message as the merge writes it. -/
def merged (messages : List CanonicalMessage) (ordinal : ℕ) (message : CanonicalMessage) :
    CanonicalMessage :=
  resolveMessage messages (placed (stagedBasis messages message.conversationId) ordinal message)

theorem orderAndResolveMessages_numbered (messages : List CanonicalMessage) :
    orderAndResolveMessages messages = numbered messages (merged messages) := by
  rw [orderAndResolveMessages_eq, orderMessages, numbered, List.map_flatMap]
  apply List.flatMap_congr
  intro conversation _
  rw [← conversationMessages, orderConversation_eq]
  apply List.ext_getElem
  · simp
  · intro ordinal hordinal _
    rw [List.length_map, List.length_mapIdx] at hordinal
    have hmessage := List.getElem_mem hordinal
    rw [mem_sortConversation, mem_conversationMessages] at hmessage
    rw [List.getElem_map, List.getElem_mapIdx, List.getElem_mapIdx, merged, hmessage.2,
      stagedBasis_eq]

theorem written_eq_merged {messages : List CanonicalMessage} (hsettled : Settled messages)
    (ordinal : ℕ) {message : CanonicalMessage} (h : message ∈ messages) :
    written messages ordinal message = merged messages ordinal message := by
  rw [written, merged, resolveRelationships, resolveMessage]
  congr 1
  apply List.map_congr_left
  intro relationship hrelationship
  exact (resolve_eq_iff messages _ relationship).mpr (hsettled message h relationship hrelationship)

/-- Over one order, the restore and the merge agree where no lookup falls back. -/
theorem writeRows_eq_iff (messages : List CanonicalMessage) :
    writeRows messages none 0 (sortMessages messages) = orderAndResolveMessages messages ↔
      Settled messages := by
  have hwrite : writeRows messages none 0 (sortMessages messages) =
      numbered messages (written messages) := writeRows_sorted messages
  rw [hwrite, orderAndResolveMessages_numbered]
  constructor
  · intro h message hmessage relationship hrelationship
    have hwritten : ∀ ordinal message, (written messages ordinal message).relationships =
        (resolveRelationships messages message).relationships := fun _ _ => rfl
    have hmerged : ∀ ordinal message, (merged messages ordinal message).relationships =
        (resolveMessage messages message).relationships := fun _ _ => rfl
    have hlinks := congrArg (List.map (·.relationships)) h
    rw [map_numbered hwritten, map_numbered hmerged, List.map_inj_left] at hlinks
    have hsame := hlinks message ((sortMessages_perm messages).mem_iff.mpr hmessage)
    exact (resolve_eq_iff messages _ relationship).mp
      (List.map_inj_left.mp hsame relationship hrelationship)
  · intro hsettled
    exact numbered_congr fun ordinal _ => written_eq_merged hsettled ordinal

/-! Restore and merge -/

/-- The merge orders and links restored messages as the restore did, and keeps
them where the fragment repeats what it replaces. -/
structure MergesAlike (messages : List CanonicalMessage) : Prop where
  same : ∀ result, Restored messages result → result = orderAndResolveMessages messages
  kept : ∀ result, Restored messages result → ∀ fragment selected affected ledger,
    mergeMessages result fragment selected affected = .ok ledger →
    (fragment.map unplaced).Perm
      ((result.filter fun message => affected.contains message.sourceSetId).map unplaced) →
    orderAndResolveMessages ledger = result

theorem restored_sortMessages (messages : List CanonicalMessage) :
    Restored messages (writeRows messages none 0 (sortMessages messages)) :=
  ⟨sortMessages messages, sortMessages_perm messages, sortMessages_staged messages, rfl⟩

theorem canonicalId_writeRows (messages : List CanonicalMessage) (rows : List CanonicalMessage) :
    ∀ previous ordinal, (writeRows messages previous ordinal rows).map (·.canonicalId) =
      rows.map (·.canonicalId) := by
  induction rows with
  | nil => exact fun _ _ => rfl
  | cons message rows ih =>
    intro previous ordinal
    rw [writeRows_cons, List.map_cons, List.map_cons, ih]
    rfl

/-- Two messages that tie can be exchanged in the query's result. -/
theorem restored_exchange {messages : List CanonicalMessage} (hnodup : messages.Nodup)
    {left right : CanonicalMessage} (hleft : left ∈ messages) (hright : right ∈ messages)
    (htie : orderColumns left = orderColumns right) :
    Restored messages
      (writeRows messages none 0 ((sortMessages messages).map (Equiv.swap left right))) := by
  have hcolumns : ∀ message, orderColumns (Equiv.swap left right message) =
      orderColumns message := by
    intro message
    rw [Equiv.swap_apply_def]
    split_ifs with hfirst hsecond
    · rw [hfirst, htie]
    · rw [hsecond, htie]
    · rfl
  have hkept : ∀ message ∈ messages, Equiv.swap left right message ∈ messages := by
    intro message hmessage
    rw [Equiv.swap_apply_def]
    split_ifs
    · exact hright
    · exact hleft
    · exact hmessage
  have hperm : (messages.map (Equiv.swap left right)).Perm messages := by
    apply (List.perm_ext_iff_of_nodup (hnodup.map (Equiv.injective _)) hnodup).mpr
    intro message
    constructor
    · intro h
      rcases List.mem_map.mp h with ⟨original, horiginal, rfl⟩
      exact hkept original horiginal
    · intro h
      exact List.mem_map.mpr ⟨_, hkept message h, Equiv.swap_apply_self left right message⟩
  refine ⟨_, ((sortMessages_perm messages).map _).trans hperm, ?_, rfl⟩
  rw [List.pairwise_map]
  apply (sortMessages_staged messages).imp
  intro first second hle
  rwa [stagedKey_eq_iff.mpr (hcolumns first), stagedKey_eq_iff.mpr (hcolumns second)]

theorem MergesAlike.untied {messages : List CanonicalMessage}
    (hids : (messages.map (·.canonicalId)).Nodup) (h : MergesAlike messages) : Untied messages := by
  have hnodup : messages.Nodup := hids.of_map _
  rw [Untied, List.nodup_map_iff_inj_on hnodup]
  intro left hleft right hright htie
  have hsame := (h.same _ (restored_exchange hnodup hleft hright htie)).trans
    (h.same _ (restored_sortMessages messages)).symm
  have hidentities := congrArg (List.map (·.canonicalId)) hsame
  rw [canonicalId_writeRows, canonicalId_writeRows, List.map_map, List.map_inj_left] at hidentities
  have hexchanged := hidentities left ((sortMessages_perm messages).mem_iff.mpr hleft)
  rw [Function.comp_apply, Equiv.swap_apply_left] at hexchanged
  exact List.inj_on_of_nodup_map hids hleft hright hexchanged.symm

theorem mergesAlike_of_untied {messages : List CanonicalMessage}
    (hids : (messages.map (·.canonicalId)).Nodup) (huntied : Untied messages)
    (hsettled : Settled messages) : MergesAlike messages := by
  have hsame : ∀ result, Restored messages result → result = orderAndResolveMessages messages := by
    rintro result ⟨rows, hperm, hsorted, rfl⟩
    rw [rows_eq_sortMessages huntied hperm hsorted]
    exact (writeRows_eq_iff messages).mpr hsettled
  refine ⟨hsame, ?_⟩
  intro result hresult fragment selected affected ledger hledger hfragment
  have hordered := hsame result hresult
  obtain ⟨hperm, -, -⟩ := mergeMessages_ok hledger
  have hparts : (unaffected (·.sourceSetId) affected result ++
      result.filter fun message => affected.contains message.sourceSetId).Perm result :=
    List.perm_append_comm.trans (List.filter_append_perm _ result)
  have hrepeated : ((unaffected (·.sourceSetId) affected result ++ fragment).map unplaced).Perm
      (result.map unplaced) := by
    rw [List.map_append]
    refine (hfragment.append_left _).trans ?_
    rw [← List.map_append]
    exact hparts.map unplaced
  have hcontent : (messages.map unplaced).Perm (ledger.map unplaced) := by
    have hledgerResult := (hperm.map unplaced).trans hrepeated
    rw [hordered] at hledgerResult
    exact (hledgerResult.trans (orderAndResolveMessages_perm messages)).symm
  rw [hordered]
  exact (orderAndResolveMessages_congr hcontent hids).symm

/-- Restore and merge agree on messages that do not tie and whose relationships
name no absent server identifier beside a present local one. -/
theorem restore_merges_alike_iff {messages : List CanonicalMessage}
    (hids : (messages.map (·.canonicalId)).Nodup) :
    MergesAlike messages ↔ Untied messages ∧ Settled messages := by
  constructor
  · intro h
    exact ⟨h.untied hids, (writeRows_eq_iff messages).mp (h.same _ (restored_sortMessages messages))⟩
  · rintro ⟨huntied, hsettled⟩
    exact mergesAlike_of_untied hids huntied hsettled

def chatMessage (identifier : String) (position : ℤ) (serverId : Option ℤ)
    (relationships : List MessageRelationship) : CanonicalMessage where
  canonicalId := identifier
  accountId := "account"
  sourceSetId := "phone"
  sourceLogicalPath := "message_0.db"
  sourceTableId := "table-1"
  sourceTableName := "Msg_1"
  sourceRowId := position
  conversationId := "chat"
  conversationSourceIdentifierBase64 := "Y2hhdA=="
  senderId := none
  senderSourceIdentifierBase64 := none
  localId := some position
  serverId := serverId
  sortSequence := some position
  createdAtUnix := some position
  conversationOrdinal := 0
  orderingBasis := .sortSequence
  rawType := some 1
  logicalType := some 1
  subType := some 0
  status := some 3
  direction := .unknown
  directionEvidence := .unresolved
  contentBase64 := none
  packedInfoBase64 := none
  compressionType := none
  rawColumns := ∅
  typedPayload := .decoded "\x7b\x7d"
  semanticDecodeState := .complete
  semanticGapReason := none
  relationships := relationships
  artifactReferences := []

def quoteOf (serverId localId : ℤ) : MessageRelationship where
  kind := .quote
  targetCanonicalId := none
  targetServerId := some serverId
  targetLocalId := some localId
  resolved := false
  resolutionState := .pending
  rawReferenceBase64 := none

/-- A quote names both identifiers of the message before it, which the server has
acknowledged or not. -/
def quotedMessages (acknowledged : Option ℤ) : List CanonicalMessage :=
  [chatMessage "first" 17 acknowledged [],
   chatMessage "second" 18 (some 5000) [quoteOf 4242 17]]

theorem restore_merges_alike_sample : MergesAlike (quotedMessages (some 4242)) := by
  apply (restore_merges_alike_iff (by decide)).mpr
  constructor
  · simp [Untied, quotedMessages, chatMessage, orderColumns]
  · intro message hmessage relationship hrelationship
    simp only [quotedMessages, List.mem_cons, List.not_mem_nil, or_false] at hmessage
    rcases hmessage with rfl | rfl
    · cases hrelationship
    · rw [List.mem_singleton.mp hrelationship]
      rintro ⟨server, localId, hserver, -, hnone, -⟩
      obtain rfl := Option.some.inj hserver
      exact hnone (chatMessage "first" 17 (some 4242) []) List.mem_cons_self rfl rfl

/-- The restore leaves a quote open that the merge resolves. -/
theorem restore_merges_alike_fails : ¬ MergesAlike (quotedMessages none) := by
  intro h
  have hsettled := (writeRows_eq_iff _).mp (h.same _ (restored_sortMessages (quotedMessages none)))
  apply hsettled (chatMessage "second" 18 (some 5000) [quoteOf 4242 17]) (by simp [quotedMessages])
    (quoteOf 4242 17) (by simp [chatMessage])
  rw [fallsBack_iff]
  exact ⟨4242, 17, rfl, rfl, by decide, by decide⟩

end GreenBubbles.Restore
