import GreenBubbles.Merge.Freshness

/-! # Replacing a whole archive

An integrity scan restores every source set of its snapshot, so a merge should
publish what the fragment alone leads to. Records that name a source set are
replaced; members of a conversation and the residual of the omission counter
name none, and the merge unites them with the previous ones.
-/
namespace GreenBubbles.Merge

open Std Archive Library.Ordered

/-! Memberships and participants of a conversation after the merge settled it. -/

theorem find?_observed (observed : List String) (k : String × ℕ) :
    (observed.map observedMembership).find? (membershipKey · = k) =
      if k.1 ∈ observed ∧ k.2 = ConversationMembershipRole.observedSender.rank then
        some (observedMembership k.1) else none := by
  induction observed with
  | nil => simp
  | cons participant observed ih =>
    rw [List.map_cons, List.find?_cons, ih]
    obtain ⟨wanted, rank⟩ := k
    by_cases hsame : participant = wanted
    · subst hsame
      by_cases hrank : rank = ConversationMembershipRole.observedSender.rank
      · simp [membershipKey, observedMembership, hrank]
      · simp [membershipKey, observedMembership, hrank, Ne.symm hrank]
    · simp [membershipKey, observedMembership, hsame, Ne.symm hsame]

/-- A conversation as the merge publishes it. -/
def published (messages : List CanonicalMessage) (joined : CanonicalConversation) :
    CanonicalConversation :=
  settleConversation messages (normalizeConversation (observeSenders messages joined))

theorem mem_participantIds_published {messages : List CanonicalMessage}
    {joined : CanonicalConversation} {participant : String} :
    participant ∈ (published messages joined).participantIds ↔
      participant ∈ joined.participantIds ∨
        participant ∈ joined.memberships.map (·.participantId) ∨
          participant ∈ messageParticipants messages joined.conversationId := by
  have hobserved : ∀ participants : List String,
      (participants.map observedMembership).map (·.participantId) = participants := by
    intro participants
    simp [Function.comp_def, observedMembership]
  rw [published, settleConversation, mem_participantIds_normalize, List.mem_append,
    mem_memberIds_normalize, mem_participantIds_normalize]
  simp only [observeSenders, normalizeConversation, List.mem_append, List.map_append, hobserved]
  tauto

theorem find?_memberships_published (messages : List CanonicalMessage)
    (joined : CanonicalConversation) (k : String × ℕ) :
    (published messages joined).memberships.find? (membershipKey · = k) =
      (joined.memberships.find? (membershipKey · = k)).or
        (if k.1 ∈ messageParticipants messages joined.conversationId ∧
            k.2 = ConversationMembershipRole.observedSender.rank then
          some (observedMembership k.1) else none) := by
  rw [published, settleConversation, find?_memberships_normalize]
  simp only [find?_memberships_normalize, observeSenders, List.find?_append, find?_observed]

theorem ascending_memberships_published (messages : List CanonicalMessage)
    (joined : CanonicalConversation) :
    Ascending membershipKey (published messages joined).memberships :=
  ascending_memberships_normalize _

/-- A conversation with its source records in the order of their keys. -/
def conversationInSourceOrder (conversation : CanonicalConversation) : CanonicalConversation :=
  { conversation with sourceRecords := sortBy sourceRecordKey conversation.sourceRecords }

/-- A fragment's conversation united with the previous record under its identifier. -/
def united (old new : CanonicalConversation) (source : List EntitySourceRecord) :
    CanonicalConversation :=
  { new with
    sourceRecords := source
    memberships := mergeMemberships old.memberships new.memberships
    participantIds := new.participantIds ++ old.participantIds }

/-- The fragment restates every member the previous record of a conversation has,
and names each of its own members once. -/
structure MembersRestated (messages : List CanonicalMessage)
    (old new : CanonicalConversation) : Prop where
  participants : ∀ participant ∈ old.participantIds, participant ∈ new.participantIds ∨
    participant ∈ new.memberships.map (·.participantId) ∨
      participant ∈ messageParticipants messages new.conversationId
  memberships : ∀ k membership,
    old.memberships.reverse.find? (membershipKey · = k) = some membership →
      k ∈ new.memberships.map membershipKey ∨
        (membership.participantId ∈ messageParticipants messages new.conversationId ∧
          membership = observedMembership membership.participantId)
  once : ∀ k, new.memberships.reverse.find? (membershipKey · = k) =
    new.memberships.find? (membershipKey · = k)

theorem find?_membership_none {memberships : List ConversationMembership} {k : String × ℕ}
    (h : k ∉ memberships.map membershipKey) :
    memberships.find? (membershipKey · = k) = none := by
  rw [List.find?_eq_none]
  intro membership hmem hkey
  exact h (List.mem_map.mpr ⟨membership, hmem, of_decide_eq_true hkey⟩)

theorem find?_membership_key {memberships : List ConversationMembership} {k : String × ℕ}
    {membership : ConversationMembership}
    (h : memberships.find? (membershipKey · = k) = some membership) :
    membershipKey membership = k := by
  have hkey := List.find?_some h
  rwa [decide_eq_true_eq] at hkey

theorem find?_membership_some {memberships : List ConversationMembership} {k : String × ℕ}
    (h : k ∈ memberships.map membershipKey) :
    ∃ membership, memberships.find? (membershipKey · = k) = some membership ∧
      membershipKey membership = k := by
  obtain ⟨listed, hlisted, hkey⟩ := List.mem_map.mp h
  have hsome : (memberships.find? (membershipKey · = k)).isSome := by
    rw [List.find?_isSome]
    exact ⟨listed, hlisted, decide_eq_true hkey⟩
  obtain ⟨membership, hfound⟩ := Option.isSome_iff_exists.mp hsome
  exact ⟨membership, hfound, find?_membership_key hfound⟩

/-- A conversation that names every previous member, each once, restates them. -/
theorem MembersRestated.of_subset {messages : List CanonicalMessage}
    {old new : CanonicalConversation}
    (hparticipants : ∀ participant ∈ old.participantIds, participant ∈ new.participantIds)
    (hmembers : ∀ k ∈ old.memberships.map membershipKey, k ∈ new.memberships.map membershipKey)
    (hnodup : (new.memberships.map membershipKey).Nodup) : MembersRestated messages old new where
  participants participant hold := .inl (hparticipants participant hold)
  memberships := by
    intro k membership hfound
    left
    have hmem := List.mem_reverse.mp (List.mem_of_find?_eq_some hfound)
    rw [← find?_membership_key hfound]
    exact hmembers _ (List.mem_map_of_mem hmem)
  once := by
    intro k
    ext membership
    have hreverse : (new.memberships.reverse.map membershipKey).Nodup := by
      rw [List.map_reverse, List.nodup_reverse]
      exact hnodup
    have hlast := find?_key hreverse (k := k) (a := membership)
    have hfirst := find?_key hnodup (k := k) (a := membership)
    simp only [beq_eq_decide, List.mem_reverse] at hlast hfirst
    rw [hlast, hfirst]

theorem published_sources_perm (messages : List CanonicalMessage)
    (joined : CanonicalConversation) :
    (published messages joined).sourceRecords.Perm joined.sourceRecords :=
  (perm_sourceRecords_normalize _).trans (perm_sourceRecords_normalize _)

/-- Published conversations differ in participants and memberships only. -/
theorem published_united_eq_iff {messages : List CanonicalMessage}
    {old new : CanonicalConversation} {source : List EntitySourceRecord}
    (hperm : source.Perm new.sourceRecords) (hnodup : (source.map sourceRecordKey).Nodup) :
    conversationInSourceOrder (published messages (united old new source)) =
        conversationInSourceOrder (published messages new) ↔
      (∀ participant, participant ∈ (published messages (united old new source)).participantIds ↔
        participant ∈ (published messages new).participantIds) ∧
      ∀ k, (published messages (united old new source)).memberships.find? (membershipKey · = k) =
        (published messages new).memberships.find? (membershipKey · = k) := by
  have hsources : sortBy sourceRecordKey (published messages (united old new source)).sourceRecords =
      sortBy sourceRecordKey (published messages new).sourceRecords := by
    have hunited := published_sources_perm messages (united old new source)
    apply sortBy_eq_of_perm
    · exact hunited.trans (hperm.trans (published_sources_perm messages new).symm)
    · exact (hunited.map _).nodup_iff.mpr hnodup
  have hparticipants : (published messages (united old new source)).participantIds =
      (published messages new).participantIds ↔ ∀ participant,
        participant ∈ (published messages (united old new source)).participantIds ↔
          participant ∈ (published messages new).participantIds := by
    constructor
    · intro h participant
      rw [h]
    · exact (ascending_participantIds_normalize _).ext (ascending_participantIds_normalize _)
  rw [← hparticipants, ← (ascending_memberships_published _ _).eq_iff_find?
    (ascending_memberships_published _ _)]
  constructor
  · intro h
    rw [conversationInSourceOrder, conversationInSourceOrder,
      CanonicalConversation.mk.injEq] at h
    exact ⟨h.2.2.2.2.1, h.2.2.2.2.2.1⟩
  · rintro ⟨hids, hmemberships⟩
    rw [conversationInSourceOrder, conversationInSourceOrder, hsources, hids, hmemberships]
    rfl

/-- A united conversation is published like the fragment's own exactly when the
fragment restates its members. -/
theorem published_united_iff {messages : List CanonicalMessage}
    {old new : CanonicalConversation} {source : List EntitySourceRecord}
    (hperm : source.Perm new.sourceRecords) (hnodup : (source.map sourceRecordKey).Nodup) :
    conversationInSourceOrder (published messages (united old new source)) =
        conversationInSourceOrder (published messages new) ↔ MembersRestated messages old new := by
  have hreversed : ∀ {memberships : List ConversationMembership} {k : String × ℕ},
      k ∈ memberships.reverse.map membershipKey ↔ k ∈ memberships.map membershipKey := by
    intro memberships k
    rw [List.map_reverse, List.mem_reverse]
  rw [published_united_eq_iff hperm hnodup]
  simp only [mem_participantIds_published, find?_memberships_published]
  simp only [united, List.mem_append, find?_mergeMemberships]
  constructor
  · rintro ⟨hparticipants, hmemberships⟩
    refine ⟨fun participant hold => (hparticipants participant).mp (.inl (.inr hold)), ?_, ?_⟩
    · intro k membership hold
      by_cases hnew : k ∈ new.memberships.map membershipKey
      · exact .inl hnew
      · right
        have hkey : membershipKey membership = k := find?_membership_key hold
        have hsame := hmemberships k
        rw [find?_membership_none hnew, find?_membership_none (mt hreversed.mp hnew), hold] at hsame
        simp only [Option.none_or, Option.some_or] at hsame
        split_ifs at hsame with hobserved
        rw [← hkey] at hobserved hsame
        exact ⟨hobserved.1, Option.some.inj hsame⟩
    · intro k
      by_cases hnew : k ∈ new.memberships.map membershipKey
      · obtain ⟨first, hfirst, _⟩ := find?_membership_some hnew
        obtain ⟨last, hlast, _⟩ := find?_membership_some (hreversed.mpr hnew)
        have hsame := hmemberships k
        rw [hfirst, hlast] at hsame
        simp only [Option.some_or, Option.some.injEq] at hsame
        rw [hfirst, hlast, hsame]
      · rw [find?_membership_none hnew, find?_membership_none (mt hreversed.mp hnew)]
  · rintro ⟨hparticipants, hmemberships, honce⟩
    constructor
    · intro participant
      constructor
      · rintro ((hnew | hold) | hmember | hobserved)
        · exact .inl hnew
        · exact hparticipants participant hold
        · simp only [mem_memberIds, mem_membershipKeys_merge] at hmember ⊢
          obtain ⟨rank, hold | hnew⟩ := hmember
          · obtain ⟨membership, hfound, hkey⟩ := find?_membership_some (hreversed.mpr hold)
            rcases hmemberships _ _ hfound with hcurrent | ⟨hobserved, _⟩
            · exact .inr (.inl ⟨rank, hcurrent⟩)
            · have hid : membership.participantId = participant := congrArg Prod.fst hkey
              exact .inr (.inr (hid ▸ hobserved))
          · exact .inr (.inl ⟨rank, hnew⟩)
        · exact .inr (.inr hobserved)
      · rintro (hnew | hmember | hobserved)
        · exact .inl (.inl hnew)
        · simp only [mem_memberIds, mem_membershipKeys_merge] at hmember ⊢
          obtain ⟨rank, hnew⟩ := hmember
          exact .inr (.inl ⟨rank, .inr hnew⟩)
        · exact .inr (.inr hobserved)
    · intro k
      rw [honce k]
      cases hnew : new.memberships.find? (membershipKey · = k) with
      | some membership => rfl
      | none =>
        cases hold : old.memberships.reverse.find? (membershipKey · = k) with
        | none => rfl
        | some membership =>
          have hkey : membershipKey membership = k := find?_membership_key hold
          rcases hmemberships k membership hold with hcurrent | ⟨hobserved, hplain⟩
          · obtain ⟨found, hfound, _⟩ := find?_membership_some hcurrent
            rw [hnew] at hfound
            cases hfound
          · subst hkey
            have hrank : (membershipKey membership).2 =
                ConversationMembershipRole.observedSender.rank := by
              rw [hplain]
              rfl
            rw [if_pos ⟨hobserved, hrank⟩]
            simp only [Option.none_or, Option.some_or]
            exact congrArg some hplain

/-- A conversation stays in the ledger when a message or a source record needs it. -/
def Served (messages : List CanonicalMessage) (conversation : CanonicalConversation) : Prop :=
  (∃ message ∈ messages, message.conversationId = conversation.conversationId) ∨
    conversation.sourceRecords ≠ []

theorem served_of_perm {messages : List CanonicalMessage} {left right : CanonicalConversation}
    (hid : left.conversationId = right.conversationId)
    (hperm : left.sourceRecords.Perm right.sourceRecords) :
    Served messages left ↔ Served messages right := by
  have hempty : left.sourceRecords = [] ↔ right.sourceRecords = [] := by
    rw [← List.perm_nil, ← List.perm_nil]
    exact hperm.congr_left _
  rw [Served, Served, hid, ne_eq, ne_eq, hempty]

theorem served_normalize {messages : List CanonicalMessage} {joined : CanonicalConversation} :
    Served messages (normalizeConversation (observeSenders messages joined)) ↔
      Served messages joined :=
  served_of_perm rfl (perm_sourceRecords_normalize (observeSenders messages joined))

theorem insertConversation_fresh {messages : List CanonicalMessage}
    {selected affected : SourceSets} {conversations : ExtTreeMap String CanonicalConversation}
    {new : CanonicalConversation}
    (hselected : ∀ source ∈ new.sourceRecords, source.sourceSetId ∈ selected)
    (hfresh : conversations[new.conversationId]? = none) :
    insertConversation messages selected affected conversations new =
      .ok (conversations.insert new.conversationId
        (normalizeConversation (observeSenders messages new))) := by
  unfold insertConversation
  apply check_bind_ok.mpr
  refine ⟨requireSelected_ok.mpr hselected, bind_ok.mpr ⟨new, ?_, rfl⟩⟩
  rw [hfresh]
  rfl

/-- The fragment's conversations merge into an empty ledger. -/
theorem mergeConversations_alone {fragment : List CanonicalConversation}
    {messages : List CanonicalMessage} {selected affected : SourceSets}
    (hnodup : (fragment.map (·.conversationId)).Nodup)
    (hselected : ∀ new ∈ fragment, ∀ source ∈ new.sourceRecords, source.sourceSetId ∈ selected) :
    ∃ alone, mergeConversations [] fragment messages selected affected = .ok alone := by
  obtain ⟨current, hcurrent⟩ := keyed_of_nodup "conversation" hnodup
  obtain ⟨hkeys, hmem⟩ := records_keyed hcurrent
  have hfilled : ∃ filled, (records current).foldlM (insertConversation messages selected affected)
      ((∅ : ExtTreeMap String CanonicalConversation).map
        fun _ value => stripConversation affected value) = Except.ok filled := by
    apply foldlM_insert_fresh hkeys
    · simp
    · intro new hnew conversations hfresh
      exact ⟨_, insertConversation_fresh (hselected new ((hmem new).mp hnew)) hfresh⟩
  obtain ⟨filled, hfilled⟩ := hfilled
  simp only [mergeConversations, bind_ok]
  exact ⟨_, ∅, rfl, current, hcurrent, filled, hfilled, rfl⟩

/-- Source records joined over a replaced record are the fragment's own. -/
theorem mergeSourceRecords_replaced {previous current source : List EntitySourceRecord}
    {affected : SourceSets} (hstripped : retainSourceRecords affected previous = [])
    (h : mergeSourceRecords previous current affected = .ok source) :
    source.Perm current ∧ (source.map sourceRecordKey).Nodup := by
  obtain ⟨hperm, hnodup⟩ := mergeSourceRecords_ok h
  rw [retainSourceRecords] at hstripped
  rw [hstripped, List.nil_append] at hperm
  exact ⟨hperm, hnodup⟩

/-- Conversations merged over a replaced ledger agree with the fragment's own exactly
when no message leads to a conversation only the previous archive has, and every
conversation both have is restated. -/
theorem conversations_restated_iff {previous fragment merged : List CanonicalConversation}
    {messages : List CanonicalMessage} {selected affected : SourceSets}
    (hstripped : ∀ old ∈ previous, retainSourceRecords affected old.sourceRecords = [])
    (h : mergeConversations previous fragment messages selected affected = .ok merged) :
    ∃ alone, mergeConversations [] fragment messages selected affected = .ok alone ∧
      (merged.map conversationInSourceOrder = alone.map conversationInSourceOrder ↔
        (∀ old ∈ previous, (∀ new ∈ fragment, new.conversationId ≠ old.conversationId) →
          ∀ message ∈ messages, message.conversationId ≠ old.conversationId) ∧
        ∀ old ∈ previous, ∀ new ∈ fragment, old.conversationId = new.conversationId →
          Served messages new → MembersRestated messages old new) := by
  obtain ⟨hnodupOld, hnodup, hexists, hascending, hmem⟩ := mergeConversations_ok h
  have hselected : ∀ new ∈ fragment, ∀ source ∈ new.sourceRecords, source.sourceSetId ∈ selected := by
    intro new hnew
    obtain ⟨value, hvalue, hid⟩ := hexists new (.inr hnew)
    rcases hvalue.of_current (fun _ => rfl) JoinsConversation.id_eq hnodup hnew hid with
      ⟨_, hjoins⟩ | ⟨old, _, _, hjoins⟩
    · exact hjoins.1
    · exact hjoins.1
  have hown : ∀ new ∈ fragment, JoinsConversation messages selected affected none new
      (normalizeConversation (observeSenders messages new)) :=
    fun new hnew => ⟨hselected new hnew, new, rfl, rfl⟩
  have hjoined : ∀ old ∈ previous, ∀ {new value},
      JoinsConversation messages selected affected (some (stripConversation affected old)) new value →
      ∃ source : List EntitySourceRecord, source.Perm new.sourceRecords ∧
        (source.map sourceRecordKey).Nodup ∧
        value = normalizeConversation (observeSenders messages (united old new source)) := by
    rintro old hold new value ⟨_, joined, hjoins, rfl⟩
    obtain ⟨source, hsource, rfl⟩ := joinConversation_some hjoins
    have hagain : retainSourceRecords affected (stripConversation affected old).sourceRecords = [] := by
      rw [stripConversation, hstripped old hold]
      rfl
    obtain ⟨hperm, hunique⟩ := mergeSourceRecords_replaced hagain hsource
    exact ⟨source, hperm, hunique, rfl⟩
  obtain ⟨alone, halone⟩ : ∃ alone,
      mergeConversations [] fragment messages selected affected = .ok alone :=
    mergeConversations_alone hnodup hselected
  obtain ⟨_, _, _, hascendingAlone, hmemAlone⟩ := mergeConversations_ok halone
  refine ⟨alone, halone, ?_⟩
  rw [restated_iff (settleConversation messages) conversationInSourceOrder (Served messages)
    hascending hascendingAlone hmem hmemAlone hnodup
    (fun new hnew => hexists new (.inr hnew)) (fun new hnew => ⟨_, hown new hnew⟩) (fun _ => rfl)
    JoinsConversation.id_eq JoinsConversation.unique (fun _ => rfl) (fun _ => rfl) ?_]
  · apply and_congr
    · apply forall₃_congr
      intro old hold _
      simp [Served, stripConversation, hstripped old hold]
    · constructor
      · intro h old hold new hnew hsame hserved
        obtain ⟨value, hvalue, hid⟩ := hexists new (.inr hnew)
        rcases hvalue.of_current (fun _ => rfl) JoinsConversation.id_eq hnodup hnew hid with
          ⟨hnone, _⟩ | ⟨other, hother, hsame', hjoins⟩
        · exact absurd hsame (hnone old hold)
        · obtain rfl : other = old :=
            List.inj_on_of_nodup_map hnodupOld hother hold (hsame'.trans hsame.symm)
          have hequal := h other hold new hnew hsame hjoins (hown new hnew)
            (served_normalize.mpr hserved)
          obtain ⟨source, hperm, hunique, rfl⟩ := hjoined other hold hjoins
          exact (published_united_iff hperm hunique).mp hequal
      · intro h old hold new hnew hsame value value' hjoins hjoins' hserved
        obtain rfl := hjoins'.unique (hown new hnew)
        obtain ⟨source, hperm, hunique, rfl⟩ := hjoined old hold hjoins
        exact (published_united_iff hperm hunique).mpr
          (h old hold new hnew hsame (served_normalize.mp hserved))
  · intro old hold new value value' hjoins hjoins'
    obtain ⟨_, joined, hfresh, rfl⟩ := hjoins'
    obtain rfl := Except.ok.inj hfresh
    obtain ⟨source, hperm, hunique, rfl⟩ := hjoined old hold hjoins
    rw [served_normalize, served_normalize]
    exact served_of_perm rfl hperm

/-! Participants of a replaced ledger. -/

/-- A participant with its source records in the order of their keys. -/
def participantInSourceOrder (participant : CanonicalParticipant) : CanonicalParticipant :=
  { participant with sourceRecords := sortBy sourceRecordKey participant.sourceRecords }

theorem insertParticipant_fresh {selected affected : SourceSets}
    {participants : ExtTreeMap String CanonicalParticipant} {new : CanonicalParticipant}
    (hselected : ∀ source ∈ new.sourceRecords, source.sourceSetId ∈ selected)
    (hfresh : participants[new.participantId]? = none) :
    insertParticipant selected affected participants new =
      .ok (participants.insert new.participantId new) := by
  unfold insertParticipant
  apply check_bind_ok.mpr
  refine ⟨requireSelected_ok.mpr hselected, bind_ok.mpr ⟨new, ?_, rfl⟩⟩
  rw [hfresh]
  rfl

/-- The fragment's participants merge into an empty ledger when it knows every
participant that is referenced. -/
theorem mergeParticipants_alone {fragment : List CanonicalParticipant}
    {messages : List CanonicalMessage} {conversations : List CanonicalConversation}
    {selected affected : SourceSets} (hnodup : (fragment.map (·.participantId)).Nodup)
    (hselected : ∀ new ∈ fragment, ∀ source ∈ new.sourceRecords, source.sourceSetId ∈ selected)
    (hknown : ∀ reference ∈ participantReferences conversations messages,
      ∃ new ∈ fragment, new.participantId = reference.1) :
    ∃ alone, mergeParticipants [] fragment messages conversations selected affected =
      .ok alone := by
  have hold : keyed CanonicalParticipant.participantId "participant" [] =
      .ok (∅ : ExtTreeMap String CanonicalParticipant) := rfl
  obtain ⟨current, hcurrent⟩ := keyed_of_nodup "participant" hnodup
  obtain ⟨hkeys, hmem⟩ := records_keyed hcurrent
  have hfilled : ∃ filled, (records current).foldlM (insertParticipant selected affected)
      ((∅ : ExtTreeMap String CanonicalParticipant).map
        fun _ value => stripParticipant affected value) = Except.ok filled := by
    apply foldlM_insert_fresh hkeys
    · simp
    · intro new hnew participants hfresh
      exact ⟨_, insertParticipant_fresh (hselected new ((hmem new).mp hnew)) hfresh⟩
  obtain ⟨filled, hfilled⟩ := hfilled
  obtain ⟨hfound, hexists⟩ := merged_getElem? hold hcurrent hfilled insertParticipant_ok
    (fun _ => rfl) JoinsParticipant.id_eq JoinsParticipant.unique
  have hpresent : ¬(participantReferences conversations messages).any
      (fun reference => !filled.contains reference.1) = true := by
    rw [Bool.not_eq_true, List.any_eq_false]
    intro reference hreference
    obtain ⟨new, hnew, hid⟩ := hknown reference hreference
    obtain ⟨value, hvalue, hvalueId⟩ := hexists new (.inr hnew)
    have hsome := (hfound _ _).mpr ⟨hvalue, hvalueId.trans hid⟩
    simp [ExtTreeMap.mem_iff_isSome_getElem?, hsome]
  simp only [mergeParticipants, bind_ok]
  exact ⟨_, ∅, hold, current, hcurrent, filled, hfilled, if_neg hpresent⟩

/-- Only the references of conversations matter to the merge of participants. -/
theorem mergeParticipants_congr {previous fragment : List CanonicalParticipant}
    {messages : List CanonicalMessage} {conversations conversations' : List CanonicalConversation}
    {selected affected : SourceSets}
    (h : participantReferences conversations messages =
      participantReferences conversations' messages) :
    mergeParticipants previous fragment messages conversations selected affected =
      mergeParticipants previous fragment messages conversations' selected affected := by
  unfold mergeParticipants
  rw [h]

/-- A participant with the conversations that refer to it. -/
def referTo (references : List (String × String)) (value : CanonicalParticipant) :
    CanonicalParticipant :=
  { value with conversationIds := referencedConversations references value.participantId }

/-- A participant stays in the ledger when a source record or a reference needs it. -/
def Referred (references : List (String × String)) (value : CanonicalParticipant) : Prop :=
  value.sourceRecords ≠ [] ∨ referencedConversations references value.participantId ≠ []

theorem exists_referred {references : List (String × String)} {participant : CanonicalParticipant}
    {Holds : CanonicalParticipant → Prop} :
    (∃ value, Holds value ∧ participant = { value with
        conversationIds := referencedConversations references value.participantId } ∧
      (participant.sourceRecords ≠ [] ∨ participant.conversationIds ≠ [])) ↔
    ∃ value, Holds value ∧ participant = referTo references value ∧ Referred references value := by
  apply exists_congr
  intro value
  apply and_congr_right
  intro _
  apply and_congr_right
  rintro rfl
  rfl

/-- Participants merged over a replaced ledger agree with the fragment's own exactly
when the fragment knows every participant that is referenced. -/
theorem participants_restated_iff {previous fragment merged : List CanonicalParticipant}
    {messages : List CanonicalMessage} {conversations : List CanonicalConversation}
    {selected affected : SourceSets}
    (hstripped : ∀ old ∈ previous, retainSourceRecords affected old.sourceRecords = [])
    (h : mergeParticipants previous fragment messages conversations selected affected =
      .ok merged) :
    (∃ alone, mergeParticipants [] fragment messages conversations selected affected = .ok alone ∧
      merged.map participantInSourceOrder = alone.map participantInSourceOrder) ↔
    ∀ reference ∈ participantReferences conversations messages,
      ∃ new ∈ fragment, new.participantId = reference.1 := by
  constructor
  · rintro ⟨alone, halone, _⟩ reference hreference
    obtain ⟨_, _, _, _, hreferences, _⟩ := mergeParticipants_ok halone
    obtain ⟨value, horigin, hid⟩ := hreferences reference hreference
    obtain ⟨new, hnew, hjoins⟩ := origin_alone.mp horigin
    exact ⟨new, hnew, hjoins.id_eq.symm.trans hid⟩
  · intro hknown
    obtain ⟨_, hnodup, hexists, hascending, _, hmem⟩ := mergeParticipants_ok h
    have hselected : ∀ new ∈ fragment, ∀ source ∈ new.sourceRecords,
        source.sourceSetId ∈ selected := by
      intro new hnew
      obtain ⟨value, hvalue, hid⟩ := hexists new (.inr hnew)
      rcases hvalue.of_current (fun _ => rfl) JoinsParticipant.id_eq hnodup hnew hid with
        ⟨_, hjoins⟩ | ⟨old, _, _, hjoins⟩
      · exact hjoins.1
      · exact hjoins.1
    obtain ⟨alone, halone⟩ : ∃ alone, mergeParticipants [] fragment messages conversations
        selected affected = .ok alone := mergeParticipants_alone hnodup hselected hknown
    obtain ⟨_, _, _, hascendingAlone, _, hmemAlone⟩ := mergeParticipants_ok halone
    refine ⟨alone, halone, ?_⟩
    have hown : ∀ new ∈ fragment, JoinsParticipant selected affected none new new :=
      fun new hnew => ⟨hselected new hnew, rfl⟩
    have hjoined : ∀ old ∈ previous, ∀ {new value},
        JoinsParticipant selected affected (some (stripParticipant affected old)) new value →
        ∃ source : List EntitySourceRecord, source.Perm new.sourceRecords ∧
          (source.map sourceRecordKey).Nodup ∧ value = { new with sourceRecords := source } := by
      rintro old hold new value ⟨_, hjoins⟩
      obtain ⟨source, hsource, rfl⟩ := joinParticipant_some hjoins
      have hagain : retainSourceRecords affected (stripParticipant affected old).sourceRecords =
          [] := by
        rw [stripParticipant, hstripped old hold]
        rfl
      obtain ⟨hperm, hunique⟩ := mergeSourceRecords_replaced hagain hsource
      exact ⟨source, hperm, hunique, rfl⟩
    simp only [exists_referred] at hmem hmemAlone
    rw [restated_iff (referTo (participantReferences conversations messages))
      participantInSourceOrder (Referred (participantReferences conversations messages))
      hascending hascendingAlone hmem hmemAlone hnodup (fun new hnew => hexists new (.inr hnew))
      (fun new hnew => ⟨_, hown new hnew⟩) (fun _ => rfl) JoinsParticipant.id_eq
      JoinsParticipant.unique (fun _ => rfl) (fun _ => rfl) ?_]
    · constructor
      · rintro old hold hno (hsources | hreferenced)
        · exact hsources (hstripped old hold)
        · obtain ⟨conversation, hconversation⟩ := List.exists_mem_of_ne_nil _ hreferenced
          rw [mem_referencedConversations] at hconversation
          obtain ⟨new, hnew, hid⟩ := hknown _ hconversation
          exact hno new hnew hid
      · intro old hold new hnew _ value value' hjoins hjoins' _
        obtain rfl := hjoins'.unique (hown new hnew)
        obtain ⟨source, hperm, hunique, rfl⟩ := hjoined old hold hjoins
        simp only [participantInSourceOrder, referTo]
        rw [sortBy_eq_of_perm sourceRecordKey hperm hunique]
    · intro old hold new value value' hjoins hjoins'
      obtain rfl := Except.ok.inj hjoins'.2
      obtain ⟨source, hperm, _, rfl⟩ := hjoined old hold hjoins
      have hempty : source = [] ↔ new.sourceRecords = [] := by
        rw [← List.perm_nil, ← List.perm_nil]
        exact hperm.congr_left _
      simp only [Referred, ne_eq, hempty]

/-! Ordering and resolution leave conversation and sender of every message. -/

def conversationAndSender (message : CanonicalMessage) : String × Option String :=
  (message.conversationId, message.senderId)

theorem conversationAndSender_perm {left right : List CanonicalMessage}
    (h : (left.map unplaced).Perm (right.map unplaced)) :
    (left.map conversationAndSender).Perm (right.map conversationAndSender) := by
  have hplaced : ∀ messages : List CanonicalMessage,
      (messages.map unplaced).map conversationAndSender = messages.map conversationAndSender := by
    intro messages
    rw [List.map_map]
    rfl
  rw [← hplaced left, ← hplaced right]
  exact h.map _

theorem exists_message_congr {left right : List CanonicalMessage}
    (h : (left.map conversationAndSender).Perm (right.map conversationAndSender))
    (Holds : String → Option String → Prop) :
    (∃ message ∈ left, Holds message.conversationId message.senderId) ↔
      ∃ message ∈ right, Holds message.conversationId message.senderId := by
  have hlisted : ∀ messages : List CanonicalMessage,
      (∃ message ∈ messages, Holds message.conversationId message.senderId) ↔
        ∃ pair ∈ messages.map conversationAndSender, Holds pair.1 pair.2 := by
    intro messages
    simp [conversationAndSender]
  rw [hlisted, hlisted]
  simp only [h.mem_iff]

theorem messageParticipants_congr {left right : List CanonicalMessage}
    (h : (left.map conversationAndSender).Perm (right.map conversationAndSender))
    (conversation : String) :
    messageParticipants left conversation = messageParticipants right conversation := by
  unfold messageParticipants
  congr 1
  apply ExtTreeSet.ext_mem
  intro participant
  rw [← ExtTreeSet.mem_toList, ← ExtTreeSet.mem_toList]
  change participant ∈ messageParticipants left conversation ↔
    participant ∈ messageParticipants right conversation
  simp only [mem_messageParticipants]
  exact exists_message_congr h
    fun identifier sender => identifier = conversation ∧ sender = some participant

theorem served_congr {left right : List CanonicalMessage}
    (h : (left.map conversationAndSender).Perm (right.map conversationAndSender))
    {conversation : CanonicalConversation} :
    Served left conversation ↔ Served right conversation :=
  or_congr_left (exists_message_congr h fun identifier _ => identifier = conversation.conversationId)

theorem membersRestated_congr {left right : List CanonicalMessage}
    (h : (left.map conversationAndSender).Perm (right.map conversationAndSender))
    {old new : CanonicalConversation} :
    MembersRestated left old new ↔ MembersRestated right old new := by
  have hobserved := messageParticipants_congr h new.conversationId
  constructor
  · rintro ⟨hparticipants, hmemberships, honce⟩
    rw [hobserved] at hparticipants
    simp only [hobserved] at hmemberships
    exact ⟨hparticipants, hmemberships, honce⟩
  · rintro ⟨hparticipants, hmemberships, honce⟩
    rw [← hobserved] at hparticipants
    simp only [← hobserved] at hmemberships
    exact ⟨hparticipants, hmemberships, honce⟩

/-! Cached surfaces over replaced ones. -/

variable (sha256 : List UInt8 → String)

theorem mergeCachedRecords_replaced {α : Type} {canonicalId sourceSet : α → String} {kind : String}
    {previous fragment : List α} {selected affected : SourceSets}
    (hreplaced : unaffected sourceSet affected previous = []) :
    mergeCachedRecords canonicalId sourceSet kind previous fragment selected affected =
      mergeCachedRecords canonicalId sourceSet kind [] fragment selected affected := by
  unfold mergeCachedRecords
  rw [hreplaced]
  rfl

theorem mergeCachedTables_replaced {previous fragment : Option CachedSurfaces}
    {selected affected : SourceSets}
    (hreplaced : unaffected (·.sourceSetId) affected
      ((previous.map (·.coverage.tables)).getD []) = []) :
    mergeCachedTables previous fragment selected affected =
      mergeCachedTables none fragment selected affected := by
  unfold mergeCachedTables
  rw [hreplaced]
  rfl

/-- Records, tables and omission counter of two cached surfaces agree. -/
structure SameCache (left right : Option CachedSurfaces) : Prop where
  moments : cachedMoments left = cachedMoments right
  interactions : cachedInteractions left = cachedInteractions right
  tables : cachedTables left = cachedTables right
  omissions : cachedOmissions left = cachedOmissions right

/-- The previous scan counted no omission beyond its tables, or the fragment's own
counter is at its bound already. -/
def OmissionsRestated (previous fragment : Option CachedSurfaces) : Prop :=
  cachedResidual previous = 0 ∨
    2 ^ 64 - 1 ≤ tableGaps (cachedTables fragment) + cachedResidual fragment

theorem mergeCachedSurfaces_alone {previous fragment merged : Option CachedSurfaces}
    {selected affected : SourceSets}
    (hmoments : unaffected (·.sourceSetId) affected (cachedMoments previous) = [])
    (hinteractions : unaffected (·.sourceSetId) affected (cachedInteractions previous) = [])
    (htables : unaffected (·.sourceSetId) affected (cachedTables previous) = [])
    (h : mergeCachedSurfaces sha256 previous fragment selected affected = .ok merged) :
    ∃ alone, mergeCachedSurfaces sha256 none fragment selected affected = .ok alone ∧
      cachedMoments merged = cachedMoments alone ∧
      cachedInteractions merged = cachedInteractions alone ∧
      cachedTables merged = cachedTables alone := by
  obtain ⟨hload, hmergedMoments, hmergedInteractions, hmergedTables, _⟩ :=
    mergeCachedSurfaces_ok sha256 h
  rw [mergeCachedRecords_replaced hmoments] at hmergedMoments
  rw [mergeCachedRecords_replaced hinteractions] at hmergedInteractions
  rw [mergeCachedTables_replaced htables] at hmergedTables
  have halone : ∃ alone, mergeCachedSurfaces sha256 none fragment selected affected =
      .ok alone := by
    simp only [mergeCachedSurfaces, bind_ok]
    exact ⟨_, (), rfl, (), hload, _, hmergedMoments, _, hmergedInteractions, _, hmergedTables, rfl⟩
  obtain ⟨alone, halone⟩ := halone
  obtain ⟨_, haloneMoments, haloneInteractions, haloneTables, _⟩ :=
    mergeCachedSurfaces_ok sha256 halone
  refine ⟨alone, halone, ?_, ?_, ?_⟩
  · exact Except.ok.inj (hmergedMoments.symm.trans haloneMoments)
  · exact Except.ok.inj (hmergedInteractions.symm.trans haloneInteractions)
  · exact Except.ok.inj (hmergedTables.symm.trans haloneTables)

theorem cachedTables_alone {fragment alone : Option CachedSurfaces}
    {selected affected : SourceSets}
    (h : mergeCachedSurfaces sha256 none fragment selected affected = .ok alone) :
    tableGaps (cachedTables alone) = tableGaps (cachedTables fragment) := by
  obtain ⟨_, _, _, htables, _⟩ := mergeCachedSurfaces_ok sha256 h
  exact tableGaps_perm (mergeCachedTables_ok htables)

/-- Omissions of a replaced scan are counted again unless it had none of its own. -/
theorem cachedSurfaces_restated_iff {previous fragment merged : Option CachedSurfaces}
    {selected affected : SourceSets}
    (hmoments : unaffected (·.sourceSetId) affected (cachedMoments previous) = [])
    (hinteractions : unaffected (·.sourceSetId) affected (cachedInteractions previous) = [])
    (htables : unaffected (·.sourceSetId) affected (cachedTables previous) = [])
    (h : mergeCachedSurfaces sha256 previous fragment selected affected = .ok merged) :
    (∃ alone, mergeCachedSurfaces sha256 none fragment selected affected = .ok alone ∧
      SameCache merged alone) ↔ OmissionsRestated previous fragment := by
  obtain ⟨alone, halone, hsameMoments, hsameInteractions, hsameTables⟩ :=
    mergeCachedSurfaces_alone sha256 hmoments hinteractions htables h
  have hsame : (∃ alone, mergeCachedSurfaces sha256 none fragment selected affected = .ok alone ∧
      SameCache merged alone) ↔ cachedOmissions merged = cachedOmissions alone := by
    constructor
    · rintro ⟨other, hother, hcache⟩
      rw [hother] at halone
      obtain rfl := Except.ok.inj halone
      exact hcache.omissions
    · exact fun homissions =>
        ⟨alone, halone, hsameMoments, hsameInteractions, hsameTables, homissions⟩
  obtain ⟨_, _, _, _, hmerged⟩ := mergeCachedSurfaces_ok sha256 h
  obtain ⟨_, _, _, _, hown⟩ := mergeCachedSurfaces_ok sha256 halone
  have hgaps := cachedTables_alone sha256 halone
  have hnone : cachedResidual none = 0 := rfl
  rw [hsame, hmerged, hown, hsameTables, hgaps, hnone, OmissionsRestated]
  unfold saturatingAdd
  omega

/-! The whole merge. -/

/-- The source sets the records of each ledger name. -/
def ledgerSets (archive : RestorationArchive) : List (List String) :=
  [archive.messages.map (·.sourceSetId),
    archive.conversations.flatMap fun conversation =>
      conversation.sourceRecords.map (·.sourceSetId),
    archive.participants.flatMap fun participant =>
      participant.sourceRecords.map (·.sourceSetId),
    archive.rejections.map (·.sourceSetId),
    archive.coverage.messageTables.map (·.sourceSetId),
    archive.coverage.allTables.map (·.sourceSetId),
    (cachedMoments archive.cachedSurfaces).map (·.sourceSetId),
    (cachedInteractions archive.cachedSurfaces).map (·.sourceSetId),
    (cachedTables archive.cachedSurfaces).map (·.sourceSetId)]

/-- An integrity scan that restored every source set of its snapshot, over an
archive whose other source sets are all listed as deleted. -/
structure FullReplacement (previous fragment : RestorationArchive) : Prop where
  scan : ∃ acquisition, fragment.report.acquisition = some acquisition ∧
    acquisition.mode = .integrityScan ∧
    acquisition.selectedSourceSetIds = acquisition.inventory ∧
    ∀ sourceSet ∈ (ledgerSets previous).flatten, sourceSet ∉ acquisition.inventory →
      sourceSet ∈ acquisition.deletedSourceSetIds
  fresh : ∃ coverage, fragment.report.databaseCoverage = some coverage ∧
    ∀ sourceSet ∈ inventorySets fragment.report, sourceSet ∈ coverage.freshSourceSetIds

theorem FullReplacement.replaced {previous fragment : RestorationArchive}
    (h : FullReplacement previous fragment) {sourceSet : String}
    (hmem : sourceSet ∈ (ledgerSets previous).flatten) : sourceSet ∈ replacedSets fragment.report := by
  obtain ⟨acquisition, hacquisition, _, _, hdeleted⟩ := h.scan
  obtain ⟨coverage, hcoverage, hfresh⟩ := h.fresh
  have hinventory : inventorySets fragment.report = acquisition.inventory := by
    simp [inventorySets, hacquisition]
  rw [replacedSets, ExtTreeSet.mem_union_iff]
  by_cases hlisted : sourceSet ∈ acquisition.inventory
  · left
    have hrestored := hfresh sourceSet (hinventory ▸ hlisted)
    simpa [restoredSets, hcoverage] using hrestored
  · right
    simpa [hacquisition] using hdeleted sourceSet hmem hlisted

/-- What a fragment alone leads to: its ledgers merged into empty ones. -/
structure Restatement where
  messages : List CanonicalMessage
  conversations : List CanonicalConversation
  participants : List CanonicalParticipant
  rejections : List RejectedRow
  coverage : RestorationCoverage
  cachedSurfaces : Option CachedSurfaces

/-- The coverage document of a decoder that has seen no table yet. -/
def withoutTables (coverage : RestorationCoverage) : RestorationCoverage :=
  { coverage with
    formatVersion := 0
    schemaProfileFingerprint := none
    messageTables := []
    allTables := [] }

def restate (environment : Environment) (fragment : RestorationArchive) :
    Except RestoreError Restatement := do
  let selected := restoredSets fragment.report
  let affected := replacedSets fragment.report
  let merged ← mergeMessages [] fragment.messages selected affected
  let messages := orderAndResolveMessages merged
  let conversations ← mergeConversations [] fragment.conversations messages selected affected
  let participants ← mergeParticipants [] fragment.participants messages conversations selected
    affected
  let rejections ← mergeRejections [] fragment.rejections selected affected
  let coverage ← mergeCoverage environment.sha256 (withoutTables fragment.coverage)
    fragment.coverage affected messages
  let cachedSurfaces ← mergeCachedSurfaces environment.sha256 none fragment.cachedSurfaces
    selected affected
  return { messages, conversations, participants, rejections, coverage, cachedSurfaces }

/-- A merged archive holds what a fragment alone leads to. Source records of an
entity are compared in the order of their keys. -/
structure Restatement.Matches (alone : Restatement) (merged : RestorationArchive) : Prop where
  messages : merged.messages = alone.messages
  conversations : merged.conversations.map conversationInSourceOrder =
    alone.conversations.map conversationInSourceOrder
  participants : merged.participants.map participantInSourceOrder =
    alone.participants.map participantInSourceOrder
  rejections : merged.rejections = alone.rejections
  coverage : merged.coverage = alone.coverage
  cachedSurfaces : SameCache merged.cachedSurfaces alone.cachedSurfaces

def CarriesNothing (environment : Environment) (fragment merged : RestorationArchive) : Prop :=
  ∃ alone, restate environment fragment = .ok alone ∧ alone.Matches merged

/-- A fragment restates a previous archive, for the messages it restored: no message
leads to a conversation only the previous archive has, no member and no omission is
the previous scan's alone, and the fragment knows everyone it refers to. -/
structure Restates (messages : List CanonicalMessage) (previous fragment : RestorationArchive) :
    Prop where
  conversations : ∀ old ∈ previous.conversations,
    (∀ new ∈ fragment.conversations, new.conversationId ≠ old.conversationId) →
      ∀ message ∈ messages, message.conversationId ≠ old.conversationId
  members : ∀ old ∈ previous.conversations, ∀ new ∈ fragment.conversations,
    old.conversationId = new.conversationId → Served messages new →
      MembersRestated messages old new
  participants : ∀ new ∈ fragment.conversations, Served messages new →
    ∀ participant, participant ∈ new.participantIds ∨
        participant ∈ new.memberships.map (·.participantId) →
      participant ∈ fragment.participants.map (·.participantId)
  senders : ∀ message ∈ messages, ∀ sender, message.senderId = some sender →
    sender ∈ fragment.participants.map (·.participantId)
  omissions : OmissionsRestated previous.cachedSurfaces fragment.cachedSurfaces

theorem Restates.congr {left right : List CanonicalMessage}
    {previous fragment : RestorationArchive}
    (h : (left.map conversationAndSender).Perm (right.map conversationAndSender))
    (hleft : Restates left previous fragment) : Restates right previous fragment where
  conversations := by
    intro old hold hnew message hmessage hid
    obtain ⟨other, hother, hid'⟩ := (exists_message_congr h
      fun identifier _ => identifier = old.conversationId).mpr ⟨message, hmessage, hid⟩
    exact hleft.conversations old hold hnew other hother hid'
  members := by
    intro old hold new hnew hid hserved
    exact (membersRestated_congr h).mp
      (hleft.members old hold new hnew hid ((served_congr h).mpr hserved))
  participants := by
    intro new hnew hserved
    exact hleft.participants new hnew ((served_congr h).mpr hserved)
  senders := by
    intro message hmessage sender hsender
    obtain ⟨other, hother, hsender'⟩ := (exists_message_congr h
      fun _ found => found = some sender).mpr ⟨message, hmessage, hsender⟩
    exact hleft.senders other hother sender hsender'
  omissions := hleft.omissions

theorem restate_ok {environment : Environment} {fragment : RestorationArchive}
    {alone : Restatement} :
    restate environment fragment = .ok alone ↔
      (∃ merged, mergeMessages [] fragment.messages (restoredSets fragment.report)
          (replacedSets fragment.report) = .ok merged ∧
        alone.messages = orderAndResolveMessages merged) ∧
      mergeConversations [] fragment.conversations alone.messages (restoredSets fragment.report)
        (replacedSets fragment.report) = .ok alone.conversations ∧
      mergeParticipants [] fragment.participants alone.messages alone.conversations
        (restoredSets fragment.report) (replacedSets fragment.report) = .ok alone.participants ∧
      mergeRejections [] fragment.rejections (restoredSets fragment.report)
        (replacedSets fragment.report) = .ok alone.rejections ∧
      mergeCoverage environment.sha256 (withoutTables fragment.coverage) fragment.coverage
        (replacedSets fragment.report) alone.messages = .ok alone.coverage ∧
      mergeCachedSurfaces environment.sha256 none fragment.cachedSurfaces
        (restoredSets fragment.report) (replacedSets fragment.report) =
          .ok alone.cachedSurfaces := by
  simp only [restate, bind_ok]
  constructor
  · rintro ⟨merged, hmessages, conversations, hconversations, participants, hparticipants,
      rejections, hrejections, coverage, hcoverage, cached, hcached, h⟩
    obtain rfl := Except.ok.inj h
    exact ⟨⟨merged, hmessages, rfl⟩, hconversations, hparticipants, hrejections, hcoverage,
      hcached⟩
  · rintro ⟨⟨merged, hmessages, hordered⟩, hconversations, hparticipants, hrejections, hcoverage,
      hcached⟩
    rw [hordered] at hconversations hparticipants hcoverage
    refine ⟨merged, hmessages, _, hconversations, _, hparticipants, _, hrejections, _, hcoverage,
      _, hcached, ?_⟩
    rw [← hordered]
    rfl

/-! Records that name a replaced source set leave no trace. -/

theorem FullReplacement.unaffected_nil {previous fragment : RestorationArchive} {α : Type}
    {sourceSet : α → String} {values : List α} (h : FullReplacement previous fragment)
    (hledger : values.map sourceSet ∈ ledgerSets previous) :
    unaffected sourceSet (replacedSets fragment.report) values = [] := by
  rw [List.eq_nil_iff_forall_not_mem]
  intro value hmem
  rw [mem_unaffected] at hmem
  apply hmem.2
  exact h.replaced (List.mem_flatten.mpr ⟨_, hledger, List.mem_map_of_mem hmem.1⟩)

theorem FullReplacement.stripped {previous fragment : RestorationArchive} {α : Type}
    {sources : α → List EntitySourceRecord} {values : List α}
    (h : FullReplacement previous fragment)
    (hledger : values.flatMap (fun value => (sources value).map (·.sourceSetId)) ∈
      ledgerSets previous) {value : α} (hvalue : value ∈ values) :
    retainSourceRecords (replacedSets fragment.report) (sources value) = [] := by
  rw [retainSourceRecords, List.eq_nil_iff_forall_not_mem]
  intro source hmem
  rw [mem_unaffected] at hmem
  apply hmem.2
  refine h.replaced (List.mem_flatten.mpr ⟨_, hledger, ?_⟩)
  exact List.mem_flatMap.mpr ⟨value, hvalue, List.mem_map_of_mem hmem.1⟩

theorem mergeMessages_replaced {previous fragment : List CanonicalMessage}
    {selected affected : SourceSets}
    (hreplaced : unaffected (·.sourceSetId) affected previous = []) :
    mergeMessages previous fragment selected affected =
      mergeMessages [] fragment selected affected := by
  unfold mergeMessages
  rw [hreplaced]
  rfl

theorem mergeRejections_replaced {previous fragment : List RejectedRow}
    {selected affected : SourceSets}
    (hreplaced : unaffected (·.sourceSetId) affected previous = []) :
    mergeRejections previous fragment selected affected =
      mergeRejections [] fragment selected affected := by
  unfold mergeRejections
  rw [hreplaced]
  rfl

theorem mergeCoverage_replaced {previous fragment merged : RestorationCoverage}
    {affected : SourceSets} {messages : List CanonicalMessage}
    (hmessageTables : unaffected (·.sourceSetId) affected previous.messageTables = [])
    (hallTables : unaffected (·.sourceSetId) affected previous.allTables = [])
    (h : mergeCoverage sha256 previous fragment affected messages = .ok merged) :
    mergeCoverage sha256 (withoutTables fragment) fragment affected messages = .ok merged := by
  have hvalid : validateRestorationCoverageSchema sha256 (withoutTables fragment) = .ok () := by
    simp [validateRestorationCoverageSchema, withoutTables, validateSchemaProfile]
  simp only [mergeCoverage, check_bind_ok, hmessageTables, hallTables] at h ⊢
  obtain ⟨_, hrest⟩ := h
  exact ⟨hvalid, hrest⟩

/-- The conversations of a fragment alone are its own, as the merge publishes them. -/
theorem mem_conversations_alone {fragment alone : List CanonicalConversation}
    {messages : List CanonicalMessage} {selected affected : SourceSets}
    (h : mergeConversations [] fragment messages selected affected = .ok alone)
    {conversation : CanonicalConversation} :
    conversation ∈ alone ↔
      ∃ new ∈ fragment, Served messages new ∧ conversation = published messages new := by
  obtain ⟨_, hnodup, hexists, _, hmem⟩ := mergeConversations_ok h
  rw [hmem]
  constructor
  · rintro ⟨value, horigin, rfl, hstay⟩
    obtain ⟨new, hnew, _, joined, hjoined, rfl⟩ := origin_alone.mp horigin
    obtain rfl := Except.ok.inj hjoined
    exact ⟨new, hnew, served_normalize.mp hstay, rfl⟩
  · rintro ⟨new, hnew, hserved, rfl⟩
    obtain ⟨value, horigin, hid⟩ := hexists new (.inr hnew)
    rcases horigin.of_current (fun _ => rfl) JoinsConversation.id_eq hnodup hnew hid with
      ⟨_, _, joined, hjoined, rfl⟩ | ⟨old, hold, _⟩
    · obtain rfl := Except.ok.inj hjoined
      exact ⟨_, horigin, rfl, served_normalize.mpr hserved⟩
    · cases hold

/-- The participants a fragment's own conversations and messages refer to are its own. -/
theorem known_iff {fragment alone : List CanonicalConversation}
    {participants : List CanonicalParticipant} {messages : List CanonicalMessage}
    {selected affected : SourceSets}
    (h : mergeConversations [] fragment messages selected affected = .ok alone) :
    (∀ reference ∈ participantReferences alone messages,
      ∃ new ∈ participants, new.participantId = reference.1) ↔
    (∀ new ∈ fragment, Served messages new → ∀ participant,
      participant ∈ new.participantIds ∨ participant ∈ new.memberships.map (·.participantId) →
        participant ∈ participants.map (·.participantId)) ∧
    ∀ message ∈ messages, ∀ sender, message.senderId = some sender →
      sender ∈ participants.map (·.participantId) := by
  constructor
  · intro hknown
    constructor
    · intro new hnew hserved participant hlisted
      have hmember : participant ∈ (published messages new).participantIds := by
        rw [mem_participantIds_published]
        exact or_assoc.mp (.inl hlisted)
      have hpublished := (mem_conversations_alone h).mpr ⟨new, hnew, hserved, rfl⟩
      apply List.mem_map.mpr
      apply hknown (participant, new.conversationId)
      exact mem_participantReferences.mpr (.inl ⟨_, hpublished, rfl, hmember⟩)
    · intro message hmessage sender hsender
      apply List.mem_map.mpr
      apply hknown (sender, message.conversationId)
      exact mem_participantReferences.mpr (.inr ⟨message, hmessage, rfl, hsender⟩)
  · rintro ⟨hlisted, hsenders⟩ ⟨participant, conversation⟩ hreference
    rw [mem_participantReferences] at hreference
    apply List.mem_map.mp
    rcases hreference with ⟨found, hfound, _, hmember⟩ | ⟨message, hmessage, _, hsender⟩
    · obtain ⟨new, hnew, hserved, rfl⟩ := (mem_conversations_alone h).mp hfound
      rw [mem_participantIds_published, ← or_assoc] at hmember
      cases hmember with
      | inl hhere => exact hlisted new hnew hserved participant hhere
      | inr hobserved =>
        obtain ⟨message, hmessage, _, hsender⟩ := mem_messageParticipants.mp hobserved
        exact hsenders message hmessage participant hsender
    · exact hsenders message hmessage participant hsender

/-- Conversations that differ in the order of source records refer alike. -/
theorem participantReferences_inSourceOrder {left right : List CanonicalConversation}
    (messages : List CanonicalMessage)
    (h : left.map conversationInSourceOrder = right.map conversationInSourceOrder) :
    participantReferences left messages = participantReferences right messages := by
  have hordered : ∀ conversations : List CanonicalConversation,
      participantReferences (conversations.map conversationInSourceOrder) messages =
        participantReferences conversations messages := by
    intro conversations
    simp [participantReferences, List.flatMap_map, conversationInSourceOrder]
  rw [← hordered left, h, hordered right]

/-- The stages of a merge that replaces every source set. -/
structure ReplacedStages (environment : Environment) (previous fragment merged : RestorationArchive) :
    Prop where
  messages : ∃ ordered, mergeMessages [] fragment.messages (restoredSets fragment.report)
    (replacedSets fragment.report) = .ok ordered ∧
      merged.messages = orderAndResolveMessages ordered
  sameSenders : (merged.messages.map conversationAndSender).Perm
    (fragment.messages.map conversationAndSender)
  conversations : mergeConversations previous.conversations fragment.conversations merged.messages
    (restoredSets fragment.report) (replacedSets fragment.report) = .ok merged.conversations
  strippedConversations : ∀ old ∈ previous.conversations,
    retainSourceRecords (replacedSets fragment.report) old.sourceRecords = []
  participants : mergeParticipants previous.participants fragment.participants merged.messages
    merged.conversations (restoredSets fragment.report) (replacedSets fragment.report) =
      .ok merged.participants
  strippedParticipants : ∀ old ∈ previous.participants,
    retainSourceRecords (replacedSets fragment.report) old.sourceRecords = []
  rejections : mergeRejections [] fragment.rejections (restoredSets fragment.report)
    (replacedSets fragment.report) = .ok merged.rejections
  coverage : mergeCoverage environment.sha256 (withoutTables fragment.coverage) fragment.coverage
    (replacedSets fragment.report) merged.messages = .ok merged.coverage
  cachedSurfaces : (∃ alone, mergeCachedSurfaces environment.sha256 none fragment.cachedSurfaces
      (restoredSets fragment.report) (replacedSets fragment.report) = .ok alone ∧
    SameCache merged.cachedSurfaces alone) ↔
      OmissionsRestated previous.cachedSurfaces fragment.cachedSurfaces

theorem replacedStages {environment : Environment} {previous fragment merged : RestorationArchive}
    (hmerge : mergeIncrementalArchive environment previous fragment = .ok merged)
    (hfull : FullReplacement previous fragment) :
    ReplacedStages environment previous fragment merged := by
  obtain ⟨trace, htrace⟩ := mergeIncrementalArchive_ok hmerge
  obtain ⟨hselected, haffected, _⟩ := mergeScope_sets htrace.scope
  have hledgers := mergeLedgers_ok.mp htrace.ledgers
  rw [hselected, haffected] at hledgers
  obtain rfl := htrace.merged
  obtain ⟨ordered, hordered, hsame⟩ := hledgers.messages
  rw [mergeMessages_replaced (hfull.unaffected_nil (by simp [ledgerSets]))] at hordered
  have hrejections := hledgers.rejections
  rw [mergeRejections_replaced (hfull.unaffected_nil (by simp [ledgerSets]))] at hrejections
  constructor
  · exact ⟨ordered, hordered, hsame⟩
  · rw [hsame]
    apply conversationAndSender_perm
    refine (orderAndResolveMessages_perm ordered).trans ?_
    have hperm := (mergeMessages_ok hordered).1
    rw [show unaffected (·.sourceSetId) (replacedSets fragment.report) [] = ([] :
      List CanonicalMessage) from rfl, List.nil_append] at hperm
    exact hperm.map _
  · exact hledgers.conversations
  · exact fun old hold => hfull.stripped (by simp [ledgerSets]) hold
  · exact hledgers.participants
  · exact fun old hold => hfull.stripped (by simp [ledgerSets]) hold
  · exact hrejections
  · exact mergeCoverage_replaced _ (hfull.unaffected_nil (by simp [ledgerSets]))
      (hfull.unaffected_nil (by simp [ledgerSets])) hledgers.coverage
  · exact cachedSurfaces_restated_iff _ (hfull.unaffected_nil (by simp [ledgerSets]))
      (hfull.unaffected_nil (by simp [ledgerSets])) (hfull.unaffected_nil (by simp [ledgerSets]))
      hledgers.cachedSurfaces

/-- A merge that replaces every source set carries nothing over exactly when the
fragment restates what no source set owns: the members of the conversations both
archives have, and the omissions counted beyond the tables. -/
theorem carriesNothing_iff (environment : Environment)
    {previous fragment merged : RestorationArchive}
    (hmerge : mergeIncrementalArchive environment previous fragment = .ok merged)
    (hfull : FullReplacement previous fragment) :
    CarriesNothing environment fragment merged ↔
      Restates fragment.messages previous fragment := by
  have hstages := replacedStages hmerge hfull
  obtain ⟨alone, halone, hconversations⟩ :=
    conversations_restated_iff hstages.strippedConversations hstages.conversations
  have hparticipants :=
    participants_restated_iff hstages.strippedParticipants hstages.participants
  constructor
  · rintro ⟨restated, hrestate, hmatch⟩
    obtain ⟨_, hown, hownParticipants, _, _, hcache⟩ := restate_ok.mp hrestate
    rw [← hmatch.messages] at hown hownParticipants
    obtain rfl : alone = restated.conversations := Except.ok.inj (halone.symm.trans hown)
    obtain ⟨hkept, hmembers⟩ := hconversations.mp hmatch.conversations
    have hreferences := participantReferences_inSourceOrder merged.messages hmatch.conversations
    rw [← mergeParticipants_congr hreferences] at hownParticipants
    have hknown := hparticipants.mp ⟨_, hownParticipants, hmatch.participants⟩
    rw [hreferences, known_iff halone] at hknown
    have hrestates : Restates merged.messages previous fragment :=
      ⟨hkept, hmembers, hknown.1, hknown.2,
        hstages.cachedSurfaces.mp ⟨_, hcache, hmatch.cachedSurfaces⟩⟩
    exact hrestates.congr hstages.sameSenders
  · intro h
    have hrestates : Restates merged.messages previous fragment := h.congr hstages.sameSenders.symm
    have hsame := hconversations.mpr ⟨hrestates.conversations, hrestates.members⟩
    have hreferences := participantReferences_inSourceOrder merged.messages hsame
    have hknown := (known_iff halone).mpr ⟨hrestates.participants, hrestates.senders⟩
    rw [← hreferences] at hknown
    obtain ⟨participants, hown, hsameParticipants⟩ := hparticipants.mpr hknown
    rw [mergeParticipants_congr hreferences] at hown
    obtain ⟨cached, hcached, hsameCache⟩ := hstages.cachedSurfaces.mpr hrestates.omissions
    refine ⟨⟨merged.messages, alone, participants, merged.rejections, merged.coverage, cached⟩,
      restate_ok.mpr ⟨hstages.messages, halone, hown, hstages.rejections, hstages.coverage,
        hcached⟩, ?_⟩
    exact ⟨rfl, hsame, hsameParticipants, rfl, rfl, hsameCache⟩

/-! A group with two members, and an integrity scan that restores it again. -/

def groupAcquisition (mode : SnapshotAcquisitionMode) (previous : Option String) :
    SnapshotAcquisitionEvidence where
  mode := mode
  previousSourceFingerprint := previous
  changedSourceSetIds := ["set-a"]
  reconciliationSourceSetIds := []
  deletedSourceSetIds := []
  sourceSets := [⟨"set-a", "contact/contact.db"⟩]

def contactRow (table : String) (row : ℤ) : EntitySourceRecord where
  sourceSetId := "set-a"
  sourceLogicalPath := "contact/contact.db"
  sourceTableId := table
  sourceTableName := table
  sourceRowId := row
  rawColumns := ∅

def groupOf (members : List String) : CanonicalConversation where
  conversationId := "group"
  accountId := "account"
  sourceIdentifierBase64 := "Z3JvdXBAY2hhdHJvb20="
  kind := .group
  participantIds := members
  memberships := members.map fun member => ⟨member, .member, none⟩
  ownerParticipantId := none
  entityDecodeState := .complete
  sourceRecords := [contactRow "chat_room" 1]

def contactOf (member : String) (row : ℤ) : CanonicalParticipant where
  participantId := member
  accountId := "account"
  sourceIdentifierBase64 := "d3hpZA=="
  aliasBase64 := none
  remarkBase64 := none
  nicknameBase64 := none
  displayNameBase64 := none
  localProfileState := .hydrated
  conversationIds := ["group"]
  sourceRecords := [contactRow "contact" row]

def groupArchive (report : RestorationReport) (members : List String) : RestorationArchive :=
  { emptyArchive report with
    conversations := [groupOf members]
    participants := members.mapIdx fun row member => contactOf member (row + 1) }

def formerGroup : RestorationArchive :=
  groupArchive (emptyReport "first" (groupAcquisition .bootstrap none) .authoritative
    (some MergeHistory.firstDatabaseCoverage)) ["member-1", "member-2"]

def restoredGroup (members : List String) : RestorationArchive :=
  groupArchive (emptyReport "second" (groupAcquisition .integrityScan (some "first"))
    .authoritative (some MergeHistory.firstDatabaseCoverage)) members

theorem restoredGroup_fullReplacement (members : List String) :
    FullReplacement formerGroup (restoredGroup members) where
  scan := by
    refine ⟨_, rfl, rfl, rfl, ?_⟩
    have hlisted : ∀ sourceSet ∈ (ledgerSets formerGroup).flatten,
        sourceSet ∈ (groupAcquisition .integrityScan (some "first")).inventory := by
      decide +kernel
    exact fun sourceSet hmem hnot => absurd (hlisted sourceSet hmem) hnot
  fresh := by
    refine ⟨_, rfl, ?_⟩
    intro sourceSet hmem
    have hlisted : sourceSet ∈ (ExtTreeSet.ofList ["set-a"] : SourceSets) := hmem
    rw [ExtTreeSet.mem_ofList, List.contains_iff_mem] at hlisted
    exact hlisted

/-- A group whose members are all still there is carried over without a trace. -/
theorem carriesNothing_of_unchanged_group :
    ∃ merged, mergeIncrementalArchive sampleEnvironment formerGroup
        (restoredGroup ["member-1", "member-2"]) = .ok merged ∧
      CarriesNothing sampleEnvironment (restoredGroup ["member-1", "member-2"]) merged := by
  obtain ⟨merged, hmerged⟩ := merges_of_isOk sampleEnvironment formerGroup
    (restoredGroup ["member-1", "member-2"]) (by decide +kernel)
  refine ⟨merged, hmerged, ?_⟩
  rw [carriesNothing_iff _ hmerged (restoredGroup_fullReplacement _)]
  refine ⟨?_, ?_, ?_, ?_, .inl rfl⟩
  · intro old hold hnone
    obtain rfl := List.mem_singleton.mp hold
    exact absurd rfl (hnone (groupOf ["member-1", "member-2"]) List.mem_cons_self)
  · intro old hold new hnew _ _
    obtain rfl := List.mem_singleton.mp hold
    obtain rfl := List.mem_singleton.mp hnew
    exact .of_subset (fun _ h => h) (fun _ h => h) (by decide)
  · intro new hnew _
    obtain rfl := List.mem_singleton.mp hnew
    simp [groupOf, restoredGroup, groupArchive, contactOf]
  · intro message hmessage
    cases hmessage

/-- A member who has left is still in the merged group: the fragment alone leads to
one member, the merge to two. -/
theorem carriesNothing_fails_for_former_member :
    ∃ merged, mergeIncrementalArchive sampleEnvironment formerGroup
        (restoredGroup ["member-1"]) = .ok merged ∧
      FullReplacement formerGroup (restoredGroup ["member-1"]) ∧
      ¬CarriesNothing sampleEnvironment (restoredGroup ["member-1"]) merged := by
  obtain ⟨merged, hmerged⟩ := merges_of_isOk sampleEnvironment formerGroup
    (restoredGroup ["member-1"]) (by decide +kernel)
  refine ⟨merged, hmerged, restoredGroup_fullReplacement _, ?_⟩
  rintro ⟨alone, halone, hmatch⟩
  have hmergedMembers : (mergeIncrementalArchive sampleEnvironment formerGroup
      (restoredGroup ["member-1"])).map (fun merged =>
        (merged.conversations.map conversationInSourceOrder).flatMap (·.participantIds)) =
      .ok ["member-1", "member-2"] := by
    decide +kernel
  have haloneMembers : (restate sampleEnvironment (restoredGroup ["member-1"])).map (fun alone =>
        (alone.conversations.map conversationInSourceOrder).flatMap (·.participantIds)) =
      .ok ["member-1"] := by
    decide +kernel
  rw [hmerged, Except.map, hmatch.conversations] at hmergedMembers
  rw [halone, Except.map] at haloneMembers
  rw [Except.ok.inj haloneMembers] at hmergedMembers
  exact absurd (Except.ok.inj hmergedMembers) (by decide)

end GreenBubbles.Merge
