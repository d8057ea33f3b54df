import GreenBubbles.Merge.Messages

/-! # Merging conversations, participants and artifacts

Each entity ledger is keyed by identifier. The fragment's record replaces the
previous one; source records, memberships and participants are united.
-/
namespace GreenBubbles.Merge

open Std Archive Library.Ordered

def sourceRecordKey (record : EntitySourceRecord) : String × String × ℤ :=
  (record.sourceSetId, record.sourceTableId, record.sourceRowId)

def sourceRecordOrder (record : EntitySourceRecord) : String × String × String × ℤ :=
  (record.sourceLogicalPath, record.sourceTableName, record.sourceSetId, record.sourceRowId)

def mergeSourceRecords (previous current : List EntitySourceRecord) (affected : SourceSets) :
    Except RestoreError (List EntitySourceRecord) := do
  let merged ← insertAll sourceRecordKey "entity source record" ∅
    (unaffected (·.sourceSetId) affected previous ++ current)
  return records merged

theorem mergeSourceRecords_ok {previous current merged : List EntitySourceRecord}
    {affected : SourceSets} (h : mergeSourceRecords previous current affected = .ok merged) :
    merged.Perm (unaffected (·.sourceSetId) affected previous ++ current) ∧
      (merged.map sourceRecordKey).Nodup := by
  unfold mergeSourceRecords at h
  obtain ⟨filled, hfilled, h⟩ := bind_ok.mp h
  obtain rfl := Except.ok.inj h
  rw [insertAll_ok] at hfilled
  have hperm := insertUnique_perm _ hfilled
  rw [records_empty, List.append_nil] at hperm
  exact ⟨hperm, (hperm.map _).nodup_iff.mpr (insertUnique_nodup _ hfilled).1⟩

def validateSourceRecords (source : List EntitySourceRecord) (selected : SourceSets)
    (kind : String) : Except RestoreError Unit :=
  requireSelected (·.sourceSetId) selected
    ("incremental fragment contains a " ++ kind ++ " source record from an unselected set")
    source

def membershipKey (membership : ConversationMembership) : String × ℕ :=
  (membership.participantId, membership.role.rank)

/-- The later membership of a participant in a role replaces the earlier one. -/
def mergeMemberships (previous current : List ConversationMembership) :
    List ConversationMembership :=
  records ((previous ++ current).foldl (fun merged membership =>
    merged.insert (membershipKey membership) membership) (∅ : ExtTreeMap (String × ℕ) _))

theorem mem_memberIds {memberships : List ConversationMembership} {participant : String} :
    participant ∈ memberships.map (·.participantId) ↔
      ∃ rank, (participant, rank) ∈ memberships.map membershipKey := by
  simp only [List.mem_map, membershipKey, Prod.mk.injEq]
  constructor
  · rintro ⟨membership, hmem, rfl⟩
    exact ⟨_, membership, hmem, rfl, rfl⟩
  · rintro ⟨_, membership, hmem, rfl, _⟩
    exact ⟨membership, hmem, rfl⟩

theorem mem_mergeMemberships {previous current : List ConversationMembership}
    {membership : ConversationMembership} (h : membership ∈ mergeMemberships previous current) :
    membership ∈ previous ∨ membership ∈ current := by
  rw [mergeMemberships, mem_records] at h
  obtain ⟨key, hkey⟩ := h
  rw [foldl_insert_getElem? membershipKey] at hkey
  simp only [ExtTreeMap.getElem?_empty, Option.or_none] at hkey
  have hmem := List.mem_of_find?_eq_some hkey
  rwa [List.mem_reverse, List.mem_append] at hmem

theorem mem_membershipKeys_merge {previous current : List ConversationMembership}
    {key : String × ℕ} : key ∈ (mergeMemberships previous current).map membershipKey ↔
      key ∈ previous.map membershipKey ∨ key ∈ current.map membershipKey := by
  constructor
  · intro h
    obtain ⟨membership, hmem, rfl⟩ := List.mem_map.mp h
    cases mem_mergeMemberships hmem with
    | inl hprevious => exact .inl (List.mem_map_of_mem hprevious)
    | inr hcurrent => exact .inr (List.mem_map_of_mem hcurrent)
  · intro h
    have hlisted : ∃ membership ∈ (previous ++ current).reverse, membershipKey membership = key := by
      simpa [or_and_right, exists_or, or_comm] using h
    have hfound : ((previous ++ current).reverse.find? (membershipKey · = key)).isSome := by
      rw [List.find?_isSome]
      simpa using hlisted
    obtain ⟨membership, hmembership⟩ := Option.isSome_iff_exists.mp hfound
    have hkey : membershipKey membership = key := by simpa using List.find?_some hmembership
    refine List.mem_map.mpr ⟨membership, ?_, hkey⟩
    rw [mergeMemberships, mem_records]
    refine ⟨key, ?_⟩
    rw [foldl_insert_getElem? membershipKey, hmembership]
    rfl

theorem find?_mergeMemberships (previous current : List ConversationMembership)
    (k : String × ℕ) :
    (mergeMemberships previous current).find? (membershipKey · = k) =
      (current.reverse.find? (membershipKey · = k)).or
        (previous.reverse.find? (membershipKey · = k)) := by
  have hfound : ∀ k, ((previous ++ current).foldl (fun merged membership =>
      merged.insert (membershipKey membership) membership)
      (∅ : ExtTreeMap (String × ℕ) ConversationMembership))[k]? =
      (previous ++ current).reverse.find? (membershipKey · = k) := by
    intro k
    rw [foldl_insert_getElem? membershipKey]
    simp
  rw [mergeMemberships, find?_records membershipKey, hfound, List.reverse_append,
    List.find?_append]
  intro k membership hk
  rw [hfound] at hk
  simpa using List.find?_some hk

/-- Removes every element equal in key to the one before it. -/
def dedupBy {α κ : Type} [DecidableEq κ] (key : α → κ) : List α → List α
  | [] => []
  | a :: values =>
    match dedupBy key values with
    | [] => [a]
    | b :: rest => if key a = key b then a :: rest else a :: b :: rest

theorem dedupBy_subset {α κ : Type} [DecidableEq κ] {key : α → κ} {values : List α} {a : α}
    (h : a ∈ dedupBy key values) : a ∈ values := by
  induction values generalizing a with
  | nil => exact h
  | cons b values ih =>
    rw [dedupBy] at h
    split at h
    · exact List.mem_cons.mpr (.inl (List.mem_singleton.mp h))
    · rename_i c rest hrest
      rw [hrest] at ih
      split_ifs at h
      · rw [List.mem_cons] at h ⊢
        exact h.imp_right fun hmem => ih (List.mem_cons_of_mem c hmem)
      · rw [List.mem_cons] at h ⊢
        exact h.imp_right ih

theorem mem_map_dedupBy {α κ : Type} [DecidableEq κ] (key : α → κ) (values : List α) {k : κ} :
    k ∈ (dedupBy key values).map key ↔ k ∈ values.map key := by
  induction values with
  | nil => rfl
  | cons a values ih =>
    rw [dedupBy, List.map_cons, List.mem_cons, ← ih]
    split
    · rename_i hnil
      simp [hnil]
    · rename_i b rest hrest
      rw [hrest]
      split_ifs with hsame
      · simp [hsame]
      · simp

theorem find?_dedupBy {α κ : Type} [DecidableEq κ] (key : α → κ) (values : List α) (k : κ) :
    (dedupBy key values).find? (key · = k) = values.find? (key · = k) := by
  induction values with
  | nil => rfl
  | cons a values ih =>
    rw [dedupBy, List.find?_cons, ← ih]
    split
    · rename_i hnil
      simp [hnil, List.find?_cons]
    · rename_i b rest hrest
      rw [hrest]
      split_ifs with hsame
      · by_cases hk : key a = k
        · simp [hk]
        · have hb : key b ≠ k := hsame ▸ hk
          simp [hk, hb]
      · rw [List.find?_cons]

/-- In a sorted list the values of one key stand together, so one of each stays. -/
theorem dedupBy_ascending {α κ : Type} [Ord κ] [TransOrd κ] [LawfulEqOrd κ] [DecidableEq κ]
    {key : α → κ} {values : List α}
    (h : values.Pairwise fun left right => (compare (key left) (key right)).isLE) :
    Ascending key (dedupBy key values) := by
  induction values with
  | nil => exact List.Pairwise.nil
  | cons a values ih =>
    rw [List.pairwise_cons] at h
    have hrest := ih h.2
    rw [dedupBy]
    split
    · exact List.pairwise_singleton _ _
    · rename_i b rest hdedup
      rw [hdedup, Ascending, List.pairwise_cons] at hrest
      have hb : (compare (key a) (key b)).isLE := by
        apply h.1 b
        apply dedupBy_subset (hdedup ▸ List.mem_cons_self : b ∈ dedupBy key values)
      split_ifs with hsame
      · rw [Ascending, List.pairwise_cons, hsame]
        exact hrest
      · have hlt : compare (key a) (key b) = .lt := by
          cases hcompare : compare (key a) (key b) with
          | lt => rfl
          | eq => exact absurd (LawfulEqCmp.eq_of_compare hcompare) hsame
          | gt => rw [hcompare] at hb; cases hb
        rw [Ascending, List.pairwise_cons, List.pairwise_cons]
        refine ⟨?_, hrest⟩
        rw [List.forall_mem_cons]
        exact ⟨hlt, fun c hc => TransCmp.lt_trans hlt (hrest.1 c hc)⟩

def normalizeConversation (conversation : CanonicalConversation) : CanonicalConversation :=
  { conversation with
    participantIds := dedupBy id (sortBy id
      (conversation.participantIds ++ conversation.memberships.map (·.participantId)))
    memberships := dedupBy membershipKey (sortBy membershipKey conversation.memberships)
    sourceRecords := sortBy sourceRecordOrder conversation.sourceRecords }

theorem mem_participantIds_normalize {conversation : CanonicalConversation} {participant : String} :
    participant ∈ (normalizeConversation conversation).participantIds ↔
      participant ∈ conversation.participantIds ∨
        participant ∈ conversation.memberships.map (·.participantId) := by
  have h := mem_map_dedupBy id (sortBy id (conversation.participantIds ++
    conversation.memberships.map (·.participantId))) (k := participant)
  simpa [normalizeConversation] using h

theorem mem_memberships_normalize {conversation : CanonicalConversation}
    {membership : ConversationMembership}
    (h : membership ∈ (normalizeConversation conversation).memberships) :
    membership ∈ conversation.memberships :=
  (mem_sortBy membershipKey).mp (dedupBy_subset h)

theorem mem_membershipKeys_normalize {conversation : CanonicalConversation} {key : String × ℕ} :
    key ∈ (normalizeConversation conversation).memberships.map membershipKey ↔
      key ∈ conversation.memberships.map membershipKey := by
  rw [normalizeConversation, mem_map_dedupBy]
  simp

theorem mem_memberIds_normalize {conversation : CanonicalConversation} {participant : String} :
    participant ∈ (normalizeConversation conversation).memberships.map (·.participantId) ↔
      participant ∈ conversation.memberships.map (·.participantId) := by
  simp only [mem_memberIds, mem_membershipKeys_normalize]

theorem find?_memberships_normalize (conversation : CanonicalConversation) (k : String × ℕ) :
    (normalizeConversation conversation).memberships.find? (membershipKey · = k) =
      conversation.memberships.find? (membershipKey · = k) := by
  rw [normalizeConversation, find?_dedupBy, find?_sortBy]

theorem ascending_participantIds_normalize (conversation : CanonicalConversation) :
    Ascending id (normalizeConversation conversation).participantIds :=
  dedupBy_ascending (sortBy_pairwise id _)

theorem ascending_memberships_normalize (conversation : CanonicalConversation) :
    Ascending membershipKey (normalizeConversation conversation).memberships :=
  dedupBy_ascending (sortBy_pairwise membershipKey _)

theorem perm_sourceRecords_normalize (conversation : CanonicalConversation) :
    (normalizeConversation conversation).sourceRecords.Perm conversation.sourceRecords :=
  sortBy_perm sourceRecordOrder _

/-- The senders observed in a conversation, in the order of their identifiers. -/
def messageParticipants (messages : List CanonicalMessage) (conversation : String) :
    List String :=
  (ExtTreeSet.ofList ((messages.filter (·.conversationId = conversation)).filterMap
    (·.senderId)) : SourceSets).toList

@[simp] theorem mem_messageParticipants {messages : List CanonicalMessage}
    {conversation participant : String} :
    participant ∈ messageParticipants messages conversation ↔ ∃ message ∈ messages,
      message.conversationId = conversation ∧ message.senderId = some participant := by
  simp [messageParticipants, and_assoc]

def retainSourceRecords (affected : SourceSets) (source : List EntitySourceRecord) :
    List EntitySourceRecord :=
  unaffected (·.sourceSetId) affected source

def stripConversation (affected : SourceSets) (value : CanonicalConversation) :
    CanonicalConversation :=
  { value with sourceRecords := retainSourceRecords affected value.sourceRecords }

def observedMembership (participant : String) : ConversationMembership :=
  ⟨participant, .observedSender, none⟩

/-- Unites a fragment's conversation with the previous record under its identifier. -/
def joinConversation (affected : SourceSets) (old : Option CanonicalConversation)
    (value : CanonicalConversation) : Except RestoreError CanonicalConversation :=
  match old with
  | none => .ok value
  | some old => do
    let source ← mergeSourceRecords old.sourceRecords value.sourceRecords affected
    return { value with
      sourceRecords := source
      memberships := mergeMemberships old.memberships value.memberships
      participantIds := value.participantIds ++ old.participantIds }

def observeSenders (messages : List CanonicalMessage) (value : CanonicalConversation) :
    CanonicalConversation :=
  let observed := messageParticipants messages value.conversationId
  { value with
    participantIds := value.participantIds ++ observed
    memberships := value.memberships ++ observed.map observedMembership }

def insertConversation (messages : List CanonicalMessage) (selected affected : SourceSets)
    (conversations : ExtTreeMap String CanonicalConversation)
    (value : CanonicalConversation) : Except RestoreError (ExtTreeMap String CanonicalConversation) := do
  validateSourceRecords value.sourceRecords selected "conversation"
  let joined ← joinConversation affected conversations[value.conversationId]? value
  return conversations.insert value.conversationId
    (normalizeConversation (observeSenders messages joined))

/-- The last pass over every conversation adds senders to the participants only. -/
def settleConversation (messages : List CanonicalMessage) (value : CanonicalConversation) :
    CanonicalConversation :=
  normalizeConversation { value with
    participantIds :=
      value.participantIds ++ messageParticipants messages value.conversationId }

def mergeConversations (previous fragment : List CanonicalConversation)
    (messages : List CanonicalMessage) (selected affected : SourceSets) :
    Except RestoreError (List CanonicalConversation) := do
  let old ← keyed CanonicalConversation.conversationId "conversation" previous
  let stripped := old.map fun _ value => stripConversation affected value
  let current ← keyed CanonicalConversation.conversationId "conversation" fragment
  let merged ← (records current).foldlM (insertConversation messages selected affected) stripped
  let settled := merged.map fun _ value => settleConversation messages value
  let referenced : SourceSets := .ofList (messages.map (·.conversationId))
  return records (settled.filter fun identifier value =>
    referenced.contains identifier || !value.sourceRecords.isEmpty)

section Origins

variable {α : Type} (key : α → String) (strip : α → α) (Joins : Option α → α → α → Prop)

/-- Where a record of a merged ledger comes from: it is a previous record the
fragment does not name, or a fragment's record joined with the previous one. -/
inductive Origin (previous fragment : List α) : α → Prop where
  | kept (old : α) (hold : old ∈ previous) (hnew : ∀ new ∈ fragment, key new ≠ key old) :
      Origin previous fragment (strip old)
  | fresh (new value : α) (hnew : new ∈ fragment) (hold : ∀ old ∈ previous, key old ≠ key new)
      (hvalue : Joins none new value) : Origin previous fragment value
  | joined (old new value : α) (hold : old ∈ previous) (hnew : new ∈ fragment)
      (hsame : key old = key new) (hvalue : Joins (some (strip old)) new value) :
      Origin previous fragment value

variable {key strip Joins}

theorem keyed_ok {kind : String} {values : List α} {filled : ExtTreeMap String α}
    (h : keyed key kind values = .ok filled) :
    (values.map key).Nodup ∧ ∀ k a, filled[k]? = some a ↔ a ∈ values ∧ key a = k := by
  rw [keyed, insertAll_ok] at h
  exact ⟨(insertUnique_nodup key h).1, fun _ _ => insertUnique_empty_getElem? key h⟩

theorem records_keyed {kind : String} {values : List α} {filled : ExtTreeMap String α}
    (h : keyed key kind values = .ok filled) :
    ((records filled).map key).Nodup ∧ ∀ a, a ∈ records filled ↔ a ∈ values := by
  obtain ⟨_, hfound⟩ := keyed_ok h
  refine ⟨(ascending_records key fun k a hk => ((hfound k a).mp hk).2).nodup, ?_⟩
  intro a
  rw [mem_records]
  constructor
  · rintro ⟨k, hk⟩
    exact ((hfound k a).mp hk).1
  · intro ha
    exact ⟨key a, (hfound _ _).mpr ⟨ha, rfl⟩⟩

theorem keyed_of_nodup (kind : String) {values : List α} (h : (values.map key).Nodup) :
    ∃ filled, keyed key kind values = .ok filled := by
  have hsome : (insertUnique key ∅ values).isSome := insertUnique_isSome key h (by simp)
  obtain ⟨filled, hfilled⟩ := Option.isSome_iff_exists.mp hsome
  exact ⟨filled, insertAll_ok.mpr hfilled⟩

/-- The entries a merge of ledgers wrote, read back as origins. -/
theorem origin_of_written {previous fragment : List α}
    {old stripped filled : ExtTreeMap String α} (hnodupOld : (previous.map key).Nodup)
    (hfoundOld : ∀ k a, old[k]? = some a ↔ a ∈ previous ∧ key a = k)
    (hnodupNew : (fragment.map key).Nodup)
    (hstripped : ∀ k : String, stripped[k]? = old[k]?.map strip)
    (hwritten : ∀ new ∈ fragment, ∃ value, Joins stripped[key new]? new value ∧
      filled[key new]? = some value)
    (hother : ∀ k, (∀ new ∈ fragment, key new ≠ k) → filled[k]? = stripped[k]?)
    (hstrip : ∀ value, key (strip value) = key value)
    (hkey : ∀ {found new value}, Joins found new value → key value = key new)
    (hunique : ∀ {found new value value'}, Joins found new value → Joins found new value' →
      value = value') {k : String} {value : α} :
    filled[k]? = some value ↔ Origin key strip Joins previous fragment value ∧ key value = k := by
  by_cases hlisted : ∃ new ∈ fragment, key new = k
  · obtain ⟨new, hnew, rfl⟩ := hlisted
    obtain ⟨found, hjoins, hfound⟩ := hwritten new hnew
    have hsameNew : ∀ other ∈ fragment, key other = key new → other = new :=
      fun other hother hsame => List.inj_on_of_nodup_map hnodupNew hother hnew hsame
    rw [hfound, Option.some.injEq]
    rw [hstripped] at hjoins
    cases hprevious : old[key new]? with
    | none =>
      rw [hprevious, Option.map_none] at hjoins
      have hnone : ∀ other ∈ previous, key other ≠ key new := by
        intro other hother hsame
        rw [(hfoundOld _ other).mpr ⟨hother, hsame⟩] at hprevious
        cases hprevious
      constructor
      · rintro rfl
        exact ⟨.fresh new found hnew hnone hjoins, hkey hjoins⟩
      · rintro ⟨horigin, hvalue⟩
        cases horigin with
        | kept other hother hno => exact absurd ((hstrip other).symm.trans hvalue).symm (hno new hnew)
        | fresh other _ hother hno hjoins' =>
          obtain rfl := hsameNew other hother ((hkey hjoins').symm.trans hvalue)
          exact hunique hjoins hjoins'
        | joined first other _ hfirst hother hsame hjoins' =>
          exact absurd (hsame.trans ((hkey hjoins').symm.trans hvalue)) (hnone first hfirst)
    | some previously =>
      rw [hprevious, Option.map_some] at hjoins
      obtain ⟨hmember, hsame⟩ := (hfoundOld _ _).mp hprevious
      constructor
      · rintro rfl
        exact ⟨.joined previously new found hmember hnew hsame hjoins, hkey hjoins⟩
      · rintro ⟨horigin, hvalue⟩
        cases horigin with
        | kept other hother hno => exact absurd ((hstrip other).symm.trans hvalue).symm (hno new hnew)
        | fresh other _ hother hno hjoins' =>
          exact absurd (hsame.trans (hvalue.symm.trans (hkey hjoins'))) (hno previously hmember)
        | joined first other _ hfirst hother hsame' hjoins' =>
          obtain rfl := hsameNew other hother ((hkey hjoins').symm.trans hvalue)
          obtain rfl : first = previously :=
            List.inj_on_of_nodup_map hnodupOld hfirst hmember (hsame'.trans hsame.symm)
          exact hunique hjoins hjoins'
  · rw [not_exists] at hlisted
    have hno : ∀ new ∈ fragment, key new ≠ k := fun new hnew hsame => hlisted new ⟨hnew, hsame⟩
    rw [hother k hno, hstripped, Option.map_eq_some_iff]
    constructor
    · rintro ⟨previously, hfound, rfl⟩
      obtain ⟨hmember, rfl⟩ := (hfoundOld _ _).mp hfound
      exact ⟨.kept previously hmember hno, hstrip previously⟩
    · rintro ⟨horigin, rfl⟩
      cases horigin with
      | kept other hother _ => exact ⟨other, (hfoundOld _ _).mpr ⟨hother, (hstrip other).symm⟩, rfl⟩
      | fresh other _ hother _ hjoins => exact absurd (hkey hjoins).symm (hno other hother)
      | joined first other _ hfirst hother _ hjoins =>
        exact absurd (hkey hjoins).symm (hno other hother)

/-- A ledger merged record by record holds exactly the records of an origin. -/
theorem merged_getElem? {previous fragment : List α} {old current filled : ExtTreeMap String α}
    {oldKind newKind : String} {step : ExtTreeMap String α → α →
      Except RestoreError (ExtTreeMap String α)}
    (hold : keyed key oldKind previous = .ok old) (hcurrent : keyed key newKind fragment = .ok current)
    (hfilled : (records current).foldlM step (old.map fun _ value => strip value) =
      Except.ok filled)
    (hstep : ∀ map new filled, step map new = .ok filled →
      ∃ value, Joins map[key new]? new value ∧ filled = map.insert (key new) value)
    (hstrip : ∀ value, key (strip value) = key value)
    (hkey : ∀ {found new value}, Joins found new value → key value = key new)
    (hunique : ∀ {found new value value'}, Joins found new value → Joins found new value' →
      value = value') :
    (∀ k value, filled[k]? = some value ↔
      Origin key strip Joins previous fragment value ∧ key value = k) ∧
    ∀ listed, listed ∈ previous ∨ listed ∈ fragment →
      ∃ value, Origin key strip Joins previous fragment value ∧ key value = key listed := by
  obtain ⟨hnodupOld, hfoundOld⟩ := keyed_ok hold
  have hnodupNew := (keyed_ok hcurrent).1
  obtain ⟨hcurrentKeys, hmem⟩ := records_keyed hcurrent
  obtain ⟨hwritten, hother⟩ := foldlM_insert_getElem? hstep hcurrentKeys hfilled
  simp only [hmem] at hwritten hother
  have hstripped : ∀ k, (old.map fun _ value => strip value)[k]? = old[k]?.map strip :=
    fun k => ExtTreeMap.getElem?_map
  have horigin : ∀ k value, filled[k]? = some value ↔
      Origin key strip Joins previous fragment value ∧ key value = k := by
    intro k value
    exact origin_of_written hnodupOld hfoundOld hnodupNew hstripped hwritten hother hstrip hkey
      hunique
  refine ⟨horigin, ?_⟩
  intro listed hlisted
  by_cases hnew : ∃ new ∈ fragment, key new = key listed
  · obtain ⟨new, hnew, hsame⟩ := hnew
    obtain ⟨value, _, hvalue⟩ := hwritten new hnew
    exact ⟨value, ((horigin _ _).mp hvalue).1, ((horigin _ _).mp hvalue).2.trans hsame⟩
  · rw [not_exists] at hnew
    cases hlisted with
    | inl hold =>
      exact ⟨strip listed, .kept listed hold fun new hmem hsame => hnew new ⟨hmem, hsame⟩,
        hstrip listed⟩
    | inr hmem => exact absurd ⟨hmem, rfl⟩ (hnew listed)

/-- The record under an identifier of the fragment is joined from the fragment's. -/
theorem Origin.of_current {previous fragment : List α} {new value : α}
    (h : Origin key strip Joins previous fragment value)
    (hstrip : ∀ value, key (strip value) = key value)
    (hkey : ∀ {found new value}, Joins found new value → key value = key new)
    (hnodup : (fragment.map key).Nodup) (hnew : new ∈ fragment) (hvalue : key value = key new) :
    ((∀ old ∈ previous, key old ≠ key new) ∧ Joins none new value) ∨
      ∃ old ∈ previous, key old = key new ∧ Joins (some (strip old)) new value := by
  cases h with
  | kept old _ hno => exact absurd ((hstrip old).symm.trans hvalue).symm (hno new hnew)
  | fresh other _ hother hold hjoins =>
    obtain rfl : other = new :=
      List.inj_on_of_nodup_map hnodup hother hnew ((hkey hjoins).symm.trans hvalue)
    exact .inl ⟨hold, hjoins⟩
  | joined old other _ hold hother hsame hjoins =>
    obtain rfl : other = new :=
      List.inj_on_of_nodup_map hnodup hother hnew ((hkey hjoins).symm.trans hvalue)
    exact .inr ⟨old, hold, hsame, hjoins⟩

/-- A fragment merged into an empty ledger keeps its own records only. -/
theorem origin_alone {fragment : List α} {value : α} :
    Origin key strip Joins [] fragment value ↔ ∃ new ∈ fragment, Joins none new value := by
  constructor
  · intro h
    cases h with
    | kept old hold _ => cases hold
    | fresh new _ hnew _ hjoins => exact ⟨new, hnew, hjoins⟩
    | joined old _ _ hold _ _ _ => cases hold
  · rintro ⟨new, hnew, hjoins⟩
    exact .fresh new value hnew (fun _ hold => absurd hold List.not_mem_nil) hjoins

/-- When a merged ledger agrees with the one the fragment alone leads to. -/
theorem restated_iff (settle image : α → α) (Stays : α → Prop)
    {previous fragment merged alone : List α} (hascending : Ascending key merged) (hascendingAlone : Ascending key alone)
    (hmem : ∀ a, a ∈ merged ↔
      ∃ value, Origin key strip Joins previous fragment value ∧ a = settle value ∧ Stays value)
    (hmemAlone : ∀ a, a ∈ alone ↔
      ∃ value, Origin key strip Joins [] fragment value ∧ a = settle value ∧ Stays value)
    (hnodup : (fragment.map key).Nodup)
    (hexists : ∀ new ∈ fragment,
      ∃ value, Origin key strip Joins previous fragment value ∧ key value = key new)
    (hfresh : ∀ new ∈ fragment, ∃ value, Joins none new value)
    (hstrip : ∀ value, key (strip value) = key value)
    (hkey : ∀ {found new value}, Joins found new value → key value = key new)
    (hunique : ∀ {found new value value'}, Joins found new value → Joins found new value' →
      value = value')
    (hsettle : ∀ value, key (settle value) = key value)
    (himage : ∀ value, key (image value) = key value)
    (hstays : ∀ old ∈ previous, ∀ {new value value'}, Joins (some (strip old)) new value →
      Joins none new value' → (Stays value ↔ Stays value')) :
    merged.map image = alone.map image ↔
      (∀ old ∈ previous, (∀ new ∈ fragment, key new ≠ key old) → ¬Stays (strip old)) ∧
      ∀ old ∈ previous, ∀ new ∈ fragment, key old = key new → ∀ {value value' : α},
        Joins (some (strip old)) new value → Joins none new value' → Stays value' →
          image (settle value) = image (settle value') := by
  rw [hascending.map_eq_iff hascendingAlone himage]
  constructor
  · rintro ⟨hsub, _⟩
    constructor
    · intro old hold hno hstay
      have hkept := (hmem _).mpr ⟨strip old, .kept old hold hno, rfl, hstay⟩
      obtain ⟨b, hb, hsame⟩ := hsub _ hkept
      obtain ⟨value, horigin, rfl, _⟩ := (hmemAlone b).mp hb
      obtain ⟨new, hnew, hjoins⟩ := origin_alone.mp horigin
      apply hno new hnew
      have hids := congrArg key hsame
      rwa [himage, himage, hsettle, hsettle, hkey hjoins, hstrip] at hids
    · intro old hold new hnew hsame value value' hjoins hjoins' hstay
      have hmember := (hmem _).mpr ⟨value, .joined old new value hold hnew hsame hjoins, rfl,
        (hstays old hold hjoins hjoins').mpr hstay⟩
      obtain ⟨b, hb, himages⟩ := hsub _ hmember
      obtain ⟨found, horigin, rfl, _⟩ := (hmemAlone b).mp hb
      obtain ⟨other, hother, hfound⟩ := origin_alone.mp horigin
      have hids := congrArg key himages
      rw [himage, himage, hsettle, hsettle, hkey hfound, hkey hjoins] at hids
      obtain rfl := List.inj_on_of_nodup_map hnodup hother hnew hids
      rw [← himages, hunique hfound hjoins']
  · rintro ⟨hkept, hjoined⟩
    constructor
    · intro a ha
      obtain ⟨value, horigin, rfl, hstay⟩ := (hmem a).mp ha
      cases horigin with
      | kept old hold hno => exact absurd hstay (hkept old hold hno)
      | fresh new _ hnew _ hjoins =>
        exact ⟨_, (hmemAlone _).mpr ⟨value, origin_alone.mpr ⟨new, hnew, hjoins⟩, rfl, hstay⟩, rfl⟩
      | joined old new _ hold hnew hsame hjoins =>
        obtain ⟨value', hjoins'⟩ := hfresh new hnew
        have hstay' := (hstays old hold hjoins hjoins').mp hstay
        refine ⟨_, (hmemAlone _).mpr
          ⟨value', origin_alone.mpr ⟨new, hnew, hjoins'⟩, rfl, hstay'⟩, ?_⟩
        exact (hjoined old hold new hnew hsame hjoins hjoins' hstay').symm
    · intro b hb
      obtain ⟨value', horigin, rfl, hstay⟩ := (hmemAlone b).mp hb
      obtain ⟨new, hnew, hjoins'⟩ := origin_alone.mp horigin
      obtain ⟨value, hvalue, hid⟩ := hexists new hnew
      rcases hvalue.of_current hstrip hkey hnodup hnew hid with ⟨_, hjoins⟩ | ⟨old, hold, hsame, hjoins⟩
      · obtain rfl := hunique hjoins hjoins'
        exact ⟨_, (hmem _).mpr ⟨value, hvalue, rfl, hstay⟩, rfl⟩
      · refine ⟨_, (hmem _).mpr ⟨value, hvalue, rfl,
          (hstays old hold hjoins hjoins').mpr hstay⟩, ?_⟩
        exact hjoined old hold new hnew hsame hjoins hjoins' hstay

end Origins

/-- What one step of the conversation merge writes. -/
def JoinsConversation (messages : List CanonicalMessage) (selected affected : SourceSets)
    (old : Option CanonicalConversation) (new merged : CanonicalConversation) : Prop :=
  (∀ source ∈ new.sourceRecords, source.sourceSetId ∈ selected) ∧
    ∃ joined, joinConversation affected old new = .ok joined ∧
      merged = normalizeConversation (observeSenders messages joined)

theorem insertConversation_ok {messages : List CanonicalMessage} {selected affected : SourceSets}
    (conversations : ExtTreeMap String CanonicalConversation) (new : CanonicalConversation)
    (filled : ExtTreeMap String CanonicalConversation)
    (h : insertConversation messages selected affected conversations new = .ok filled) :
    ∃ merged, JoinsConversation messages selected affected conversations[new.conversationId]? new
      merged ∧ filled = conversations.insert new.conversationId merged := by
  unfold insertConversation at h
  obtain ⟨hselected, h⟩ := check_bind_ok.mp h
  obtain ⟨joined, hjoined, h⟩ := bind_ok.mp h
  obtain rfl := Except.ok.inj h
  exact ⟨_, ⟨requireSelected_ok.mp hselected, joined, hjoined, rfl⟩, rfl⟩

theorem joinConversation_some {affected : SourceSets} {old new joined : CanonicalConversation}
    (h : joinConversation affected (some old) new = .ok joined) :
    ∃ source, mergeSourceRecords old.sourceRecords new.sourceRecords affected = .ok source ∧
      joined = { new with
        sourceRecords := source
        memberships := mergeMemberships old.memberships new.memberships
        participantIds := new.participantIds ++ old.participantIds } := by
  obtain ⟨source, hsource, h⟩ := bind_ok.mp h
  exact ⟨source, hsource, (Except.ok.inj h).symm⟩

theorem JoinsConversation.id_eq {messages : List CanonicalMessage} {selected affected : SourceSets}
    {old : Option CanonicalConversation} {new merged : CanonicalConversation}
    (h : JoinsConversation messages selected affected old new merged) :
    merged.conversationId = new.conversationId := by
  obtain ⟨_, joined, hjoined, rfl⟩ := h
  cases old with
  | none =>
    obtain rfl := Except.ok.inj hjoined
    rfl
  | some old =>
    obtain ⟨source, _, rfl⟩ := joinConversation_some hjoined
    rfl

theorem JoinsConversation.unique {messages : List CanonicalMessage}
    {selected affected : SourceSets} {old : Option CanonicalConversation}
    {new merged merged' : CanonicalConversation}
    (h : JoinsConversation messages selected affected old new merged)
    (h' : JoinsConversation messages selected affected old new merged') : merged = merged' := by
  obtain ⟨_, joined, hjoined, rfl⟩ := h
  obtain ⟨_, joined', hjoined', rfl⟩ := h'
  rw [hjoined] at hjoined'
  rw [Except.ok.inj hjoined']

abbrev ConversationOrigin (messages : List CanonicalMessage) (selected affected : SourceSets) :=
  Origin CanonicalConversation.conversationId (stripConversation affected)
    (JoinsConversation messages selected affected)

/-- The merged conversations, each with its origin. -/
theorem mergeConversations_ok {previous fragment merged : List CanonicalConversation}
    {messages : List CanonicalMessage} {selected affected : SourceSets}
    (h : mergeConversations previous fragment messages selected affected = .ok merged) :
    (previous.map (·.conversationId)).Nodup ∧ (fragment.map (·.conversationId)).Nodup ∧
      (∀ listed, listed ∈ previous ∨ listed ∈ fragment → ∃ value,
        ConversationOrigin messages selected affected previous fragment value ∧
          value.conversationId = listed.conversationId) ∧
      Ascending (·.conversationId) merged ∧ ∀ conversation, conversation ∈ merged ↔
        ∃ value, ConversationOrigin messages selected affected previous fragment value ∧
          conversation = settleConversation messages value ∧
          ((∃ message ∈ messages, message.conversationId = value.conversationId) ∨
            value.sourceRecords ≠ []) := by
  unfold mergeConversations at h
  obtain ⟨old, hold, h⟩ := bind_ok.mp h
  obtain ⟨current, hcurrent, h⟩ := bind_ok.mp h
  obtain ⟨filled, hfilled, h⟩ := bind_ok.mp h
  obtain rfl := Except.ok.inj h
  obtain ⟨hfound, hexists⟩ := merged_getElem? hold hcurrent hfilled insertConversation_ok
    (fun _ => rfl) JoinsConversation.id_eq JoinsConversation.unique
  obtain ⟨hascending, hmem⟩ := records_filter_map CanonicalConversation.conversationId hfound
    (fun _ value => settleConversation messages value) (·.conversationId) (fun _ => rfl)
    (fun identifier value => (ExtTreeSet.ofList (messages.map (·.conversationId)) :
      SourceSets).contains identifier || !value.sourceRecords.isEmpty)
  refine ⟨(keyed_ok hold).1, (keyed_ok hcurrent).1, hexists, hascending, ?_⟩
  intro conversation
  rw [hmem]
  apply exists_congr
  intro value
  apply and_congr_right
  intro _
  apply and_congr_right
  rintro rfl
  have hempty : (settleConversation messages value).sourceRecords = [] ↔
      value.sourceRecords = [] := by
    rw [← List.perm_nil, ← List.perm_nil]
    exact (perm_sourceRecords_normalize _).congr_left _
  simp [hempty]

def stripParticipant (affected : SourceSets) (value : CanonicalParticipant) :
    CanonicalParticipant :=
  { value with sourceRecords := retainSourceRecords affected value.sourceRecords }

def joinParticipant (affected : SourceSets) (old : Option CanonicalParticipant)
    (value : CanonicalParticipant) : Except RestoreError CanonicalParticipant :=
  match old with
  | none => .ok value
  | some old => do
    let source ← mergeSourceRecords old.sourceRecords value.sourceRecords affected
    return { value with sourceRecords := source }

def insertParticipant (selected affected : SourceSets)
    (participants : ExtTreeMap String CanonicalParticipant) (value : CanonicalParticipant) :
    Except RestoreError (ExtTreeMap String CanonicalParticipant) := do
  validateSourceRecords value.sourceRecords selected "participant"
  let joined ← joinParticipant affected participants[value.participantId]? value
  return participants.insert value.participantId joined

/-- Participant and conversation of every membership and every sent message. -/
def participantReferences (conversations : List CanonicalConversation)
    (messages : List CanonicalMessage) : List (String × String) :=
  conversations.flatMap (fun conversation =>
      conversation.participantIds.map fun participant =>
        (participant, conversation.conversationId)) ++
    messages.filterMap fun message =>
      message.senderId.map fun sender => (sender, message.conversationId)

def referencedConversations (references : List (String × String)) (participant : String) :
    List String :=
  (ExtTreeSet.ofList ((references.filter (·.1 = participant)).map (·.2)) : SourceSets).toList

def mergeParticipants (previous fragment : List CanonicalParticipant)
    (messages : List CanonicalMessage) (conversations : List CanonicalConversation)
    (selected affected : SourceSets) : Except RestoreError (List CanonicalParticipant) := do
  let old ← keyed CanonicalParticipant.participantId "participant" previous
  let stripped := old.map fun _ value => stripParticipant affected value
  let current ← keyed CanonicalParticipant.participantId "participant" fragment
  let merged ← (records current).foldlM (insertParticipant selected affected) stripped
  let references := participantReferences conversations messages
  if references.any (fun reference => !merged.contains reference.1) then
    throw (.integrity "merged conversation references an absent participant")
  let settled := merged.map fun identifier value =>
    { value with conversationIds := referencedConversations references identifier }
  return records (settled.filter fun _ value =>
    !value.sourceRecords.isEmpty || !value.conversationIds.isEmpty)

def JoinsParticipant (selected affected : SourceSets) (old : Option CanonicalParticipant)
    (new merged : CanonicalParticipant) : Prop :=
  (∀ source ∈ new.sourceRecords, source.sourceSetId ∈ selected) ∧
    joinParticipant affected old new = .ok merged

theorem insertParticipant_ok {selected affected : SourceSets}
    (participants : ExtTreeMap String CanonicalParticipant) (new : CanonicalParticipant)
    (filled : ExtTreeMap String CanonicalParticipant)
    (h : insertParticipant selected affected participants new = .ok filled) :
    ∃ merged, JoinsParticipant selected affected participants[new.participantId]? new merged ∧
      filled = participants.insert new.participantId merged := by
  unfold insertParticipant at h
  obtain ⟨hselected, h⟩ := check_bind_ok.mp h
  obtain ⟨joined, hjoined, h⟩ := bind_ok.mp h
  obtain rfl := Except.ok.inj h
  exact ⟨joined, ⟨requireSelected_ok.mp hselected, hjoined⟩, rfl⟩

theorem joinParticipant_some {affected : SourceSets} {old new joined : CanonicalParticipant}
    (h : joinParticipant affected (some old) new = .ok joined) :
    ∃ source, mergeSourceRecords old.sourceRecords new.sourceRecords affected = .ok source ∧
      joined = { new with sourceRecords := source } := by
  obtain ⟨source, hsource, h⟩ := bind_ok.mp h
  exact ⟨source, hsource, (Except.ok.inj h).symm⟩

theorem JoinsParticipant.id_eq {selected affected : SourceSets} {old : Option CanonicalParticipant}
    {new merged : CanonicalParticipant} (h : JoinsParticipant selected affected old new merged) :
    merged.participantId = new.participantId := by
  obtain ⟨_, hjoined⟩ := h
  cases old with
  | none =>
    obtain rfl := Except.ok.inj hjoined
    rfl
  | some old =>
    obtain ⟨source, _, rfl⟩ := joinParticipant_some hjoined
    rfl

theorem JoinsParticipant.unique {selected affected : SourceSets} {old : Option CanonicalParticipant}
    {new merged merged' : CanonicalParticipant}
    (h : JoinsParticipant selected affected old new merged)
    (h' : JoinsParticipant selected affected old new merged') : merged = merged' := by
  obtain ⟨_, hjoined⟩ := h
  obtain ⟨_, hjoined'⟩ := h'
  rw [hjoined] at hjoined'
  exact Except.ok.inj hjoined'

abbrev ParticipantOrigin (selected affected : SourceSets) :=
  Origin CanonicalParticipant.participantId (stripParticipant affected)
    (JoinsParticipant selected affected)

theorem mem_participantReferences {conversations : List CanonicalConversation}
    {messages : List CanonicalMessage} {participant conversation : String} :
    (participant, conversation) ∈ participantReferences conversations messages ↔
      (∃ found ∈ conversations, found.conversationId = conversation ∧
        participant ∈ found.participantIds) ∨
      ∃ message ∈ messages, message.conversationId = conversation ∧
        message.senderId = some participant := by
  simp only [participantReferences, List.mem_append, List.mem_flatMap, List.mem_map,
    List.mem_filterMap, Option.map_eq_some_iff, Prod.mk.injEq]
  constructor
  · rintro (⟨found, hfound, _, hmem, rfl, rfl⟩ | ⟨message, hmessage, _, hsender, rfl, rfl⟩)
    · exact .inl ⟨found, hfound, rfl, hmem⟩
    · exact .inr ⟨message, hmessage, rfl, hsender⟩
  · rintro (⟨found, hfound, rfl, hmem⟩ | ⟨message, hmessage, rfl, hsender⟩)
    · exact .inl ⟨found, hfound, participant, hmem, rfl, rfl⟩
    · exact .inr ⟨message, hmessage, participant, hsender, rfl, rfl⟩

@[simp] theorem mem_referencedConversations {references : List (String × String)}
    {participant conversation : String} :
    conversation ∈ referencedConversations references participant ↔
      (participant, conversation) ∈ references := by
  simp [referencedConversations]

theorem nodup_referencedConversations (references : List (String × String)) (participant : String) :
    (referencedConversations references participant).Nodup := by
  apply ExtTreeSet.distinct_toList.imp
  rintro left right hdistinct rfl
  exact hdistinct ReflCmp.compare_self

/-- The merged participants, each with its origin and the conversations that name it. -/
theorem mergeParticipants_ok {previous fragment merged : List CanonicalParticipant}
    {messages : List CanonicalMessage} {conversations : List CanonicalConversation}
    {selected affected : SourceSets}
    (h : mergeParticipants previous fragment messages conversations selected affected =
      .ok merged) :
    (previous.map (·.participantId)).Nodup ∧ (fragment.map (·.participantId)).Nodup ∧
      (∀ listed, listed ∈ previous ∨ listed ∈ fragment → ∃ value,
        ParticipantOrigin selected affected previous fragment value ∧
          value.participantId = listed.participantId) ∧
      Ascending (·.participantId) merged ∧
      (∀ reference ∈ participantReferences conversations messages, ∃ value,
        ParticipantOrigin selected affected previous fragment value ∧
          value.participantId = reference.1) ∧
      ∀ participant, participant ∈ merged ↔
        ∃ value, ParticipantOrigin selected affected previous fragment value ∧
          participant = { value with
            conversationIds := referencedConversations
              (participantReferences conversations messages) value.participantId } ∧
          (participant.sourceRecords ≠ [] ∨ participant.conversationIds ≠ []) := by
  unfold mergeParticipants at h
  obtain ⟨old, hold, h⟩ := bind_ok.mp h
  obtain ⟨current, hcurrent, h⟩ := bind_ok.mp h
  obtain ⟨filled, hfilled, h⟩ := bind_ok.mp h
  obtain ⟨hfound, hexists⟩ := merged_getElem? hold hcurrent hfilled insertParticipant_ok
    (fun _ => rfl) JoinsParticipant.id_eq JoinsParticipant.unique
  simp only at h
  split_ifs at h with hreferences
  · simp [throw, throwThe, MonadExceptOf.throw, bind, Except.bind] at h
  · obtain rfl := Except.ok.inj h
    simp only [List.any_eq_true, Bool.not_eq_true', not_exists, not_and, Bool.not_eq_false]
      at hreferences
    obtain ⟨hascending, hmem⟩ := records_filter_map CanonicalParticipant.participantId hfound
      (fun identifier value => { value with
        conversationIds := referencedConversations
          (participantReferences conversations messages) identifier })
      (·.participantId) (fun _ => rfl)
      (fun _ value => !value.sourceRecords.isEmpty || !value.conversationIds.isEmpty)
    refine ⟨(keyed_ok hold).1, (keyed_ok hcurrent).1, hexists, hascending, ?_, ?_⟩
    · intro reference hreference
      have hcontained := hreferences reference hreference
      rw [ExtTreeMap.contains_iff_mem, ExtTreeMap.mem_iff_isSome_getElem?,
        Option.isSome_iff_exists] at hcontained
      obtain ⟨value, hvalue⟩ := hcontained
      exact ⟨value, (hfound _ _).mp hvalue⟩
    · intro participant
      rw [hmem]
      simp

def referencedArtifacts (messages : List CanonicalMessage) : SourceSets :=
  .ofList ((messages.flatMap (·.artifactReferences)).map (·.artifactId))

def mergeArtifacts (previous fragment : List CanonicalArtifact)
    (messages : List CanonicalMessage) : Except RestoreError (List CanonicalArtifact) := do
  let old ← keyed CanonicalArtifact.artifactId "artifact" previous
  let artifacts := fragment.foldl (fun artifacts artifact =>
    artifacts.insert artifact.artifactId artifact) old
  let referenced := referencedArtifacts messages
  match referenced.toList.find? fun identifier => !artifacts.contains identifier with
  | some missing => throw (.integrity ("merged message references absent artifact " ++ missing))
  | none =>
    return records (artifacts.filter fun identifier _ => referenced.contains identifier)

@[simp] theorem mem_referencedArtifacts {messages : List CanonicalMessage} {identifier : String} :
    identifier ∈ referencedArtifacts messages ↔ ∃ message ∈ messages,
      ∃ reference ∈ message.artifactReferences, reference.artifactId = identifier := by
  simp only [referencedArtifacts, ExtTreeSet.mem_ofList, List.contains_iff_mem, List.mem_map,
    List.mem_flatMap]
  constructor
  · rintro ⟨reference, ⟨message, hmessage, hreference⟩, rfl⟩
    exact ⟨message, hmessage, reference, hreference, rfl⟩
  · rintro ⟨message, hmessage, reference, hreference, rfl⟩
    exact ⟨reference, ⟨message, hmessage, hreference⟩, rfl⟩

/-- The merged artifacts: a fragment's record replaces the previous one whole. -/
theorem mergeArtifacts_ok {previous fragment merged : List CanonicalArtifact}
    {messages : List CanonicalMessage} (hunique : (fragment.map (·.artifactId)).Nodup)
    (h : mergeArtifacts previous fragment messages = .ok merged) :
    Ascending (·.artifactId) merged ∧
      (∀ identifier ∈ referencedArtifacts messages, ∃ artifact ∈ merged,
        artifact.artifactId = identifier) ∧
      ∀ artifact, artifact ∈ merged ↔ (artifact ∈ fragment ∨ artifact ∈ previous ∧
          ∀ other ∈ fragment, other.artifactId ≠ artifact.artifactId) ∧
        artifact.artifactId ∈ referencedArtifacts messages := by
  unfold mergeArtifacts at h
  obtain ⟨old, hold, h⟩ := bind_ok.mp h
  have hall : ∀ k artifact, (fragment.foldl (fun artifacts artifact =>
      artifacts.insert artifact.artifactId artifact) old)[k]? = some artifact ↔
      (artifact ∈ fragment ∨ artifact ∈ previous ∧
        ∀ other ∈ fragment, other.artifactId ≠ artifact.artifactId) ∧ artifact.artifactId = k := by
    intro k artifact
    rw [foldl_insert_getElem? CanonicalArtifact.artifactId, Option.or_eq_some_iff,
      List.find?_eq_none, (keyed_ok hold).2]
    have hreverse : (fragment.reverse.map (·.artifactId)).Nodup := by
      rw [List.map_reverse, List.nodup_reverse]
      exact hunique
    have hfind := find?_key hreverse (k := k) (a := artifact)
    simp only [beq_eq_decide] at hfind
    rw [hfind]
    simp only [List.mem_reverse, decide_eq_true_eq]
    constructor
    · rintro (⟨hmem, rfl⟩ | ⟨hlater, hmem, rfl⟩)
      · exact ⟨.inl hmem, rfl⟩
      · exact ⟨.inr ⟨hmem, hlater⟩, rfl⟩
    · rintro ⟨hmem | ⟨hmem, hlater⟩, rfl⟩
      · exact .inl ⟨hmem, rfl⟩
      · exact .inr ⟨hlater, hmem, rfl⟩
  simp only at h
  split at h
  · cases h
  · rename_i hfind
    obtain rfl := Except.ok.inj h
    have hmem : ∀ artifact, artifact ∈ records (ExtTreeMap.filter (fun identifier _ =>
        (referencedArtifacts messages).contains identifier) (fragment.foldl (fun artifacts artifact =>
          artifacts.insert artifact.artifactId artifact) old)) ↔
        (artifact ∈ fragment ∨ artifact ∈ previous ∧
          ∀ other ∈ fragment, other.artifactId ≠ artifact.artifactId) ∧
        artifact.artifactId ∈ referencedArtifacts messages := by
      intro artifact
      rw [mem_records]
      simp only [ExtTreeMap.getElem?_filter', Option.filter_eq_some_iff, hall,
        ExtTreeSet.contains_iff_mem]
      constructor
      · rintro ⟨k, ⟨hsource, rfl⟩, hreferenced⟩
        exact ⟨hsource, hreferenced⟩
      · rintro ⟨hsource, hreferenced⟩
        exact ⟨_, ⟨hsource, rfl⟩, hreferenced⟩
    refine ⟨?_, ?_, hmem⟩
    · apply ascending_records
      intro k artifact hk
      rw [ExtTreeMap.getElem?_filter', Option.filter_eq_some_iff, hall] at hk
      exact hk.1.2
    · intro identifier hreferenced
      have hcontained := List.find?_eq_none.mp hfind identifier
        (ExtTreeSet.mem_toList.mpr hreferenced)
      simp only [Bool.not_eq_true', Bool.not_eq_false, ExtTreeMap.contains_iff_mem,
        ExtTreeMap.mem_iff_isSome_getElem?, Option.isSome_iff_exists] at hcontained
      obtain ⟨artifact, hartifact⟩ := hcontained
      obtain ⟨hsource, rfl⟩ := (hall _ _).mp hartifact
      exact ⟨artifact, (hmem artifact).mpr ⟨hsource, hreferenced⟩, rfl⟩

/-- The file-system half of a relocation, given path, expected digest, artifact
and variant; it copies a connector-owned file into the merged archive. -/
abbrev Relocate :=
  String → Option String → String → String → Except RestoreError (Option String)

def relocateOptional (relocate : Relocate) (path digest : Option String)
    (artifact variant : String) : Except RestoreError (Option String) :=
  match path with
  | none => .ok none
  | some path => relocate path digest artifact variant

def relocateConnectorArtifact (relocate : Relocate) (artifact : CanonicalArtifact) :
    Except RestoreError CanonicalArtifact := do
  let materialized ← relocateOptional relocate artifact.materializedLocalPath
    artifact.sourceSha256 artifact.artifactId "materialized"
  let decoded ← relocateOptional relocate artifact.decodedLocalPath artifact.decodedSha256
    artifact.artifactId "decoded"
  return { artifact with materializedLocalPath := materialized, decodedLocalPath := decoded }

end GreenBubbles.Merge
