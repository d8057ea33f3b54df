import Mathlib.Data.List.Induction
import GreenBubbles.Sync.Ledgers

/-! # Removing what was not seen

A record that no ledger names is deleted with the rows that reference it. No
message is deleted with its conversation, as long as every message that is left is in
a conversation that was seen.
-/
namespace GreenBubbles.Sync

open Std Archive Library Upserts

namespace ReplicaTables

variable (tables : ReplicaTables)

def remove (kind : EntityKind) (identifier : String) : ReplicaTables :=
  (tables.unindex kind identifier).deleteRecord kind identifier

/-- No message would be deleted with the record. -/
def Untouched (kind : EntityKind) (identifier : String) : Prop :=
  kind = .conversation → ∀ other row, tables.view .message other = some row →
    row.columns.conversationId ≠ identifier

/-- The memberships under a conversation once records of a kind are gone. -/
def keptMemberships (gone : List String) : EntityKind → String →
    Option (List ConversationMembership) → Option (List ConversationMembership)
  | .conversation, identifier, memberships => if identifier ∈ gone then none else memberships
  | .participant, _, memberships =>
    memberships.map (·.filter fun membership => decide (membership.participantId ∉ gone))
  | _, _, memberships => memberships

/-- The links of a message once records of a kind are gone. -/
def keptLinks (gone : List String) : EntityKind → String → Option (List ArtifactLinkRow) →
    Option (List ArtifactLinkRow)
  | .message, identifier, links => if identifier ∈ gone then none else links
  | .artifact, _, links => links.map (·.filter fun link => decide (link.artifactId ∉ gone))
  | _, _, links => links

variable {tables} {reader : LedgerReader} {kind : EntityKind} {identifier : String}

theorem remove_conversation (h : Consistent reader tables)
    (huntouched : tables.Untouched .conversation identifier) :
    tables.remove .conversation identifier = { tables with
      records := Function.update tables.records .conversation
        ((tables.records .conversation).erase identifier)
      conversationParticipant := tables.conversationParticipant.erase identifier } := by
  have hkept : ((tables.records .message).filter fun _ row =>
      row.columns.conversationId != identifier) = tables.records .message := by
    apply ExtTreeMap.ext_getElem?
    intro other
    rw [ExtTreeMap.getElem?_filter']
    cases hrow : (tables.records .message)[other]? with
    | none => rfl
    | some row =>
      have hother := huntouched rfl other row hrow
      simp [hother]
  have hkeys : ∀ {α : Type} (map : ExtTreeMap String α),
      (∀ other, (map[other]?).isSome = (tables.view .message other).isSome) →
        (map.filter fun source _ => (tables.records .message).contains source) = map := by
    intro α map hmap
    apply ExtTreeMap.ext_getElem?
    intro other
    rw [ExtTreeMap.getElem?_filter']
    cases hvalue : map[other]? with
    | none => rfl
    | some value =>
      have hpresent := hmap other
      rw [hvalue, view, ← ExtTreeMap.contains_eq_isSome_getElem?] at hpresent
      simp [← hpresent]
  have hrelated : ∀ other, (tables.messageRelationship[other]?).isSome =
      (tables.view .message other).isSome := fun other => by
    rw [h.related other, Option.isSome_map]
  simp only [remove, unindex, deleteRecord, hkept, hkeys _ hrelated, hkeys _ h.linked]
  congr 1
  funext other
  by_cases hother : other = .message
  · subst hother
    simp
  · rw [Function.update_of_ne hother]

theorem getElem?_erase_eq {α : Type} (map : ExtTreeMap String α) (other : String) :
    (map.erase identifier)[other]? = if other ∈ [identifier] then none else map[other]? := by
  simp only [ExtTreeMap.getElem?_erase, Std.compare_eq_iff_eq, List.mem_singleton,
    eq_comm (a := other)]

theorem remove_view (h : Consistent reader tables) (huntouched : tables.Untouched kind identifier)
    (other : String) : (tables.remove kind identifier).view kind other =
      if other ∈ [identifier] then none else tables.view kind other := by
  have hrecords : (tables.remove kind identifier).records kind =
      (tables.records kind).erase identifier := by
    cases kind with
    | conversation =>
      rw [remove_conversation h huntouched]
      simp
    | _ => simp [remove, unindex, deleteRecord]
  rw [view, hrecords, getElem?_erase_eq, view]

theorem remove_records_of_ne (h : Consistent reader tables)
    (huntouched : tables.Untouched kind identifier) {other : EntityKind} (hother : other ≠ kind) :
    (tables.remove kind identifier).records other = tables.records other := by
  cases kind with
  | conversation =>
    rw [remove_conversation h huntouched]
    exact Function.update_of_ne hother _ _
  | _ => exact Function.update_of_ne hother _ _

theorem remove_memberships (h : Consistent reader tables)
    (huntouched : tables.Untouched kind identifier) (other : String) :
    (tables.remove kind identifier).conversationParticipant[other]? =
      keptMemberships [identifier] kind other tables.conversationParticipant[other]? := by
  cases kind with
  | conversation =>
    rw [remove_conversation h huntouched]
    exact getElem?_erase_eq ..
  | participant =>
    simp only [remove, unindex, deleteRecord, keptMemberships, ExtTreeMap.getElem?_map,
      List.mem_singleton]
    simp [bne, decide_not, beq_eq_decide]
  | _ => rfl

theorem remove_links (h : Consistent reader tables)
    (huntouched : tables.Untouched kind identifier) (other : String) :
    (tables.remove kind identifier).messageArtifact[other]? =
      keptLinks [identifier] kind other tables.messageArtifact[other]? := by
  cases kind with
  | conversation =>
    rw [remove_conversation h huntouched]
    rfl
  | message => exact getElem?_erase_eq ..
  | artifact =>
    simp only [remove, unindex, deleteRecord, keptLinks, ExtTreeMap.getElem?_map,
      List.mem_singleton]
    simp [bne, decide_not, beq_eq_decide]
  | _ => rfl

theorem remove_index (h : Consistent reader tables) (huntouched : tables.Untouched kind identifier)
    (hkind : kind ≠ .message) : (tables.remove kind identifier).messageFts = tables.messageFts ∧
      (tables.remove kind identifier).messageRelationship = tables.messageRelationship := by
  cases kind with
  | message => exact absurd rfl hkind
  | conversation =>
    rw [remove_conversation h huntouched]
    exact ⟨rfl, rfl⟩
  | _ => exact ⟨rfl, rfl⟩

end ReplicaTables

open ReplicaTables

theorem Consistent.remove {reader : LedgerReader} {tables : ReplicaTables} {kind : EntityKind}
    {identifier : String} (h : Consistent reader tables)
    (huntouched : tables.Untouched kind identifier) :
    Consistent reader (tables.remove kind identifier) := by
  have hmessages : kind ≠ .message →
      (tables.remove kind identifier).view .message = tables.view .message := by
    intro hkind
    funext other
    rw [view, remove_records_of_ne h huntouched (Ne.symm hkind), view]
  constructor
  · intro other id row hrow
    by_cases hother : other = kind
    · subst hother
      rw [remove_view h huntouched] at hrow
      split at hrow
      · cases hrow
      · exact h.sound other id row hrow
    · rw [view, remove_records_of_ne h huntouched hother] at hrow
      exact h.sound other id row hrow
  · intro other
    by_cases hkind : kind = .message
    · subst hkind
      have hfts : (tables.remove .message identifier).messageFts =
          tables.messageFts.erase identifier := rfl
      rw [hfts, getElem?_erase_eq, remove_view h huntouched, h.indexed other]
      split <;> rfl
    · rw [(remove_index h huntouched hkind).1, hmessages hkind]
      exact h.indexed other
  · intro other
    by_cases hkind : kind = .message
    · subst hkind
      have hrelationships : (tables.remove .message identifier).messageRelationship =
          tables.messageRelationship.erase identifier := rfl
      rw [hrelationships, getElem?_erase_eq, remove_view h huntouched, h.related other]
      split <;> rfl
    · rw [(remove_index h huntouched hkind).2, hmessages hkind]
      exact h.related other
  · intro other
    rw [remove_links h huntouched other]
    by_cases hkind : kind = .message
    · subst hkind
      rw [remove_view h huntouched, keptLinks]
      split
      · rfl
      · exact h.linked other
    · rw [hmessages hkind, ← h.linked other]
      cases kind <;> first | exact absurd rfl hkind | simp [keptLinks]

/-! A whole pass of removals -/

section Passes

variable {reader : LedgerReader} {archive : ReplicaArchive} {observedAt : ℕ} {kind : EntityKind}
  {start state : SyncState}

/-- The state once some records are gone. -/
structure Removed (reader : LedgerReader) (kind : EntityKind) (start : SyncState)
    (gone : List String) (state : SyncState) : Prop where
  consistent : Consistent reader state.tables
  view : ∀ identifier, state.tables.view kind identifier =
    if identifier ∈ gone then none else start.tables.view kind identifier
  others : ∀ other, other ≠ kind → state.tables.records other = start.tables.records other
  seen : state.seen = start.seen
  memberships : ∀ identifier, state.tables.conversationParticipant[identifier]? =
    keptMemberships gone kind identifier start.tables.conversationParticipant[identifier]?
  links : ∀ identifier, state.tables.messageArtifact[identifier]? =
    keptLinks gone kind identifier start.tables.messageArtifact[identifier]?

theorem keptMemberships_append (gone : List String) (last identifier : String)
    (memberships : Option (List ConversationMembership)) :
    keptMemberships (gone ++ [last]) kind identifier memberships =
      keptMemberships [last] kind identifier (keptMemberships gone kind identifier memberships) := by
  cases kind with
  | conversation =>
    simp only [keptMemberships, List.mem_append]
    by_cases hlast : identifier ∈ [last] <;> simp [hlast]
  | participant =>
    simp only [keptMemberships, Option.map_map, Function.comp_def, List.filter_filter]
    congr 1
    funext memberships
    apply List.filter_congr
    intro membership _
    simp only [List.mem_append, not_or, Bool.decide_and]
    exact Bool.and_comm ..
  | _ => rfl

theorem keptLinks_append (gone : List String) (last identifier : String)
    (links : Option (List ArtifactLinkRow)) :
    keptLinks (gone ++ [last]) kind identifier links =
      keptLinks [last] kind identifier (keptLinks gone kind identifier links) := by
  cases kind with
  | message =>
    simp only [keptLinks, List.mem_append]
    by_cases hlast : identifier ∈ [last] <;> simp [hlast]
  | artifact =>
    simp only [keptLinks, Option.map_map, Function.comp_def, List.filter_filter]
    congr 1
    funext links
    apply List.filter_congr
    intro link _
    simp only [List.mem_append, not_or, Bool.decide_and]
    exact Bool.and_comm ..
  | _ => rfl

theorem Removed.initial (h : Consistent reader start.tables) : Removed reader kind start [] start where
  consistent := h
  view identifier := by simp
  others _ _ := rfl
  seen := rfl
  memberships identifier := by cases kind <;> simp [keptMemberships]
  links identifier := by cases kind <;> simp [keptLinks]

theorem Removed.step {gone : List String} (h : Removed reader kind start gone state)
    {entry : String × RecordRow kind} (huntouched : state.tables.Untouched kind entry.1) :
    Removed reader kind start (gone ++ [entry.1])
      (removeRecord archive observedAt kind state entry) := by
  have htables : (removeRecord archive observedAt kind state entry).tables =
      state.tables.remove kind entry.1 := rfl
  constructor
  · rw [htables]
    exact h.consistent.remove huntouched
  · intro identifier
    rw [htables, remove_view h.consistent huntouched, h.view identifier]
    simp only [List.mem_append]
    by_cases hlast : identifier ∈ [entry.1] <;> simp [hlast]
  · intro other hother
    rw [htables, remove_records_of_ne h.consistent huntouched hother]
    exact h.others other hother
  · exact h.seen
  · intro identifier
    rw [htables, remove_memberships h.consistent huntouched, h.memberships identifier,
      keptMemberships_append]
  · intro identifier
    rw [htables, remove_links h.consistent huntouched, h.links identifier, keptLinks_append]

/-- What a pass of removals takes away. -/
def goneOf (kind : EntityKind) (state : SyncState) : List String :=
  (missing kind state).map Prod.fst

theorem mem_goneOf {identifier : String} : identifier ∈ goneOf kind state ↔
    (state.tables.view kind identifier).isSome = true ∧ identifier ∉ state.seen kind := by
  have hseen : ∀ id, (!(state.seen kind).contains id) = true ↔ id ∉ state.seen kind := by
    intro id
    rw [Bool.not_eq_true', ← Bool.not_eq_true]
    rfl
  simp only [goneOf, missing, List.mem_map, List.mem_filter, hseen, Prod.exists,
    ExtTreeMap.mem_toList_iff_getElem?_eq_some]
  constructor
  · rintro ⟨id, row, ⟨hrow, hid⟩, rfl⟩
    exact ⟨by rw [ReplicaTables.view, hrow]; rfl, hid⟩
  · rintro ⟨hsome, hid⟩
    obtain ⟨row, hrow⟩ := Option.isSome_iff_exists.mp hsome
    exact ⟨identifier, row, ⟨hrow, hid⟩, rfl⟩

/-- Every message that is left is in a conversation that was seen. -/
def Placed (state : SyncState) : Prop :=
  ∀ identifier row, state.tables.view .message identifier = some row →
    row.columns.conversationId ∈ state.seen .conversation

theorem missing_unseen {entry : String × RecordRow kind} (h : entry ∈ missing kind start) :
    entry.1 ∉ start.seen kind :=
  (mem_goneOf.mp (List.mem_map_of_mem h)).2

variable (archive observedAt) in
/-- The state after a part of the removals. -/
theorem removeMissing_prefix (h : Consistent reader start.tables)
    (hplaced : kind = .conversation → Placed start) {done rest : List (String × RecordRow kind)}
    (hsplit : missing kind start = done ++ rest) :
    Removed reader kind start (done.map Prod.fst)
      (done.foldl (removeRecord archive observedAt kind) start) := by
  induction done using List.reverseRecOn generalizing rest with
  | nil => exact .initial h
  | append_singleton done entry ih =>
    have hsplit' : missing kind start = done ++ entry :: rest := by
      rw [hsplit, List.append_assoc]
      rfl
    have hstate := ih hsplit'
    have hunseen : entry.1 ∉ start.seen kind := by
      apply missing_unseen
      rw [hsplit]
      exact List.mem_append_left _ (List.mem_append_right _ List.mem_cons_self)
    rw [List.foldl_append, List.map_append]
    refine hstate.step ?_
    intro hkind other row hrow hdeleted
    subst hkind
    have hmessages : start.tables.view .message other = some row := by
      rwa [ReplicaTables.view, hstate.others .message (by decide)] at hrow
    exact hunseen (hdeleted ▸ hplaced rfl other row hmessages)

theorem removeMissing_removed (h : Consistent reader start.tables)
    (hplaced : kind = .conversation → Placed start) :
    Removed reader kind start (goneOf kind start) (removeMissing archive observedAt kind start) :=
  removeMissing_prefix archive observedAt h hplaced (List.append_nil _).symm

theorem Removed.view_missing (h : Removed reader kind start (goneOf kind start) state)
    (identifier : String) : state.tables.view kind identifier =
      if identifier ∈ start.seen kind then start.tables.view kind identifier else none := by
  rw [h.view identifier]
  simp only [mem_goneOf]
  by_cases hseen : identifier ∈ start.seen kind
  · simp [hseen]
  · cases hrow : start.tables.view kind identifier <;> simp [hseen]

theorem goneOf_congr (hrecords : state.tables.records kind = start.tables.records kind)
    (hseen : state.seen = start.seen) : goneOf kind state = goneOf kind start := by
  rw [goneOf, missing, hrecords, hseen, goneOf, missing]

/-- The state once all that was not seen is gone. -/
structure Trimmed (reader : LedgerReader) (start state : SyncState) : Prop where
  consistent : Consistent reader state.tables
  view : ∀ kind identifier, state.tables.view kind identifier =
    if identifier ∈ start.seen kind then start.tables.view kind identifier else none
  memberships : ∀ identifier, state.tables.conversationParticipant[identifier]? =
    keptMemberships (goneOf .participant start) .participant identifier
      (keptMemberships (goneOf .conversation start) .conversation identifier
        start.tables.conversationParticipant[identifier]?)
  links : ∀ identifier, state.tables.messageArtifact[identifier]? =
    keptLinks (goneOf .artifact start) .artifact identifier
      (keptLinks (goneOf .message start) .message identifier
        start.tables.messageArtifact[identifier]?)

theorem Removed.placed {middle : SyncState} (h₁ : Removed reader .message start (goneOf .message start) middle)
    (h₂ : Removed reader .artifact middle (goneOf .artifact middle) state)
    (hplaced : ∀ identifier row, identifier ∈ start.seen .message →
      start.tables.view .message identifier = some row →
        row.columns.conversationId ∈ start.seen .conversation) : Placed state := by
  intro identifier row hrow
  rw [ReplicaTables.view, h₂.others .message (by decide)] at hrow
  have hview := h₁.view_missing identifier
  rw [ReplicaTables.view, hrow] at hview
  split at hview
  · next hseen =>
    rw [h₂.seen, h₁.seen]
    exact hplaced identifier row hseen hview.symm
  · cases hview

theorem view_congr {left right : ReplicaTables} (h : left.records kind = right.records kind) :
    left.view kind = right.view kind := by
  funext identifier
  rw [ReplicaTables.view, h, ReplicaTables.view]

/-- Six passes of removals, one for each kind, leave what was seen. -/
theorem Trimmed.of_passes {s₁ s₂ s₃ s₄ s₅ s₆ : SyncState}
    (h₁ : Removed reader .message start (goneOf .message start) s₁)
    (h₂ : Removed reader .artifact s₁ (goneOf .artifact s₁) s₂)
    (h₃ : Removed reader .conversation s₂ (goneOf .conversation s₂) s₃)
    (h₄ : Removed reader .participant s₃ (goneOf .participant s₃) s₄)
    (h₅ : Removed reader .cachedMoment s₄ (goneOf .cachedMoment s₄) s₅)
    (h₆ : Removed reader .cachedMomentInteraction s₅ (goneOf .cachedMomentInteraction s₅) s₆) :
    Trimmed reader start s₆ := by
  have hseen₂ : s₂.seen = start.seen := h₂.seen.trans h₁.seen
  have hseen₄ : s₄.seen = start.seen := h₄.seen.trans (h₃.seen.trans hseen₂)
  have hbefore : ∀ kind, kind ≠ .message → kind ≠ .artifact →
      s₂.tables.records kind = start.tables.records kind := fun kind h h' =>
    (h₂.others kind h').trans (h₁.others kind h)
  have hbetween : ∀ kind, kind ≠ .conversation → kind ≠ .participant →
      s₄.tables.records kind = s₂.tables.records kind := fun kind h h' =>
    (h₄.others kind h').trans (h₃.others kind h)
  have hafter : ∀ kind, kind ≠ .cachedMoment → kind ≠ .cachedMomentInteraction →
      s₆.tables.records kind = s₄.tables.records kind := fun kind h h' =>
    (h₆.others kind h').trans (h₅.others kind h)
  constructor
  · exact h₆.consistent
  · intro kind identifier
    cases kind with
    | message =>
      rw [view_congr (hafter _ (by decide) (by decide)), view_congr (hbetween _ (by decide) (by decide)),
        view_congr (h₂.others _ (by decide))]
      exact h₁.view_missing identifier
    | artifact =>
      rw [view_congr (hafter _ (by decide) (by decide)), view_congr (hbetween _ (by decide) (by decide)),
        h₂.view_missing identifier, h₁.seen, view_congr (h₁.others _ (by decide))]
    | conversation =>
      rw [view_congr (hafter _ (by decide) (by decide)), view_congr (h₄.others _ (by decide)),
        h₃.view_missing identifier, hseen₂, view_congr (hbefore _ (by decide) (by decide))]
    | participant =>
      rw [view_congr (hafter _ (by decide) (by decide)), h₄.view_missing identifier, h₃.seen, hseen₂,
        view_congr (h₃.others _ (by decide)), view_congr (hbefore _ (by decide) (by decide))]
    | cachedMoment =>
      rw [view_congr (h₆.others _ (by decide)), h₅.view_missing identifier, hseen₄,
        view_congr (hbetween _ (by decide) (by decide)), view_congr (hbefore _ (by decide) (by decide))]
    | cachedMomentInteraction =>
      rw [h₆.view_missing identifier, h₅.seen, hseen₄, view_congr (h₅.others _ (by decide)),
        view_congr (hbetween _ (by decide) (by decide)), view_congr (hbefore _ (by decide) (by decide))]
  · intro identifier
    have hconversations : goneOf .conversation s₂ = goneOf .conversation start :=
      goneOf_congr (hbefore _ (by decide) (by decide)) hseen₂
    have hparticipants : goneOf .participant s₃ = goneOf .participant start :=
      goneOf_congr ((h₃.others _ (by decide)).trans (hbefore _ (by decide) (by decide)))
        (h₃.seen.trans hseen₂)
    rw [h₆.memberships, h₅.memberships, h₄.memberships, h₃.memberships, h₂.memberships,
      h₁.memberships, hconversations, hparticipants]
    rfl
  · intro identifier
    have hartifacts : goneOf .artifact s₁ = goneOf .artifact start :=
      goneOf_congr (h₁.others _ (by decide)) h₁.seen
    rw [h₆.links, h₅.links, h₄.links, h₃.links, h₂.links, h₁.links, hartifacts]
    rfl

variable (archive observedAt) in
/-- The six passes of removals, and whatever each of them keeps. -/
theorem removeAllMissing_induction {I : SyncState → Prop} (h : Consistent reader start.tables)
    (hplaced : ∀ identifier row, identifier ∈ start.seen .message →
      start.tables.view .message identifier = some row →
        row.columns.conversationId ∈ start.seen .conversation) (hI : I start)
    (hpass : ∀ kind state, Consistent reader state.tables → (kind = .conversation → Placed state) →
      I state → I (removeMissing archive observedAt kind state)) :
    Trimmed reader start (removeAllMissing archive observedAt start) ∧
      I (removeAllMissing archive observedAt start) := by
  simp only [removeAllMissing, removalOrder, List.foldl_cons, List.foldl_nil]
  have h₁ : Removed reader .message start (goneOf .message start)
      (removeMissing archive observedAt .message start) :=
    removeMissing_removed h (fun hkind => by cases hkind)
  have hI₁ := hpass .message start h (fun hkind => by cases hkind) hI
  generalize removeMissing archive observedAt .message start = s₁ at h₁ hI₁ ⊢
  have h₂ : Removed reader .artifact s₁ (goneOf .artifact s₁)
      (removeMissing archive observedAt .artifact s₁) :=
    removeMissing_removed h₁.consistent (fun hkind => by cases hkind)
  have hI₂ := hpass .artifact s₁ h₁.consistent (fun hkind => by cases hkind) hI₁
  generalize removeMissing archive observedAt .artifact s₁ = s₂ at h₂ hI₂ ⊢
  have h₃ : Removed reader .conversation s₂ (goneOf .conversation s₂)
      (removeMissing archive observedAt .conversation s₂) :=
    removeMissing_removed h₂.consistent (fun _ => h₁.placed h₂ hplaced)
  have hI₃ := hpass .conversation s₂ h₂.consistent (fun _ => h₁.placed h₂ hplaced) hI₂
  generalize removeMissing archive observedAt .conversation s₂ = s₃ at h₃ hI₃ ⊢
  have h₄ : Removed reader .participant s₃ (goneOf .participant s₃)
      (removeMissing archive observedAt .participant s₃) :=
    removeMissing_removed h₃.consistent (fun hkind => by cases hkind)
  have hI₄ := hpass .participant s₃ h₃.consistent (fun hkind => by cases hkind) hI₃
  generalize removeMissing archive observedAt .participant s₃ = s₄ at h₄ hI₄ ⊢
  have h₅ : Removed reader .cachedMoment s₄ (goneOf .cachedMoment s₄)
      (removeMissing archive observedAt .cachedMoment s₄) :=
    removeMissing_removed h₄.consistent (fun hkind => by cases hkind)
  have hI₅ := hpass .cachedMoment s₄ h₄.consistent (fun hkind => by cases hkind) hI₄
  generalize removeMissing archive observedAt .cachedMoment s₄ = s₅ at h₅ hI₅ ⊢
  have h₆ : Removed reader .cachedMomentInteraction s₅ (goneOf .cachedMomentInteraction s₅)
      (removeMissing archive observedAt .cachedMomentInteraction s₅) :=
    removeMissing_removed h₅.consistent (fun hkind => by cases hkind)
  exact ⟨.of_passes h₁ h₂ h₃ h₄ h₅ h₆,
    hpass .cachedMomentInteraction s₅ h₅.consistent (fun hkind => by cases hkind) hI₅⟩

theorem Trimmed.seen_of_isSome (h : Trimmed reader start state) {identifier : String}
    (hsome : (state.tables.view kind identifier).isSome = true) :
    identifier ∈ start.seen kind ∧ (start.tables.view kind identifier).isSome = true := by
  rw [h.view kind identifier] at hsome
  split at hsome
  · next hseen => exact ⟨hseen, hsome⟩
  · cases hsome

/-- Links to artifacts there were are kept exactly when the artifacts are. -/
theorem Trimmed.kept_links (h : Trimmed reader start state) {links : List ArtifactLinkRow}
    (hlisted : ∀ link ∈ links, (start.tables.view .artifact link.artifactId).isSome = true) :
    (links.filter fun link => decide (link.artifactId ∉ goneOf .artifact start)) =
      state.tables.listed links := by
  apply List.filter_congr
  intro link hlink
  rw [h.view .artifact link.artifactId]
  by_cases hseen : link.artifactId ∈ start.seen .artifact
  · simp [hseen, mem_goneOf, hlisted link hlink]
  · simp [hseen, mem_goneOf, hlisted link hlink]

theorem Trimmed.listed_listed (h : Trimmed reader start state) (links : List ArtifactLinkRow) :
    state.tables.listed (start.tables.listed links) = state.tables.listed links := by
  rw [listed, listed, listed, List.filter_filter]
  apply List.filter_congr
  intro link _
  cases hsome : (state.tables.view .artifact link.artifactId).isSome with
  | false => rfl
  | true => exact (h.seen_of_isSome hsome).2

end Passes

end GreenBubbles.Sync
