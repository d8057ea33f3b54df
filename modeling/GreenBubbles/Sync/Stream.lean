import GreenBubbles.Library.Replay
import GreenBubbles.Sync.Refinement

/-! # The log of a synchronization

A synchronization logs one change for each record that it adds, changes or removes,
and none for any other. Whoever replays them over the digests from before has the
digests from after.
-/
namespace GreenBubbles.Sync

open Std Archive Library Upserts Replay

namespace ReplicaChange

def key (change : ReplicaChange) : Option EntityKind × String := (change.entityKind, change.entityId)

/-- The digest a record has after a change. -/
def effect (change : ReplicaChange) : Option String :=
  if change.changeKind = .removed then none else change.recordSha256

end ReplicaChange

/-- The digests of all records. -/
def ReplicaTables.digests (tables : ReplicaTables) : Option EntityKind × String → Option String
  | (some kind, identifier) => (tables.view kind identifier).map (·.recordSha256)
  | (none, _) => none

/-- A change tells how the row of a record became another one. -/
def Tells {kind : EntityKind} (change : ReplicaChange) :
    Option (RecordRow kind) → Option (RecordRow kind) → Prop
  | none, some row => change.changeKind = .added ∧ change.recordSha256 = some row.recordSha256
  | some old, some row =>
    old ≠ row ∧ change.changeKind = .changed ∧ change.recordSha256 = some row.recordSha256
  | some old, none => change.changeKind = .removed ∧ change.recordSha256 = some old.recordSha256
  | none, none => False

/-- One change for each record that differs. -/
structure Reports (before after : ReplicaTables) (changes : List ReplicaChange) : Prop where
  nodup : (changes.map ReplicaChange.key).Nodup
  told : ∀ change ∈ changes, ∃ kind, change.entityKind = some kind ∧
    Tells change (before.view kind change.entityId) (after.view kind change.entityId)
  complete : ∀ kind identifier, before.view kind identifier ≠ after.view kind identifier →
    (some kind, identifier) ∈ changes.map ReplicaChange.key

variable {before middle after tables : ReplicaTables} {changes log : List ReplicaChange}
  {kind : EntityKind} {identifier : String}

theorem Tells.ne {change : ReplicaChange} {old new : Option (RecordRow kind)}
    (h : Tells change old new) : old ≠ new := by
  cases old <;> cases new
  · exact h.elim
  · simp
  · simp
  · simpa using h.1

theorem Tells.effect {change : ReplicaChange} {old new : Option (RecordRow kind)}
    (h : Tells change old new) : new.map (·.recordSha256) = change.effect := by
  cases old <;> cases new
  · exact h.elim
  · simp [ReplicaChange.effect, h.1, h.2]
  · simp [ReplicaChange.effect, h.1]
  · simp [ReplicaChange.effect, h.2.1, h.2.2]

theorem Reports.refl : Reports tables tables [] where
  nodup := List.nodup_nil
  told _ h := by cases h
  complete _ _ h := absurd rfl h

/-- A record not reported yet still stands as it did. -/
theorem Reports.unreported (h : Reports before after changes)
    (hkey : (some kind, identifier) ∉ changes.map ReplicaChange.key) :
    before.view kind identifier = after.view kind identifier := by
  by_contra hne
  exact hkey (h.complete kind identifier hne)

theorem Reports.congr (h : Reports before middle changes)
    (hrecords : after.records = middle.records) : Reports before after changes := by
  have hview : after.view = middle.view := by
    funext kind identifier
    rw [ReplicaTables.view, ReplicaTables.view, hrecords]
  constructor
  · exact h.nodup
  · rw [hview]
    exact h.told
  · rw [hview]
    exact h.complete

theorem Reports.snoc (h : Reports before middle changes) {change : ReplicaChange}
    (hkind : change.entityKind = some kind)
    (hnew : (some kind, change.entityId) ∉ changes.map ReplicaChange.key)
    (htells : Tells change (middle.view kind change.entityId) (after.view kind change.entityId))
    (hrest : ∀ other id, (some other, id) ≠ change.key → after.view other id = middle.view other id) :
    Reports before after (changes ++ [change]) := by
  have hkey : change.key = (some kind, change.entityId) := by rw [ReplicaChange.key, hkind]
  constructor
  · rw [List.map_append, List.map_singleton, hkey]
    exact List.nodup_append.mpr ⟨h.nodup, List.nodup_singleton _, fun a ha b hb => by
      rw [List.mem_singleton.mp hb]
      rintro rfl
      exact hnew ha⟩
  · intro other hother
    rcases List.mem_append.mp hother with hbefore | hlast
    · obtain ⟨kind', hkind', htold⟩ := h.told other hbefore
      refine ⟨kind', hkind', ?_⟩
      rw [hrest kind' other.entityId]
      · exact htold
      · rw [hkey]
        intro hsame
        apply hnew
        rw [← hsame, ← hkind']
        exact List.mem_map_of_mem hbefore
    · rw [List.mem_singleton.mp hlast]
      refine ⟨kind, hkind, ?_⟩
      rw [h.unreported hnew]
      exact htells
  · intro other id hne
    rw [List.map_append, List.map_singleton, List.mem_append, List.mem_singleton]
    by_cases hsame : (some other, id) = change.key
    · exact .inr hsame
    · rw [hrest other id hsame] at hne
      exact .inl (h.complete other id hne)

/-- Replaying the changes leads from the digests before to the digests after. -/
theorem Reports.replay (h : Reports before after changes) :
    replay ReplicaChange.key ReplicaChange.effect changes before.digests = after.digests := by
  rw [replay_eq_iff h.nodup]
  constructor
  · intro change hchange
    obtain ⟨kind, hkind, htells⟩ := h.told change hchange
    rw [ReplicaChange.key, hkind]
    exact htells.effect
  · rintro ⟨_ | kind, identifier⟩ hkey
    · rfl
    · have hunreported : (some kind, identifier) ∉ changes.map ReplicaChange.key := by
        intro hmem
        obtain ⟨change, hchange, hsame⟩ := List.mem_map.mp hmem
        exact hkey change hchange hsame
      change (after.view kind identifier).map _ = (before.view kind identifier).map _
      rw [h.unreported hunreported]

/-! The ledgers -/

section Ledgers

variable {reader : LedgerReader} {archive : ReplicaArchive} {observedAt : ℕ} {state next : SyncState}
  {text : String}

/-- Whatever a step with one text of a ledger keeps, going through all ledgers keeps. -/
theorem reconcileLedgers_induction {I : SyncState → Prop} {start : SyncState}
    (hconsistent : Consistent reader start.tables) (hI : I start)
    (hrecord : ∀ kind text state next, Consistent reader state.tables → I state →
      reconcileRecord reader archive observedAt kind state text = .ok next → I next)
    (hmembers : ∀ text state next, I state →
      reconcileMemberships reader state text = .ok next → I next)
    (h : reconcileLedgers reader archive observedAt start = .ok state) :
    Consistent reader state.tables ∧ I state := by
  have hledger : ∀ {kind} {before after : SyncState},
      forEachRecord archive kind (reconcileRecord reader archive observedAt kind) before =
        .ok after → Consistent reader before.tables ∧ I before →
          Consistent reader after.tables ∧ I after := by
    intro kind before after hpass hbefore
    refine foldlM_prefix (I := fun _ state => Consistent reader state.tables ∧ I state) ?_
      (forEachRecord_ok.mp hpass).1 hbefore
    intro _ text state next hstate hstep
    refine ⟨?_, hrecord kind text state next hstate.1 hstate.2 hstep⟩
    obtain ⟨record, row, hread, -, hrow, -, hcases⟩ := hstate.1.reconcileRecord_ok hstep
    rcases hcases with ⟨-, rfl⟩ | ⟨-, -, -, hwritten⟩
    · exact hstate.1
    · rw [hwritten.tables]
      exact hstate.1.write hread hrow
  have hconversations : ∀ {before after : SyncState},
      forEachRecord archive .conversation (reconcileMemberships reader) before = .ok after →
        Consistent reader before.tables ∧ I before →
          Consistent reader after.tables ∧ I after := by
    intro before after hpass hbefore
    refine foldlM_prefix (I := fun _ state => Consistent reader state.tables ∧ I state) ?_
      (forEachRecord_ok.mp hpass).1 hbefore
    intro _ text state next hstate hstep
    refine ⟨?_, hmembers text state next hstate.2 hstep⟩
    obtain ⟨conversation, -, hstep⟩ := bind_ok.mp hstep
    split at hstep
    · obtain rfl := Except.ok.inj hstep
      exact hstate.1
    · obtain ⟨tables, htables, hstep⟩ := bind_ok.mp hstep
      obtain rfl := Except.ok.inj hstep
      obtain ⟨-, -, rfl⟩ := insertMemberships_ok htables
      exact ⟨hstate.1.1, hstate.1.2, hstate.1.3, hstate.1.4⟩
  rw [reconcileLedgers] at h
  obtain ⟨conversations, h₁, h⟩ := bind_ok.mp h
  obtain ⟨participants, h₂, h⟩ := bind_ok.mp h
  obtain ⟨members, h₃, h⟩ := bind_ok.mp h
  obtain ⟨artifacts, h₄, h⟩ := bind_ok.mp h
  obtain ⟨messages, h₅, h⟩ := bind_ok.mp h
  obtain ⟨moments, h₆, h₇⟩ := bind_ok.mp h
  exact hledger h₇ (hledger h₆ (hledger h₅ (hledger h₄ (hconversations h₃
    (hledger h₂ (hledger h₁ ⟨hconsistent, hI⟩))))))

/-- The changes logged so far, all of records that have been seen. -/
structure LoggedWrites (before : ReplicaTables) (log : List ReplicaChange) (state : SyncState)
    (changes : List ReplicaChange) : Prop where
  changeLog : state.changeLog = log ++ changes
  reports : Reports before state.tables changes
  seen : ∀ kind identifier, (some kind, identifier) ∈ changes.map ReplicaChange.key →
    identifier ∈ state.seen kind

theorem LoggedWrites.step (h : LoggedWrites before log state changes)
    (hconsistent : Consistent reader state.tables)
    (hstep : reconcileRecord reader archive observedAt kind state text = .ok next) :
    ∃ changes, LoggedWrites before log next changes := by
  obtain ⟨record, row, -, -, -, hunseen, hcases⟩ := hconsistent.reconcileRecord_ok hstep
  have hmarked : ∀ other identifier, identifier ∈ state.seen other →
      identifier ∈ (state.marked kind (kind.identifier record)).seen other := by
    intro other identifier hseen
    by_cases hother : other = kind
    · subst hother
      simp only [SyncState.marked, Function.update_self, ExtTreeSet.mem_insert]
      exact .inr hseen
    · simp only [SyncState.marked]
      rw [Function.update_of_ne hother]
      exact hseen
  have hself : kind.identifier record ∈
      (state.marked kind (kind.identifier record)).seen kind := by
    simp [SyncState.marked]
  rcases hcases with ⟨-, rfl⟩ | ⟨hdiffers, -, -, hwritten⟩
  · exact ⟨changes, h.changeLog, h.reports, fun other identifier hmem =>
      hmarked other identifier (h.seen other identifier hmem)⟩
  · have hview : next.tables.view kind =
        Function.update (state.tables.view kind) (kind.identifier record) (some row) := by
      rw [hwritten.tables, ReplicaTables.view_write]
      rfl
    have hothers : ∀ other, other ≠ kind → next.tables.view other = state.tables.view other := by
      intro other hother
      rw [hwritten.tables]
      exact view_congr (ReplicaTables.write_records_of_ne hother)
    refine ⟨changes ++ [(state.marked kind (kind.identifier record)).entry archive observedAt kind
      record row], ?_, ?_, ?_⟩
    · rw [hwritten.changeLog]
      change state.changeLog ++ _ = _
      rw [h.changeLog, List.append_assoc]
    · refine h.reports.snoc rfl (fun hmem => hunseen (h.seen kind _ hmem)) ?_ ?_
      · change Tells _ (state.tables.view kind (kind.identifier record))
          (next.tables.view kind (kind.identifier record))
        rw [hview, Function.update_self]
        have htables : (state.marked kind (kind.identifier record)).tables = state.tables := rfl
        cases hold : state.tables.view kind (kind.identifier record) with
        | none => exact ⟨by simp [SyncState.entry, htables, hold], rfl⟩
        | some old =>
          refine ⟨?_, by simp [SyncState.entry, htables, hold], rfl⟩
          rintro rfl
          exact hdiffers hold
      · intro other id hne
        by_cases hother : other = kind
        · subst hother
          rw [hview, Function.update_of_ne]
          rintro rfl
          exact hne rfl
        · rw [hothers other hother]
    · intro other identifier hmem
      rw [hwritten.seen]
      rw [List.map_append, List.map_singleton, List.mem_append, List.mem_singleton] at hmem
      rcases hmem with hmem | hlast
      · exact hmarked other identifier (h.seen other identifier hmem)
      · obtain ⟨hkind, hidentifier⟩ := Prod.mk.inj hlast
        obtain rfl := Option.some.inj hkind
        rw [hidentifier]
        exact hself

theorem reconcileLedgers_logged (hconsistent : Consistent reader tables)
    (h : reconcileLedgers reader archive observedAt (start tables log) = .ok state) :
    ∃ changes, LoggedWrites tables log state changes := by
  have hstart : ∃ changes, LoggedWrites tables log (start tables log) changes :=
    ⟨[], (List.append_nil _).symm, .refl, fun _ _ hmem => by cases hmem⟩
  refine (reconcileLedgers_induction (I := fun state => ∃ changes, LoggedWrites tables log state
    changes) hconsistent hstart ?_ ?_ h).2
  · rintro kind text state next hconsistent ⟨changes, hlogged⟩ hstep
    exact hlogged.step hconsistent hstep
  · rintro text state next ⟨changes, hlogged⟩ hstep
    obtain ⟨conversation, -, hstep⟩ := bind_ok.mp hstep
    split at hstep
    · obtain rfl := Except.ok.inj hstep
      exact ⟨changes, hlogged⟩
    · obtain ⟨tables, htables, hstep⟩ := bind_ok.mp hstep
      obtain rfl := Except.ok.inj hstep
      obtain ⟨-, -, rfl⟩ := insertMemberships_ok htables
      exact ⟨changes, hlogged.changeLog, hlogged.reports.congr rfl, hlogged.seen⟩

end Ledgers

/-! The removals -/

section Removals

variable {reader : LedgerReader} {archive : ReplicaArchive} {observedAt : ℕ} {start state : SyncState}

/-- The changes logged so far, all of records that have been seen or are gone. -/
structure LoggedRemovals (before : ReplicaTables) (log : List ReplicaChange) (state : SyncState)
    (changes : List ReplicaChange) : Prop where
  changeLog : state.changeLog = log ++ changes
  reports : Reports before state.tables changes
  settled : ∀ kind identifier, (some kind, identifier) ∈ changes.map ReplicaChange.key →
    identifier ∈ state.seen kind ∨ state.tables.view kind identifier = none

/-- The entry a removed record is logged with. -/
def removal (archive : ReplicaArchive) (observedAt : ℕ) (log : List ReplicaChange) (kind : EntityKind)
    (entry : String × RecordRow kind) : ReplicaChange where
  sequence := nextSequence log
  sourceFingerprint := archive.report.sourceFingerprint
  changeKind := .removed
  entityKind := some kind
  entityId := entry.1
  conversationId := removedConversation kind entry.1 entry.2
  recordSha256 := some entry.2.recordSha256
  observedAtUnixNanoseconds := observedAt

variable (kind start) in
theorem missing_nodup : ((missing kind start).map Prod.fst).Nodup := by
  have hkeys : ((start.tables.records kind).toList.map Prod.fst).Nodup := by
    rw [ExtTreeMap.map_fst_toList_eq_keys]
    exact ExtTreeMap.nodup_keys
  exact hkeys.sublist (List.filter_sublist.map Prod.fst)

theorem missing_view {entry : String × RecordRow kind} (h : entry ∈ missing kind start) :
    start.tables.view kind entry.1 = some entry.2 :=
  ExtTreeMap.mem_toList_iff_getElem?_eq_some.mp (List.mem_filter.mp h).1

theorem removeMissing_logged (hconsistent : Consistent reader start.tables)
    (hplaced : kind = .conversation → Placed start)
    (h : ∃ changes, LoggedRemovals before log start changes) :
    ∃ changes, LoggedRemovals before log (removeMissing archive observedAt kind start) changes := by
  have hprefix : ∀ done rest, missing kind start = done ++ rest → ∃ changes, LoggedRemovals before log
      (done.foldl (removeRecord archive observedAt kind) start) changes := by
    intro done
    induction done using List.reverseRecOn with
    | nil => exact fun _ _ => h
    | append_singleton done entry ih =>
      intro rest hsplit
      have hsplit' : missing kind start = done ++ entry :: rest := by
        rw [hsplit, List.append_assoc]
        rfl
      obtain ⟨changes, hlogged⟩ := ih (entry :: rest) hsplit'
      have hremoved := removeMissing_prefix archive observedAt hconsistent hplaced hsplit'
      have hnext := removeMissing_prefix archive observedAt hconsistent hplaced hsplit
      rw [List.foldl_append] at hnext ⊢
      have hentry : entry ∈ missing kind start := by
        rw [hsplit']
        exact List.mem_append_right _ List.mem_cons_self
      have hlater : entry.1 ∉ done.map Prod.fst := by
        have hnodup := missing_nodup kind start
        rw [hsplit', List.map_append, List.map_cons, List.nodup_append] at hnodup
        exact fun hmem => hnodup.2.2 _ hmem _ List.mem_cons_self rfl
      generalize done.foldl (removeRecord archive observedAt kind) start = middle at *
      have hstands : middle.tables.view kind entry.1 = some entry.2 := by
        rw [hremoved.view, if_neg hlater]
        exact missing_view hentry
      have hgone : (removeRecord archive observedAt kind middle entry).tables.view kind entry.1 =
          none := by
        have hview := hnext.view entry.1
        rw [List.map_append] at hview
        exact hview.trans (if_pos (List.mem_append_right _ (List.mem_singleton.mpr rfl)))
      have hkept : ∀ other id, (other = kind → id ≠ entry.1) →
          (removeRecord archive observedAt kind middle entry).tables.view other id =
            middle.tables.view other id := by
        intro other id hne
        by_cases hother : other = kind
        · subst hother
          have hview := hnext.view id
          rw [List.map_append] at hview
          have hmem : id ∈ done.map Prod.fst ++ [entry].map Prod.fst ↔ id ∈ done.map Prod.fst := by
            simp [hne rfl]
          simp only [hmem] at hview
          exact hview.trans (hremoved.view id).symm
        · exact congrFun (view_congr ((hnext.others other hother).trans
            (hremoved.others other hother).symm)) id
      refine ⟨changes ++ [removal archive observedAt middle.changeLog kind entry], ?_,
        hlogged.reports.snoc rfl ?_ ?_ ?_, ?_⟩
      · rw [← List.append_assoc, ← hlogged.changeLog]
        rfl
      · intro hmem
        rcases hlogged.settled kind entry.1 hmem with hseen | hnone
        · exact missing_unseen hentry (hremoved.seen ▸ hseen)
        · rw [hstands] at hnone
          cases hnone
      · change Tells _ (middle.tables.view kind entry.1)
          ((removeRecord archive observedAt kind middle entry).tables.view kind entry.1)
        rw [hstands, hgone]
        exact ⟨rfl, rfl⟩
      · intro other id hne
        refine hkept other id ?_
        rintro rfl rfl
        exact hne rfl
      · intro other id hmem
        rw [List.map_append, List.map_singleton, List.mem_append, List.mem_singleton] at hmem
        by_cases hsame : other = kind ∧ id = entry.1
        · obtain ⟨rfl, rfl⟩ := hsame
          exact .inr hgone
        · rcases hmem with hmem | hlast
          · have hview := hkept other id (fun hkind hid => hsame ⟨hkind, hid⟩)
            exact (hlogged.settled other id hmem).imp_right fun hnone => hview.trans hnone
          · obtain ⟨hkind, hid⟩ := Prod.mk.inj hlast
            exact absurd ⟨Option.some.inj hkind, hid⟩ hsame
  exact hprefix (missing kind start) [] (List.append_nil _).symm

end Removals

/-! A whole synchronization -/

variable {reader : LedgerReader} {archive previous : ReplicaArchive} {observedAt : ℕ}
  {state : SyncState}

theorem Holds.reports (hprevious : Holds reader previous tables) (hclosed : Closed reader archive)
    (h : reconcileArchive reader archive observedAt tables log = .ok state) :
    ∃ changes, state.changeLog = log ++ changes ∧ Reports tables state.tables changes := by
  obtain ⟨middle, hledgers, h⟩ := bind_ok.mp h
  obtain rfl := Except.ok.inj h
  have hgone := hprevious.goneThrough hledgers
  obtain ⟨writes, hwrites⟩ := reconcileLedgers_logged hprevious.consistent hledgers
  obtain ⟨changes, hchanges⟩ := (removeAllMissing_induction archive observedAt
    (I := fun state => ∃ changes, LoggedRemovals tables log state changes)
    hgone.consistent (fun _ _ => hgone.placed hclosed)
    ⟨writes, hwrites.changeLog, hwrites.reports, fun kind identifier hmem =>
      .inl (hwrites.seen kind identifier hmem)⟩
    fun kind state hconsistent hplaced hlogged =>
      removeMissing_logged hconsistent hplaced hlogged).2
  generalize removeAllMissing archive observedAt middle = trimmed at hchanges ⊢
  exact ⟨changes, hchanges.changeLog, hchanges.reports.congr rfl⟩

/-! Sequences -/

/-- The changes are numbered from one on. -/
def Numbered (log : List ReplicaChange) : Prop :=
  log.map (·.sequence) = List.range' 1 log.length

theorem nextSequence_eq (h : Numbered log) : nextSequence log = log.length + 1 := by
  rw [nextSequence, ← List.getLast?_map, h, List.getLast?_range']
  cases log <;> simp

theorem Numbered.snoc (h : Numbered log) {change : ReplicaChange}
    (hsequence : change.sequence = nextSequence log) : Numbered (log ++ [change]) := by
  rw [Numbered, List.map_append, h, List.map_singleton, hsequence, nextSequence_eq h,
    List.length_append, List.length_singleton, List.range'_concat]
  simp [Nat.add_comm]

theorem reconcileArchive_numbered (hconsistent : Consistent reader tables) (hlog : Numbered log)
    (h : reconcileArchive reader archive observedAt tables log = .ok state) :
    Numbered state.changeLog := by
  obtain ⟨middle, hledgers, h⟩ := bind_ok.mp h
  obtain rfl := Except.ok.inj h
  have hmiddle := (reconcileLedgers_induction (I := fun state => Numbered state.changeLog)
    hconsistent hlog ?_ ?_ hledgers).2
  · have hpass : ∀ kind (state : SyncState), Numbered state.changeLog →
        Numbered (removeMissing archive observedAt kind state).changeLog := by
      intro kind state hstate
      rw [removeMissing]
      induction missing kind state generalizing state with
      | nil => exact hstate
      | cons entry entries ih => exact ih _ (hstate.snoc rfl)
    have hpasses : ∀ (kinds : List EntityKind) (state : SyncState), Numbered state.changeLog →
        Numbered (kinds.foldl (fun state kind => removeMissing archive observedAt kind state)
          state).changeLog := by
      intro kinds
      induction kinds with
      | nil => exact fun _ hstate => hstate
      | cons kind kinds ih => exact fun state hstate => ih _ (hpass kind state hstate)
    have hall : Numbered (removeAllMissing archive observedAt middle).changeLog := by
      rw [removeAllMissing]
      exact hpasses removalOrder middle hmiddle
    generalize removeAllMissing archive observedAt middle = trimmed at hall ⊢
    exact hall
  · intro kind text state next hconsistent hstate hstep
    obtain ⟨record, row, -, -, -, -, hcases⟩ := hconsistent.reconcileRecord_ok hstep
    rcases hcases with ⟨-, rfl⟩ | ⟨-, -, -, hwritten⟩
    · exact hstate
    · rw [hwritten.changeLog]
      exact hstate.snoc rfl
  · intro text state next hstate hstep
    obtain ⟨conversation, -, hstep⟩ := bind_ok.mp hstep
    split at hstep
    · obtain rfl := Except.ok.inj hstep
      exact hstate
    · obtain ⟨tables, -, hstep⟩ := bind_ok.mp hstep
      obtain rfl := Except.ok.inj hstep
      exact hstate

end GreenBubbles.Sync
