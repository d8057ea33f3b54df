import GreenBubbles.Follow.Follower

/-! # Interrupted followers

A call of a follower writes the replica and then its state file. When it is interrupted in
between, the next call finds the archive applied, changes nothing in the replica, and writes
the state the first one would have written.
-/
namespace GreenBubbles.Follow

open Archive Library Sync

/-- The replica is what applying the archive leaves. -/
structure Settled (archive : ReplicaArchive) (store : ReplicaStore) : Prop where
  identity : ∃ identity, store.identity = some identity ∧
    identity.accountId = archive.report.accountId ∧
    identity.currentSourceFingerprint = some archive.report.sourceFingerprint ∧
    identity.selfParticipantId = archive.report.selfParticipantId
  coverage : store.tables.coverageState = some ⟨archive.report, archive.coverage⟩

variable {ledgers : LedgerReader} {digest : RestorationReport → RestorationCoverage → String}
  {store after : ReplicaStore} {application again : Application} {archive : ReplicaArchive}

theorem Settled.unchanged (h : Settled archive store) : store.unchangedRevision digest archive = true := by
  rw [ReplicaStore.unchangedRevision, h.coverage]
  simp

/-- An archive drops nothing that it has itself. -/
theorem Settled.lossless (h : Settled archive store)
    (heligible : archive.report.replicaMutationEligible = true) :
    store.requireLossless archive = .ok () := by
  rw [ReplicaStore.requireLossless, h.coverage]
  simp only [ensurePartialDatabaseTransitionIsLossless]
  split
  · rfl
  · next hscope =>
    have hpartial : archive.report.archiveScope = .partialDatabaseCoverage := not_not.mp hscope
    rw [RestorationReport.replicaMutationEligible, hpartial] at heligible
    cases hcoverage : archive.report.databaseCoverage with
    | none => simp [hcoverage] at heligible
    | some coverage =>
      refine if_neg fun hdropped => ?_
      rw [List.any_eq_true] at hdropped
      obtain ⟨sourceSet, hincluded, hdropped⟩ := hdropped
      rw [Bool.and_eq_true, Bool.not_eq_true'] at hdropped
      have hkept : coverage.includedSourceSetIds.contains sourceSet = true :=
        Std.ExtTreeSet.mem_toList.mp hincluded
      rw [hkept] at hdropped
      cases hdropped.2

theorem requireCompatibleSelfParticipant_self (existing : Option String) :
    requireCompatibleSelfParticipant existing existing = .ok () := by
  rw [requireCompatibleSelfParticipant]
  cases existing <;> simp

theorem requireAuthoritativeArchive_of_eligible {report : RestorationReport}
    (heligible : report.replicaMutationEligible = true) :
    requireAuthoritativeArchive report = .ok () := by
  rw [requireAuthoritativeArchive, if_pos heligible]

theorem Settled.matching (h : Settled archive store)
    (heligible : archive.report.replicaMutationEligible = true) :
    store.matchesAuthoritativeArchive digest archive = .ok true := by
  obtain ⟨identity, hidentity, haccount, hfingerprint, hself⟩ := h.identity
  rw [ReplicaStore.matchesAuthoritativeArchive, requireAuthoritativeArchive_of_eligible heligible,
    hidentity]
  simp [haccount, hfingerprint, hself, h.unchanged, bind, Except.bind, pure, Except.pure]

theorem Settled.synchronize (h : Settled application.archive store)
    (heligible : application.archive.report.replicaMutationEligible = true) :
    store.synchronize ledgers digest application = .ok store := by
  obtain ⟨identity, hidentity, haccount, hfingerprint, hself⟩ := h.identity
  have hrequired : requireAccount application.archive.report.accountId identity.accountId =
      .ok () := by
    rw [requireAccount, haccount]
    simp
  rw [ReplicaStore.synchronize, requireAuthoritativeArchive_of_eligible heligible, hidentity]
  simp [hrequired, hself, requireCompatibleSelfParticipant_self, hfingerprint,
    h.lossless heligible, h.unchanged, bind, Except.bind, pure, Except.pure]

theorem importArchive_coverage {tables : ReplicaTables} (h : importArchive ledgers archive = .ok tables) :
    tables.coverageState = some ⟨archive.report, archive.coverage⟩ :=
  (importArchive_holds h).1.coverage

theorem reconcileArchive_coverage {observedAt : ℕ} {tables : ReplicaTables}
    {log : List ReplicaChange} {state : SyncState}
    (h : reconcileArchive ledgers archive observedAt tables log = .ok state) :
    state.tables.coverageState = some ⟨archive.report, archive.coverage⟩ := by
  obtain ⟨middle, -, h⟩ := bind_ok.mp h
  obtain rfl := Except.ok.inj h
  rfl

theorem bootstrap_settled (hnone : store.identity = none)
    (h : store.bootstrap ledgers application = .ok after) : Settled application.archive after := by
  obtain ⟨-, h⟩ := check_bind_ok.mp h
  obtain ⟨-, h⟩ := check_bind_ok.mp h
  simp only [hnone] at h
  split at h
  · cases h
  · split at h
    · cases h
    · obtain ⟨-, himport⟩ := check_bind_ok.mp h
      rw [ReplicaStore.importArchiveTransactionally, hnone] at himport
      obtain ⟨tables, htables, h⟩ := bind_ok.mp himport
      obtain rfl := Except.ok.inj h
      exact ⟨⟨_, rfl, rfl, rfl, rfl⟩, importArchive_coverage htables⟩

/-- A synchronization that is repeated changes nothing. -/
theorem synchronize_again (hsame : again.archive = application.archive)
    (heligible : application.archive.report.replicaMutationEligible = true)
    (h : store.synchronize ledgers digest application = .ok after) :
    after.synchronize ledgers digest again = .ok after := by
  rw [ReplicaStore.synchronize, check_bind_ok] at h
  obtain ⟨hauthoritative, h⟩ := h
  cases hidentity : store.identity with
  | none =>
    simp only [hidentity] at h
    cases h
  | some identity =>
    simp only [hidentity] at h
    obtain ⟨haccount, h⟩ := check_bind_ok.mp h
    obtain ⟨hself, h⟩ := check_bind_ok.mp h
    cases hfingerprint : identity.currentSourceFingerprint with
    | none =>
      simp only [hfingerprint] at h
      cases h
    | some previousFingerprint =>
      simp only [hfingerprint] at h
      obtain ⟨hlossless, h⟩ := check_bind_ok.mp h
      split at h
      · next hunchanged =>
        obtain rfl := Except.ok.inj h
        rw [ReplicaStore.synchronize, hsame, check_bind_ok]
        refine ⟨hauthoritative, ?_⟩
        simp only [hidentity, hfingerprint]
        refine check_bind_ok.mpr ⟨haccount, check_bind_ok.mpr ⟨hself,
          check_bind_ok.mpr ⟨hlossless, ?_⟩⟩⟩
        rw [if_pos hunchanged]
        rfl
      · obtain ⟨-, h⟩ := check_bind_ok.mp h
        obtain ⟨state, hstate, h⟩ := bind_ok.mp h
        obtain rfl := Except.ok.inj h
        have hidentical : identity.accountId = application.archive.report.accountId := by
          by_contra hne
          have hdiffers : (application.archive.report.accountId != identity.accountId) = true :=
            bne_iff_ne.mpr (Ne.symm hne)
          rw [requireAccount, if_pos hdiffers] at haccount
          cases haccount
        apply Settled.synchronize
        · rw [hsame]
          exact ⟨⟨_, rfl, hidentical, rfl, rfl⟩, reconcileArchive_coverage hstate⟩
        · rwa [hsame]

/-! One call -/

variable {reader : FollowReader} {disk later : Disk} {call : FollowCall} {follower : Follower}
  {loaded : LoadedHandoff} {prior : Option ReplicaFollowState} {before status : ReplicaStatus}
  {state : ReplicaFollowState} {result : ReplicaFollowOutcome × ReplicaStore}

theorem inspectArchive_eligible {reader : ArchiveReader} {files : ArchiveFiles}
    {inspected : RestorationReport × String × ArchiveSeal}
    (h : inspectArchive reader files = .ok inspected) :
    inspected.1.replicaMutationEligible = true := by
  rw [inspectArchive] at h
  obtain ⟨report, -, h⟩ := bind_ok.mp h
  obtain ⟨hreport, h⟩ := check_bind_ok.mp h
  obtain ⟨-, h⟩ := check_bind_ok.mp h
  obtain ⟨bytes, -, h⟩ := bind_ok.mp h
  obtain ⟨sealed, -, h⟩ := bind_ok.mp h
  obtain rfl := Except.ok.inj h
  rw [requireAuthoritativeHandoffReport, require_ok, Bool.and_eq_true] at hreport
  exact hreport.2

theorem openHandoff_eligible (h : openHandoff reader disk loaded = .ok archive) :
    archive.report.replicaMutationEligible = true := by
  rw [openHandoff] at h
  obtain ⟨-, h⟩ := check_bind_ok.mp h
  cases hfiles : disk.archiveAt loaded.value.archiveDirectory with
  | none =>
    rw [hfiles] at h
    cases h
  | some files =>
    rw [hfiles] at h
    obtain ⟨⟨report, reportSha256, sealed⟩, hinspected, h⟩ := bind_ok.mp h
    obtain ⟨-, h⟩ := check_bind_ok.mp h
    obtain rfl := Except.ok.inj h
    exact inspectArchive_eligible hinspected

theorem replicaStatus_identity (h : replicaStatus store = .ok status) :
    status.accountId = store.identity.map (·.accountId) := by
  obtain ⟨-, h⟩ := check_bind_ok.mp h
  obtain rfl := Except.ok.inj h
  rfl

/-- What has been applied is applied again without an effect, whenever that is. -/
theorem applyHandoff_again (heligible : archive.report.replicaMutationEligible = true)
    (hbefore : replicaStatus store = .ok before) (hafter : replicaStatus result.2 = .ok status)
    (haccount : status.accountId.isSome)
    (h : applyHandoff reader store (call.application archive) prior before = .ok result)
    (again : FollowCall) : ∃ outcome,
      applyHandoff reader result.2 (again.application archive) prior status =
        .ok (outcome, result.2) := by
  have hpresent : ¬ status.accountId.isNone = true := by
    rw [Option.isNone_iff_eq_none]
    rintro hnone
    rw [hnone] at haccount
    cases haccount
  rw [applyHandoff] at h
  by_cases hbootstrap : before.accountId.isNone = true
  · rw [if_pos hbootstrap] at h
    obtain ⟨after, hbootstrapped, h⟩ := bind_ok.mp h
    obtain rfl := Except.ok.inj h
    have hnone : store.identity = none := by
      rw [replicaStatus_identity hbefore, Option.isNone_iff_eq_none, Option.map_eq_none_iff]
        at hbootstrap
      exact hbootstrap
    have hsettled := bootstrap_settled hnone hbootstrapped
    rw [applyHandoff, if_neg hpresent]
    by_cases hprior : prior.isNone = true
    · refine ⟨.synchronized, ?_⟩
      rw [if_pos hprior]
      exact bind_ok.mpr ⟨true, hsettled.matching heligible, rfl⟩
    · refine ⟨.synchronized, ?_⟩
      rw [if_neg hprior]
      exact bind_ok.mpr ⟨_, Settled.synchronize hsettled heligible, rfl⟩
  · rw [if_neg hbootstrap] at h
    by_cases hprior : prior.isNone = true
    · rw [if_pos hprior] at h
      obtain ⟨matching, hmatching, h⟩ := bind_ok.mp h
      obtain ⟨hmatches, h⟩ := check_bind_ok.mp h
      obtain rfl := Except.ok.inj h
      refine ⟨.synchronized, ?_⟩
      rw [applyHandoff, if_neg hpresent, if_pos hprior]
      exact bind_ok.mpr ⟨matching, hmatching, check_bind_ok.mpr ⟨hmatches, rfl⟩⟩
    · rw [if_neg hprior] at h
      obtain ⟨after, hsynchronized, h⟩ := bind_ok.mp h
      obtain rfl := Except.ok.inj h
      refine ⟨.synchronized, ?_⟩
      have hsame : (again.application archive).archive = (call.application archive).archive := rfl
      rw [applyHandoff, if_neg hpresent, if_neg hprior]
      exact bind_ok.mpr ⟨_, synchronize_again hsame heligible hsynchronized, rfl⟩

theorem alreadyApplied_again (hid : status.replicaId = before.replicaId)
    (h : alreadyApplied loaded before prior = .ok false) :
    alreadyApplied loaded status prior = .ok false := by
  cases prior with
  | none => rfl
  | some state =>
    rw [alreadyApplied] at h ⊢
    obtain ⟨hsame, h⟩ := check_bind_ok.mp h
    obtain ⟨hforward, h⟩ := check_bind_ok.mp h
    by_cases hgeneration : loaded.value.generation = state.generation
    · rw [if_pos hgeneration] at h
      obtain ⟨-, h⟩ := check_bind_ok.mp h
      cases h
    · rw [if_neg hgeneration] at h
      refine check_bind_ok.mpr ⟨hid ▸ hsame, check_bind_ok.mpr ⟨hforward, ?_⟩⟩
      rw [if_neg hgeneration]
      exact h

theorem appliedState_ok (h : appliedState loaded archive before status = .ok state) :
    status.replicaId = before.replicaId ∧ status.accountId.isSome ∧
      appliedState loaded archive status status = .ok state := by
  rw [appliedState] at h
  cases hrevision : status.checkpointRevision with
  | none =>
    simp only [hrevision] at h
    cases h
  | some revision =>
    simp only [hrevision] at h
    obtain ⟨hsame, h⟩ := check_bind_ok.mp h
    rw [require_ok, Bool.and_eq_true, Bool.and_eq_true, beq_iff_eq, beq_iff_eq, beq_iff_eq] at hsame
    refine ⟨hsame.1.1, by rw [hsame.2]; rfl, ?_⟩
    rw [appliedState]
    simp only [hrevision]
    refine check_bind_ok.mpr ⟨?_, h⟩
    rw [require_ok, Bool.and_eq_true, Bool.and_eq_true, beq_iff_eq, beq_iff_eq, beq_iff_eq]
    exact ⟨⟨rfl, hsame.1.2⟩, hsame.2⟩

/-- The checks of a call that has something to apply. -/
structure Applies (reader : FollowReader) (disk later : Disk) (call : FollowCall)
    (follower : Follower) (loaded : LoadedHandoff) (archive : ReplicaArchive)
    (before status : ReplicaStatus) (prior : Option ReplicaFollowState)
    (result : ReplicaFollowOutcome × ReplicaStore) (state : ReplicaFollowState) : Prop where
  loads : loadHandoff disk = .ok loaded
  opens : openHandoff reader disk loaded = .ok archive
  starts : replicaStatus follower.replica = .ok before
  notes : loadFollowState follower.followState = .ok prior
  advances : alreadyApplied loaded before prior = .ok false
  applies : applyHandoff reader follower.replica (call.application archive) prior before = .ok result
  ends : replicaStatus result.2 = .ok status
  keeps : checkSeal later loaded = .ok ()
  records : appliedState loaded archive before status = .ok state

theorem Applies.run (h : Applies reader disk later call follower loaded archive before status prior
    result state) : followReplicaOnce reader disk later call follower =
      ([{ follower with replica := result.2 }, { followState := some state, replica := result.2 }],
        .ok result.1) := by
  rw [followReplicaOnce, Durable.read_bind, h.loads, Durable.check_bind, h.opens,
    Durable.check_bind, h.starts, Durable.check_bind, h.notes, Durable.check_bind, h.advances,
    Durable.check_bind, if_neg Bool.false_ne_true, h.applies, Durable.check_bind,
    Durable.modify_bind, h.ends, Durable.check_bind, h.keeps, Durable.check_bind, h.records,
    Durable.check_bind, Durable.modify_bind]
  rfl

/-- A call that succeeds had nothing to do, or applied the archive. -/
theorem follow_ok {outcome : ReplicaFollowOutcome}
    (h : (followReplicaOnce reader disk later call follower).2 = .ok outcome) :
    (∀ again, followReplicaOnce reader disk later again follower = ([], .ok .alreadyApplied)) ∨
      ∃ loaded archive before status prior result state,
        Applies reader disk later call follower loaded archive before status prior result state := by
  rw [followReplicaOnce, Durable.read_bind, Durable.check_bind_ok] at h
  obtain ⟨loaded, hloads, h⟩ := h
  obtain ⟨archive, hopens, h⟩ := Durable.check_bind_ok.mp h
  obtain ⟨before, hstarts, h⟩ := Durable.check_bind_ok.mp h
  obtain ⟨prior, hnotes, h⟩ := Durable.check_bind_ok.mp h
  obtain ⟨applied, hadvances, h⟩ := Durable.check_bind_ok.mp h
  cases applied with
  | true =>
    refine .inl fun again => ?_
    rw [followReplicaOnce, Durable.read_bind, hloads, Durable.check_bind, hopens,
      Durable.check_bind, hstarts, Durable.check_bind, hnotes, Durable.check_bind, hadvances,
      Durable.check_bind, if_pos rfl]
    rfl
  | false =>
    rw [if_neg Bool.false_ne_true] at h
    obtain ⟨result, happlies, h⟩ := Durable.check_bind_ok.mp h
    rw [Durable.modify_bind] at h
    obtain ⟨status, hends, h⟩ := Durable.check_bind_ok.mp h
    obtain ⟨⟨⟩, hkeeps, h⟩ := Durable.check_bind_ok.mp h
    obtain ⟨state, hrecords, -⟩ := Durable.check_bind_ok.mp h
    exact .inr ⟨loaded, archive, before, status, prior, result, state, hloads, hopens, hstarts,
      hnotes, hadvances, happlies, hends, hkeeps, hrecords⟩

variable (reader) in
/-- A call that is interrupted between its two writes is made up for by the next one, which
succeeds and leaves the replica and the state file as the first would have left them. -/
theorem follow_recovers (follower : Follower) (disk later : Disk) (call again : FollowCall) :
    (∃ error, (followReplicaOnce reader disk later call follower).2 = .error error) ∨
      ∃ outcome,
        (followReplicaOnce reader disk later again
          ((followReplicaOnce reader disk later call).stopped 1 follower)).2 = .ok outcome ∧
        (followReplicaOnce reader disk later again).final
            ((followReplicaOnce reader disk later call).stopped 1 follower) =
          (followReplicaOnce reader disk later call).final follower := by
  cases houtcome : (followReplicaOnce reader disk later call follower).2 with
  | error error => exact .inl ⟨error, rfl⟩
  | ok outcome =>
    right
    rcases follow_ok houtcome with hnothing | ⟨loaded, archive, before, status, prior, result,
      state, happlies⟩
    · refine ⟨.alreadyApplied, ?_⟩
      simp [Durable.stopped, Durable.final, hnothing]
    · obtain ⟨hid, haccount, hrecords⟩ := appliedState_ok happlies.records
      obtain ⟨repeated, hagain⟩ := applyHandoff_again (openHandoff_eligible happlies.opens)
        happlies.starts happlies.ends haccount happlies.applies again
      have hrerun : Applies reader disk later again { follower with replica := result.2 } loaded
          archive status status prior (repeated, result.2) state :=
        ⟨happlies.loads, happlies.opens, happlies.ends, happlies.notes,
          alreadyApplied_again hid happlies.advances, hagain, happlies.ends, happlies.keeps,
          hrecords⟩
      have hstopped : (followReplicaOnce reader disk later call).stopped 1 follower =
          { follower with replica := result.2 } := by
        simp [Durable.stopped, happlies.run]
      rw [hstopped]
      refine ⟨repeated, ?_⟩
      simp [Durable.final, happlies.run, hrerun.run]

end GreenBubbles.Follow
