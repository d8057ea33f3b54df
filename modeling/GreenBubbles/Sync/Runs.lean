import GreenBubbles.Sync.Store

/-! # Replicas in the long run

A replica always holds what a bootstrap of the archive it names would leave, whatever
it has been through, as long as the archives list the artifacts their messages refer
to. Its log says what became of every record.
-/
namespace GreenBubbles.Sync

open Std Archive Library Upserts Replay

/-- An archive that can be bootstrapped and lists what its messages refer to. -/
structure Complete (reader : LedgerReader) (archive : ReplicaArchive) : Prop where
  imports : ∃ tables, importArchive reader archive = .ok tables
  listed : ∀ identifier row, Says (reader.rowOf .message) archive.messages identifier row →
    ∀ link ∈ reader.links row, Names (reader.rowOf .artifact) archive.artifacts link.artifactId

variable {reader : LedgerReader} {archive previous : ReplicaArchive} {tables : ReplicaTables}
  {archiveRevisionDigest : RestorationReport → RestorationCoverage → String}
  {store after : ReplicaStore} {application : Application}

theorem Complete.linksKept (h : Complete reader previous) (hholds : Holds reader previous tables) :
    LinksKept reader archive tables := by
  intro identifier row _ hrow link hlink _
  rw [hholds.isSome_view]
  exact h.listed identifier row ((hholds.records _ _ _).mp hrow) link hlink

/-- The replica holds an archive, which its checkpoint names. -/
structure Serving (reader : LedgerReader) (archive : ReplicaArchive) (store : ReplicaStore) :
    Prop where
  complete : Complete reader archive
  imported : importArchive reader archive = .ok store.tables
  checkpoint : store.sourceCheckpoint = some archive.report.sourceFingerprint
  identity : ∃ identity, store.identity = some identity ∧
    identity.accountId = archive.report.accountId ∧
    identity.currentSourceFingerprint = some archive.report.sourceFingerprint ∧
    identity.selfParticipantId = archive.report.selfParticipantId
  numbered : Numbered store.changeLog

theorem Serving.holds (h : Serving reader archive store) : Holds reader archive store.tables :=
  (importArchive_holds h.imported).1

theorem bootstrap_of_checkpoint {fingerprint : String}
    (hcheckpoint : store.sourceCheckpoint = some fingerprint)
    (h : store.bootstrap reader application = .ok after) : after = store := by
  obtain ⟨-, h⟩ := check_bind_ok.mp h
  obtain ⟨-, h⟩ := check_bind_ok.mp h
  simp only [hcheckpoint, Option.isSome_some, if_true] at h
  split at h
  · split at h
    · cases h
    · exact (Except.ok.inj h).symm
  · cases h

theorem bootstrap_new {replicaId : String}
    (h : (ReplicaStore.new replicaId).bootstrap reader application = .ok after)
    (hcomplete : Complete reader application.archive) :
    Serving reader application.archive after := by
  obtain ⟨-, h⟩ := check_bind_ok.mp h
  obtain ⟨-, h⟩ := check_bind_ok.mp h
  have himport : (ReplicaStore.new replicaId).importArchiveTransactionally reader application =
      .ok after := (check_bind_ok.mp h).2
  obtain ⟨tables, himported, h⟩ := bind_ok.mp himport
  obtain rfl := Except.ok.inj h
  exact ⟨hcomplete, himported, rfl, ⟨_, rfl, rfl, rfl, rfl⟩, rfl⟩

theorem synchronize_new {replicaId : String}
    (h : (ReplicaStore.new replicaId).synchronize reader archiveRevisionDigest application =
      .ok after) : False := by
  obtain ⟨-, h⟩ := check_bind_ok.mp h
  cases h

/-- A synchronization leaves the replica alone or applies the archive. -/
theorem Serving.synchronize (hserving : Serving reader archive store)
    (hcomplete : Complete reader application.archive)
    (h : store.synchronize reader archiveRevisionDigest application = .ok after) :
    after = store ∨ (Serving reader application.archive after ∧
      after.replicaId = store.replicaId ∧
      after.identity.map (·.accountId) = store.identity.map (·.accountId) ∧
      ∃ changes, after.changeLog = store.changeLog ++ changes ∧
        Reports store.tables after.tables changes) := by
  obtain ⟨identity, hidentity, haccount, hfingerprint, -⟩ := hserving.identity
  rw [ReplicaStore.synchronize, check_bind_ok] at h
  obtain ⟨-, h⟩ := h
  simp only [hidentity, hfingerprint] at h
  obtain ⟨hsame, h⟩ := check_bind_ok.mp h
  obtain ⟨-, h⟩ := check_bind_ok.mp h
  obtain ⟨-, h⟩ := check_bind_ok.mp h
  split at h
  · exact .inl (Except.ok.inj h).symm
  · obtain ⟨-, h⟩ := check_bind_ok.mp h
    obtain ⟨state, hstate, h⟩ := bind_ok.mp h
    obtain rfl := Except.ok.inj h
    obtain ⟨fresh, himport⟩ := hcomplete.imports
    have hholds := hserving.holds
    have hclosed := (importArchive_holds himport).2
    have htables : state.tables = fresh :=
      (hholds.reconciled_eq_iff himport hstate).mpr (hserving.complete.linksKept hholds)
    have haccounts : identity.accountId = application.archive.report.accountId := by
      by_contra hne
      have hdiffers : (application.archive.report.accountId != identity.accountId) = true :=
        bne_iff_ne.mpr (Ne.symm hne)
      rw [requireAccount, if_pos hdiffers] at hsame
      cases hsame
    refine .inr ⟨⟨hcomplete, htables ▸ himport, rfl, ⟨_, rfl, haccounts, rfl, rfl⟩,
      reconcileArchive_numbered hholds.consistent hserving.numbered hstate⟩, rfl, ?_,
      hholds.reports hclosed hstate⟩
    rw [hidentity]
    rfl

/-- The replica is new, or serves one of the archives. -/
def Reached (reader : LedgerReader) (replicaId : String) (archives : List ReplicaArchive)
    (store : ReplicaStore) : Prop :=
  store = .new replicaId ∨ ∃ archive ∈ archives, Serving reader archive store

theorem Reached.step {replicaId : String} {archives : List ReplicaArchive}
    (h : Reached reader replicaId archives store) {command : ReplicaCommand}
    (hcomplete : Complete reader command.archive) (hlisted : command.archive ∈ archives) :
    Reached reader replicaId archives (command.run reader archiveRevisionDigest store) := by
  rw [ReplicaCommand.run]
  split
  · next after hafter =>
    cases command with
    | bootstrap application =>
      rcases h with rfl | ⟨archive, harchive, hserving⟩
      · exact .inr ⟨_, hlisted, bootstrap_new hafter hcomplete⟩
      · obtain rfl := bootstrap_of_checkpoint hserving.checkpoint hafter
        exact .inr ⟨archive, harchive, hserving⟩
    | synchronize application =>
      rcases h with rfl | ⟨archive, harchive, hserving⟩
      · have hfails : (ReplicaStore.new replicaId).synchronize reader archiveRevisionDigest application =
            .ok after := hafter
        exact (synchronize_new hfails).elim
      · rcases hserving.synchronize hcomplete hafter with rfl | ⟨hafter, -⟩
        · exact .inr ⟨archive, harchive, hserving⟩
        · exact .inr ⟨_, hlisted, hafter⟩
  · exact h

variable (archiveRevisionDigest) in
theorem Reached.run {replicaId : String} {archives : List ReplicaArchive}
    (commands : List ReplicaCommand) (h : Reached reader replicaId archives store)
    (hcomplete : ∀ command ∈ commands, Complete reader command.archive)
    (hlisted : ∀ command ∈ commands, command.archive ∈ archives) :
    Reached reader replicaId archives
      (commands.foldl (ReplicaCommand.run reader archiveRevisionDigest) store) := by
  induction commands generalizing store with
  | nil => exact h
  | cons command commands ih =>
    exact ih (h.step (hcomplete _ List.mem_cons_self) (hlisted _ List.mem_cons_self))
      (fun c hc => hcomplete c (.tail _ hc)) (fun c hc => hlisted c (.tail _ hc))

variable (archiveRevisionDigest) in
theorem reached_runAll (replicaId : String) (commands : List ReplicaCommand)
    (hcomplete : ∀ command ∈ commands, Complete reader command.archive) :
    Reached reader replicaId (commands.map ReplicaCommand.archive)
      (ReplicaCommand.runAll reader archiveRevisionDigest replicaId commands) := by
  have hnew : Reached reader replicaId (commands.map ReplicaCommand.archive) (.new replicaId) :=
    .inl rfl
  exact hnew.run archiveRevisionDigest commands hcomplete fun command hcommand =>
    List.mem_map_of_mem hcommand

def sampleBootstrap : ReplicaCommand := .bootstrap ⟨sampleArchive "first" [], .ok (), 1, 2⟩

def sampleSynchronize : ReplicaCommand := .synchronize ⟨sampleArchive "second" [sampleText], .ok (), 3, 4⟩

theorem sampleArchive_complete (fingerprint : String) :
    Complete sampleReader (sampleArchive fingerprint []) ∧
      Complete sampleReader (sampleArchive fingerprint [sampleText]) :=
  ⟨⟨⟨_, rfl⟩, fun _ _ ⟨_, hmem, _⟩ => by cases hmem⟩,
    ⟨⟨_, rfl⟩, fun _ _ ⟨_, hmem, _⟩ => by cases hmem⟩⟩

theorem sampleCommands_complete : ∀ command ∈ [sampleBootstrap, sampleSynchronize],
    Complete sampleReader command.archive := by
  intro command hcommand
  rcases List.mem_pair.mp hcommand with rfl | rfl
  · exact (sampleArchive_complete "first").1
  · exact (sampleArchive_complete "second").2

/-- The replica of the samples. -/
def sampleStore (commands : List ReplicaCommand) : ReplicaStore :=
  ReplicaCommand.runAll sampleReader (fun report _ => report.sourceFingerprint)
    "0123456789abcdef0123456789abcdef" commands

/-- What has happened since, as the log tells it. -/
structure Since (before after : ReplicaStore) (changes : List ReplicaChange) : Prop where
  replicaId : after.replicaId = before.replicaId
  account : after.identity.map (·.accountId) = before.identity.map (·.accountId)
  changeLog : after.changeLog = before.changeLog ++ changes
  replayed : replay ReplicaChange.key ReplicaChange.effect changes before.tables.digests =
    after.tables.digests

theorem Since.refl (store : ReplicaStore) : Since store store [] :=
  ⟨rfl, rfl, (List.append_nil _).symm, rfl⟩

theorem Since.trans {before middle after : ReplicaStore} {changes later : List ReplicaChange}
    (h : Since before middle changes) (h' : Since middle after later) :
    Since before after (changes ++ later) := by
  refine ⟨h'.replicaId.trans h.replicaId, h'.account.trans h.account, ?_, ?_⟩
  · rw [h'.changeLog, h.changeLog, List.append_assoc]
  · rw [← h'.replayed, ← h.replayed, replay, replay, replay, List.foldl_append]

variable (archiveRevisionDigest) in
theorem Serving.step (hserving : Serving reader archive store) {command : ReplicaCommand}
    (hcomplete : Complete reader command.archive) :
    (∃ archive, Serving reader archive (command.run reader archiveRevisionDigest store)) ∧
      ∃ changes, Since store (command.run reader archiveRevisionDigest store) changes := by
  rw [ReplicaCommand.run]
  split
  · next after hafter =>
    cases command with
    | bootstrap application =>
      obtain rfl := bootstrap_of_checkpoint hserving.checkpoint hafter
      exact ⟨⟨archive, hserving⟩, [], .refl _⟩
    | synchronize application =>
      rcases hserving.synchronize hcomplete hafter with
        rfl | ⟨hafter, hreplica, haccount, changes, hlog, hreports⟩
      · exact ⟨⟨archive, hserving⟩, [], .refl _⟩
      · exact ⟨⟨_, hafter⟩, changes, hreplica, haccount, hlog, hreports.replay⟩
  · exact ⟨⟨archive, hserving⟩, [], .refl _⟩

variable (archiveRevisionDigest) in
theorem Serving.run (commands : List ReplicaCommand) (h : Serving reader archive store)
    (hcomplete : ∀ command ∈ commands, Complete reader command.archive) :
    (∃ archive, Serving reader archive
      (commands.foldl (ReplicaCommand.run reader archiveRevisionDigest) store)) ∧
        ∃ changes, Since store
          (commands.foldl (ReplicaCommand.run reader archiveRevisionDigest) store) changes := by
  induction commands generalizing store archive with
  | nil => exact ⟨⟨archive, h⟩, [], .refl _⟩
  | cons command commands ih =>
    obtain ⟨⟨next, hnext⟩, changes, hchanges⟩ := h.step archiveRevisionDigest
      (hcomplete _ List.mem_cons_self)
    obtain ⟨hserving, later, hlater⟩ := ih hnext (fun c hc => hcomplete c (.tail _ hc))
    exact ⟨hserving, changes ++ later, hchanges.trans hlater⟩

end GreenBubbles.Sync
