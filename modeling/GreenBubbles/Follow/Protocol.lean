import GreenBubbles.Follow.Recorded

/-! # Runs of the publication protocol

Quarantine and restoration leave the handoffs alone, and the history a record of them. With
this every run keeps the record, and a publication that cannot be recorded ends the run.
-/
namespace GreenBubbles.Follow

open Library Library.Runs ReplicaPublicationHistory

variable {reader : ArchiveReader} {disk : Disk}

/-! Quarantine and restoration -/

theorem Kept.archived {after : Disk} (h : Kept disk after) (archives : List (String × ArchiveFiles)) :
    Kept disk { after with archives } :=
  ⟨⟨h.1.increasing, h.1.unwritten, h.1.written⟩, h.2⟩

theorem Kept.write {after : Disk} (h : Kept disk after) {history : ReplicaPublicationHistory}
    (hlists : history.Lists disk.handoffs) (hwritable : checkWritable history = .ok ()) :
    Kept disk { after with history := some history } := by
  refine ⟨⟨h.1.increasing, fun hnone => (by cases hnone), fun stored hstored => ?_⟩, h.2⟩
  obtain rfl := Option.some.inj hstored
  exact ⟨hwritable, .inl (h.2 ▸ hlists)⟩

theorem rename_triple (source target : String) :
    Durable.Triple (Kept disk) (rename source target) (Kept disk) (fun _ => Kept disk)
      (fun _ => Kept disk) := by
  rw [rename]
  apply Durable.Triple.bind Durable.Triple.read
  intro read
  apply Durable.Triple.bind (Durable.Triple.check fun _ _ hs _ => hs.1)
  intro _
  exact Durable.Triple.modify (fun _ hs => hs.1.1.archived _) fun _ hs => hs.1.1.archived _

/-- The history that is being changed lists the handoffs of the disk. -/
def Tallied (disk : Disk) (tally : QuarantineTally) (after : Disk) : Prop :=
  Kept disk after ∧ tally.history.Lists disk.handoffs

theorem markQuarantined_triple (tally : QuarantineTally) (path quarantinePath : String) :
    Durable.Triple (Tallied disk tally) (markQuarantined tally path quarantinePath) (Kept disk)
      (Tallied disk) (fun _ => Kept disk) := by
  rw [markQuarantined]
  apply Durable.Triple.bind (Q := fun _ s =>
    Kept disk s ∧ (tally.history.relocate path (some quarantinePath)).Lists disk.handoffs)
  · apply writePublicationHistory_triple
    · exact fun _ hs hwritable => hs.1.write (hs.2.relocate _ _) hwritable
    · exact fun _ hs hwritable => ⟨hs.1.write (hs.2.relocate _ _) hwritable, hs.2.relocate _ _⟩
    · exact fun _ _ hs _ => hs.1
  · intro _
    exact Durable.Triple.pure fun _ hs => hs

theorem inspectGroup_triple (protectedStart : ℕ) (protectedPaths : List String)
    (quarantineRoot : String) (tally : QuarantineTally) (group : String × List Member) :
    Durable.Triple (Tallied disk tally)
      (inspectGroup reader protectedStart protectedPaths quarantineRoot tally group) (Kept disk)
      (Tallied disk) (fun _ => Kept disk) := by
  rw [inspectGroup]
  split
  · exact Durable.Triple.pure fun _ hs => hs
  · split
    · exact Durable.Triple.pure fun _ hs => hs
    · apply Durable.Triple.bind Durable.Triple.read
      intro read
      apply Durable.Triple.bind (Durable.Triple.check fun _ _ hs _ => hs.1.1)
      intro verdict
      cases verdict with
      | alreadyQuarantined => exact Durable.Triple.pure fun _ hs => hs.1.1
      | moved quarantinePath =>
        exact (markQuarantined_triple tally group.1 quarantinePath).consequence
          (fun _ hs => hs.1.1) (fun _ hs => hs) (fun _ _ hs => hs) fun _ _ hs => hs
      | eligible quarantinePath => exact Durable.Triple.pure fun _ hs => hs.1.1

theorem moveGroup_triple (tally : QuarantineTally) (retired : (String × List Member) × String) :
    Durable.Triple (Tallied disk tally) (moveGroup tally retired) (Kept disk) (Tallied disk)
      (fun _ => Kept disk) := by
  by_cases hlists : tally.history.Lists disk.handoffs
  · rw [moveGroup]
    apply Durable.Triple.bind ((rename_triple _ _).consequence (fun _ hs => hs.1)
      (fun _ hs => hs) (fun _ _ hs => hs) fun _ _ hs => hs)
    intro _
    apply Durable.Triple.bind Durable.Triple.read
    intro read
    apply Durable.Triple.bind (Durable.Triple.check fun _ _ hs _ => hs.1)
    intro _
    exact (markQuarantined_triple tally _ _).consequence (fun _ hs => ⟨hs.1.1, hlists⟩)
      (fun _ hs => hs) (fun _ _ hs => hs) fun _ _ hs => hs
  · exact fun s hs => absurd hs.2 hlists

/-- What an operation on the archives begins with. -/
theorem loadOrReconcile_kept (hconsistent : Consistent disk) {current : LoadedHandoff}
    (hcurrent : Represents disk.handoffs (some current)) :
    Durable.Triple (· = disk) (loadOrReconcilePublicationHistory (some current)) (Kept disk)
      (fun history s => Kept disk s ∧ history.Lists disk.handoffs) (fun _ => Kept disk) :=
  (loadOrReconcile_triple hconsistent hcurrent).consequence (fun _ hs => hs)
    (fun _ hs => hs.elim fun _ hs => hs.kept hconsistent) (fun _ _ hs => ⟨hs.kept hconsistent, hs.lists⟩)
    fun _ _ hs => (by rw [hs]; exact ⟨hconsistent, rfl⟩)

theorem quarantine_triple (hconsistent : Consistent disk) (quarantineRoot : String)
    (retainPublications : ℕ) :
    Durable.Triple (· = disk)
      (quarantineRetiredReplicaArchives reader quarantineRoot retainPublications) (Kept disk)
      (fun _ => Kept disk) (fun _ => Kept disk) := by
  have hstart : Kept disk disk := ⟨hconsistent, rfl⟩
  rw [quarantineRetiredReplicaArchives]
  apply Durable.Triple.bind (Durable.Triple.check fun _ _ hs _ => hs ▸ hstart)
  intro _
  apply Durable.Triple.bind Durable.Triple.read
  intro read
  apply Durable.Triple.bind (Durable.Triple.check fun _ _ hs _ => hs.1.1 ▸ hstart)
  intro current
  by_cases hload : loadHandoff disk = .ok current
  · apply Durable.Triple.bind ((loadOrReconcile_kept hconsistent
      (loadHandoff_represents hload)).consequence (fun _ hs => hs.1.1.1) (fun _ hs => hs)
      (fun _ _ hs => hs) fun _ _ hs => hs)
    intro history
    apply Durable.Triple.bind (Durable.Triple.check fun _ _ hs _ => hs.1)
    intro groups
    apply Durable.Triple.bind (Durable.Triple.check fun _ _ hs _ => hs.1.1)
    intro _
    apply Durable.Triple.bind ((Durable.Triple.foldlM (L := Tallied disk) groups
      (fun tally group _ => inspectGroup_triple _ _ _ tally group) (.begin history)).consequence
      (fun _ hs => hs.1.1) (fun _ hs => hs) (fun _ _ hs => hs) fun _ _ hs => hs)
    intro tally
    apply Durable.Triple.bind (Durable.Triple.foldlM (L := Tallied disk) tally.eligible
      (fun tally retired _ => moveGroup_triple tally retired) tally)
    intro tally
    exact (Durable.Triple.check fun _ _ hs _ => hs.1).consequence (fun _ hs => hs) (fun _ hs => hs)
      (fun _ _ hs => hs.1.1) fun _ _ hs => hs
  · rintro s ⟨⟨⟨rfl, -⟩, rfl⟩, hsome⟩
    exact absurd hsome hload

theorem moveBack_triple (path : String) (members : List Member) (recorded : String) :
    Durable.Triple (Kept disk) (moveBack reader path members recorded) (Kept disk)
      (fun _ => Kept disk) (fun _ => Kept disk) := by
  rw [moveBack]
  apply Durable.Triple.bind Durable.Triple.read
  intro read
  split
  · apply Durable.Triple.bind (Durable.Triple.check fun _ _ hs _ => hs.1)
    intro _
    apply Durable.Triple.bind ((rename_triple _ _).consequence (fun _ hs => hs.1.1)
      (fun _ hs => hs) (fun _ _ hs => hs) fun _ _ hs => hs)
    intro _
    apply Durable.Triple.bind Durable.Triple.read
    intro moved
    split
    · exact Durable.Triple.pure fun _ hs => hs.1
    · -- the archive is not what was published: it goes back to the quarantine
      apply Durable.Triple.bind ((rename_triple _ _).consequence (fun _ hs => hs.1)
        (fun _ hs => hs) (fun _ _ hs => hs) fun _ _ hs => hs)
      intro _
      exact Durable.Triple.fail fun _ hs => hs
  · apply Durable.Triple.bind (Durable.Triple.check fun _ _ hs _ => hs.1)
    intro _
    exact Durable.Triple.pure fun _ hs => hs.1.1
  · exact Durable.Triple.fail fun _ hs => hs.1
  · exact Durable.Triple.fail fun _ hs => hs.1

theorem restore_triple (hconsistent : Consistent disk) (quarantineRoot : String)
    (generation : ℕ) :
    Durable.Triple (· = disk) (restoreQuarantinedReplicaArchive reader quarantineRoot generation)
      (Kept disk) (fun _ => Kept disk) (fun _ => Kept disk) := by
  have hstart : Kept disk disk := ⟨hconsistent, rfl⟩
  rw [restoreQuarantinedReplicaArchive]
  apply Durable.Triple.bind (Durable.Triple.check fun _ _ hs _ => hs ▸ hstart)
  intro _
  apply Durable.Triple.bind Durable.Triple.read
  intro read
  apply Durable.Triple.bind (Durable.Triple.check fun _ _ hs _ => hs.1.1 ▸ hstart)
  intro current
  by_cases hload : loadHandoff disk = .ok current
  · apply Durable.Triple.bind ((loadOrReconcile_kept hconsistent
      (loadHandoff_represents hload)).consequence (fun _ hs => hs.1.1.1) (fun _ hs => hs)
      (fun _ _ hs => hs) fun _ _ hs => hs)
    intro history
    by_cases hlists : history.Lists disk.handoffs
    · apply Durable.Triple.bind (Durable.Triple.check fun _ _ hs _ => hs.1)
      rintro ⟨path, members, recorded⟩
      apply Durable.Triple.bind ((moveBack_triple path members recorded).consequence
        (fun _ hs => hs.1.1) (fun _ hs => hs) (fun _ _ hs => hs) fun _ _ hs => hs)
      intro restored
      apply Durable.Triple.bind (Q := fun _ => Kept disk)
      · apply writePublicationHistory_triple
        · exact fun _ hs hwritable => hs.write (hlists.relocate _ _) hwritable
        · exact fun _ hs hwritable => hs.write (hlists.relocate _ _) hwritable
        · exact fun _ _ hs _ => hs
      · intro _
        exact Durable.Triple.pure fun _ hs => hs
    · exact fun s hs => absurd hs.2 hlists
  · rintro s ⟨⟨⟨rfl, -⟩, rfl⟩, hsome⟩
    exact absurd hsome hload

/-! Publication -/

theorem publish_triple (hconsistent : Consistent disk) (archive : String) (generation : ℕ)
    (clock : Option ℕ) :
    Durable.Triple (· = disk) (publishReplicaHandoff reader archive generation clock)
      (Advanced disk)
      (fun receipt after => receipt = publicationReceipt generation ∧ Completed disk after)
      (fun error after => Kept disk after ∨ Halfway disk error after) := by
  have hstart : Kept disk disk := ⟨hconsistent, rfl⟩
  rw [publishReplicaHandoff]
  apply Durable.Triple.bind (Durable.Triple.check fun _ _ hs _ => .inl (hs ▸ hstart))
  intro _
  apply Durable.Triple.bind Durable.Triple.read
  intro read
  apply Durable.Triple.bind (Durable.Triple.check fun _ _ hs _ => .inl (hs.1.1 ▸ hstart))
  intro _
  exact (publishLocked_triple hconsistent archive generation clock).consequence
    (fun _ hs => hs.1.1.1) (fun _ hs => hs) (fun _ _ hs => hs) fun _ _ hs => hs

theorem publishNext_triple (hconsistent : Consistent disk) (archive : String)
    (predecessor : PublicationPredecessor) (clock : Option ℕ) :
    Durable.Triple (· = disk) (publishReplicaHandoffNextIfCurrent reader archive predecessor clock)
      (Advanced disk) (fun _ => Completed disk)
      (fun error after => Kept disk after ∨ Halfway disk error after) := by
  have hstart : Kept disk disk := ⟨hconsistent, rfl⟩
  rw [publishReplicaHandoffNextIfCurrent]
  apply Durable.Triple.bind Durable.Triple.read
  intro read
  apply Durable.Triple.bind (Durable.Triple.check fun _ _ hs _ => .inl (hs.1 ▸ hstart))
  intro _
  apply Durable.Triple.bind (Durable.Triple.check fun _ _ hs _ => .inl (hs.1.1 ▸ hstart))
  intro generation
  exact (publishLocked_triple hconsistent archive generation clock).consequence
    (fun _ hs => hs.1.1.1) (fun _ hs => hs) (fun _ _ hs => hs.2) fun _ _ hs => hs

theorem refused_advanced {error : RestoreError} {after : Disk}
    (h : Kept disk after ∨ Halfway disk error after) : Advanced disk after := by
  rcases h with hkept | hhalfway
  · exact hkept.advanced
  · exact hhalfway.advanced

theorem run_triple (hconsistent : Consistent disk) (command : ControlCommand) :
    Durable.Triple (· = disk) (command.run reader) (Advanced disk) (fun _ => Advanced disk)
      (fun _ => Advanced disk) := by
  cases command with
  | publish archive generation clock =>
    apply Durable.Triple.bind ((publish_triple hconsistent archive generation clock).consequence
      (fun _ hs => hs) (fun _ hs => hs) (fun _ _ hs => hs.2.advanced)
      fun _ _ hs => refused_advanced hs)
    intro _
    exact Durable.Triple.pure fun _ hs => hs
  | publishNext archive predecessor clock =>
    apply Durable.Triple.bind ((publishNext_triple hconsistent archive predecessor
      clock).consequence (fun _ hs => hs) (fun _ hs => hs) (fun _ _ hs => hs.advanced)
      fun _ _ hs => refused_advanced hs)
    intro _
    exact Durable.Triple.pure fun _ hs => hs
  | quarantine quarantineRoot retainPublications =>
    apply Durable.Triple.bind ((quarantine_triple hconsistent quarantineRoot
      retainPublications).consequence (fun _ hs => hs) (fun _ hs => hs.advanced)
      (fun _ _ hs => hs.advanced) fun _ _ hs => hs.advanced)
    intro _
    exact Durable.Triple.pure fun _ hs => hs
  | restore quarantineRoot generation =>
    apply Durable.Triple.bind ((restore_triple hconsistent quarantineRoot
      generation).consequence (fun _ hs => hs) (fun _ hs => hs.advanced)
      (fun _ _ hs => hs.advanced) fun _ _ hs => hs.advanced)
    intro _
    exact Durable.Triple.pure fun _ hs => hs

/-! Runs -/

theorem initial_consistent (archives : List (String × ArchiveFiles)) :
    Consistent (.initial archives) :=
  ⟨List.Pairwise.nil, fun _ => rfl, fun _ hstored => by cases hstored⟩

theorem controlStep_advanced (hconsistent : Consistent disk) (event : ControlEvent) :
    Advanced disk (controlStep reader disk event) := by
  have hstart : Kept disk disk := ⟨hconsistent, rfl⟩
  cases event with
  | completed command => exact (run_triple hconsistent command).final rfl hstart.advanced
  | interrupted command writes =>
    exact (run_triple hconsistent command).stopped rfl hstart.advanced writes
  | archivesChanged archives => exact (hstart.archived archives).advanced

theorem controlStep_consistent (disk : Disk) (event : ControlEvent) (hconsistent : Consistent disk) :
    Consistent (controlStep reader disk event) :=
  (controlStep_advanced hconsistent event).1

theorem reached_consistent (archives : List (String × ArchiveFiles)) (events : List ControlEvent) :
    Consistent (execute (controlStep reader) (.initial archives) events) :=
  execute_invariant _ controlStep_consistent _ events (initial_consistent archives)

theorem handoffs_extended (hconsistent : Consistent disk) (events : List ControlEvent) :
    disk.handoffs <+: (execute (controlStep reader) disk events).handoffs := by
  induction events generalizing disk with
  | nil => exact List.prefix_refl _
  | cons event events ih =>
    have hstep : Advanced disk (controlStep reader disk event) :=
      controlStep_advanced hconsistent event
    obtain ⟨hnext, hadvanced⟩ := hstep
    rw [execute_cons]
    refine List.IsPrefix.trans ?_ (ih hnext)
    rcases hadvanced with hsame | ⟨handoff, hmore⟩
    · exact ⟨[], by rw [List.append_nil, hsame]⟩
    · exact ⟨[handoff], hmore.symm⟩

variable (reader) in
/-- Under every order of operations, interruptions included, what has been published is never
taken back, generations increase, and the history is a valid record of all publications or of
all but the current one. -/
theorem publications_recorded (archives : List (String × ArchiveFiles))
    (before after : List ControlEvent) :
    let earlier := execute (controlStep reader) (.initial archives) before
    let disk := execute (controlStep reader) earlier after
    earlier.handoffs <+: disk.handoffs ∧
      (disk.handoffs.Pairwise fun earlier later => earlier.generation < later.generation) ∧
      (disk.history = none → disk.handoffs = []) ∧
      ∀ history, disk.history = some history →
        validatePublicationHistory history = .ok () ∧
        (∀ entry ∈ history.entries, entry.handoffSha256 = entry.handoff.sha256) ∧
        (history.handoffs = disk.handoffs ∨
          ∃ current, disk.handoffs = history.handoffs ++ [current]) := by
  intro earlier disk
  have hearlier : Consistent earlier := reached_consistent archives before
  have hdisk : Consistent disk := execute_invariant _ controlStep_consistent _ after hearlier
  refine ⟨handoffs_extended hearlier after, hdisk.increasing, hdisk.unwritten, ?_⟩
  intro history hhistory
  obtain ⟨hwritable, hlists⟩ := hdisk.written history hhistory
  refine ⟨checkWritable_valid hwritable, ?_⟩
  rcases hlists with hwhole | ⟨front, current, hhandoffs, hfront⟩
  · exact ⟨hwhole.digests, .inl hwhole.listed⟩
  · exact ⟨hfront.digests, .inr ⟨current, by rw [hfront.listed, hhandoffs]⟩⟩

end GreenBubbles.Follow
