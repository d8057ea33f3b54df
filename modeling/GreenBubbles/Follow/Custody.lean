import GreenBubbles.Follow.Protocol

/-! # Custody of the archives

The operations move archives and do nothing else to them: none is lost, changed or put in
the place of another. A quarantine leaves the archives of the latest publications where
they are.
-/
namespace GreenBubbles.Follow

open Library Library.Runs

variable {reader : ArchiveReader} {disk : Disk}

/-! Moves -/

def moved (source target : String) (archives : List (String × ArchiveFiles)) :
    List (String × ArchiveFiles) :=
  archives.map fun entry => if entry.1 = source then (target, entry.2) else entry

/-- A move to a place that is free. -/
def Movable (G : List (String × ArchiveFiles) → Prop) (source target : String) : Prop :=
  ∀ archives, G archives → (archives.lookup source).isSome → archives.lookup target = none →
    G (moved source target archives)

section Moving

variable {G : List (String × ArchiveFiles) → Prop}

/-- The archives have a property. -/
def Of (G : List (String × ArchiveFiles) → Prop) (s : Disk) : Prop := G s.archives

theorem rename_of {source target : String} (h : Movable G source target) :
    Durable.Triple (Of G) (rename source target) (Of G) (fun _ => Of G) (fun _ => Of G) := by
  have hmoved : ∀ s, Of G s → (if (s.archiveAt source).isSome && (s.archiveAt target).isNone
      then (.ok () : Except RestoreError Unit)
      else .error (.io "Directory not empty (os error 66)")) = .ok () →
      Of G { s with archives := moved source target s.archives } := by
    intro s hs hchecked
    split at hchecked
    · next hfree =>
      rw [Bool.and_eq_true, Option.isNone_iff_eq_none] at hfree
      exact h s.archives hs hfree.1 hfree.2
    · cases hchecked
  rw [rename]
  apply Durable.Triple.bind Durable.Triple.read
  intro read
  apply Durable.Triple.bind (Durable.Triple.check fun _ _ hs _ => hs.1)
  intro _
  apply Durable.Triple.modify
  · rintro s ⟨⟨hs, rfl⟩, hchecked⟩
    exact hmoved read hs hchecked
  · rintro s ⟨⟨hs, rfl⟩, hchecked⟩
    exact hmoved read hs hchecked

theorem write_of (history : ReplicaPublicationHistory) :
    Durable.Triple (Of G) (writePublicationHistory history) (Of G) (fun _ => Of G)
      (fun _ => Of G) :=
  writePublicationHistory_triple (fun _ hs _ => hs) (fun _ hs _ => hs) fun _ _ hs _ => hs

theorem loadOrReconcile_of (current : Option LoadedHandoff) :
    Durable.Triple (Of G) (loadOrReconcilePublicationHistory current) (Of G) (fun _ => Of G)
      (fun _ => Of G) := by
  rw [loadOrReconcilePublicationHistory]
  apply Durable.Triple.bind Durable.Triple.read
  intro read
  apply Durable.Triple.bind (Durable.Triple.check fun _ _ hs _ => hs.1)
  intro outcome
  apply Durable.Triple.bind (Q := fun _ => Of G)
  · rw [writeChanged]
    split
    · exact (write_of outcome.1).consequence (fun _ hs => hs.1.1) (fun _ hs => hs)
        (fun _ _ hs => hs) fun _ _ hs => hs
    · exact Durable.Triple.pure fun _ hs => hs.1.1
  · intro _
    exact Durable.Triple.pure fun _ hs => hs

theorem publishLocked_of (archive : String) (generation : ℕ) (clock : Option ℕ) :
    Durable.Triple (Of G) (publishReplicaHandoffLocked reader archive generation clock) (Of G)
      (fun _ => Of G) (fun _ => Of G) := by
  rw [publishReplicaHandoffLocked]
  apply Durable.Triple.bind Durable.Triple.read
  intro read
  apply Durable.Triple.bind (Durable.Triple.check fun _ _ hs _ => hs.1)
  intro prior
  apply Durable.Triple.bind ((loadOrReconcile_of prior).consequence (fun _ hs => hs.1.1)
    (fun _ hs => hs) (fun _ _ hs => hs) fun _ _ hs => hs)
  intro history
  apply Durable.Triple.bind (Durable.Triple.check fun _ _ hs _ => hs)
  intro handoff
  apply Durable.Triple.bind (Q := fun _ => Of G)
  · exact Durable.Triple.modify (fun _ hs => hs.1) fun _ hs => hs.1
  · intro _
    apply Durable.Triple.bind (write_of _)
    intro _
    exact Durable.Triple.pure fun _ hs => hs

theorem markQuarantined_of (tally : QuarantineTally) (path quarantinePath : String) :
    Durable.Triple (Of G) (markQuarantined tally path quarantinePath) (Of G)
      (fun after s => Of G s ∧ after.eligible = tally.eligible) (fun _ => Of G) := by
  rw [markQuarantined]
  apply Durable.Triple.bind (write_of _)
  intro _
  exact Durable.Triple.pure fun _ hs => ⟨hs, rfl⟩

/-- What is to be moved does not belong to a protected publication. -/
def Unprotected (protectedPaths : List String) (tally : QuarantineTally) : Prop :=
  ∀ retired ∈ tally.eligible, retired.1.1 ∉ protectedPaths

theorem inspectGroup_of (protectedStart : ℕ) (protectedPaths : List String)
    (quarantineRoot : String) (tally : QuarantineTally) (group : String × List Member) :
    Durable.Triple (fun s => Of G s ∧ Unprotected protectedPaths tally)
      (inspectGroup reader protectedStart protectedPaths quarantineRoot tally group) (Of G)
      (fun after s => Of G s ∧ Unprotected protectedPaths after) (fun _ => Of G) := by
  by_cases hunprotected : Unprotected protectedPaths tally
  · rw [inspectGroup]
    split
    · exact Durable.Triple.pure fun _ hs => hs
    · split
      · exact Durable.Triple.pure fun _ hs => hs
      · next hpath =>
        apply Durable.Triple.bind Durable.Triple.read
        intro read
        apply Durable.Triple.bind (Durable.Triple.check fun _ _ hs _ => hs.1.1)
        intro verdict
        cases verdict with
        | alreadyQuarantined => exact Durable.Triple.pure fun _ hs => hs.1.1
        | moved quarantinePath =>
          exact (markQuarantined_of tally group.1 quarantinePath).consequence
            (fun _ hs => hs.1.1.1) (fun _ hs => hs)
            (fun after _ hs => ⟨hs.1, fun retired hretired =>
              hunprotected retired (hs.2 ▸ hretired)⟩) fun _ _ hs => hs
        | eligible quarantinePath =>
          apply Durable.Triple.pure
          rintro s ⟨⟨⟨hs, -⟩, -⟩, -⟩
          refine ⟨hs, fun retired hretired => ?_⟩
          rcases List.mem_append.mp hretired with hearlier | hlast
          · exact hunprotected retired hearlier
          · rw [List.mem_singleton] at hlast
            rw [hlast]
            simpa using hpath
  · exact fun s hs => absurd hs.2 hunprotected

theorem moveGroup_of {tally : QuarantineTally} {retired : (String × List Member) × String}
    (h : Movable G retired.1.1 retired.2) :
    Durable.Triple (Of G) (moveGroup tally retired) (Of G) (fun _ => Of G) (fun _ => Of G) := by
  rw [moveGroup]
  apply Durable.Triple.bind (rename_of h)
  intro _
  apply Durable.Triple.bind Durable.Triple.read
  intro read
  apply Durable.Triple.bind (Durable.Triple.check fun _ _ hs _ => hs.1)
  intro _
  exact (markQuarantined_of _ _ _).consequence (fun _ hs => hs.1.1) (fun _ hs => hs)
    (fun _ _ hs => hs.1) fun _ _ hs => hs

variable (reader) in
theorem inspectGroups_of (protectedStart : ℕ) (protectedPaths : List String)
    (quarantineRoot : String) (groups : List (String × List Member))
    (history : ReplicaPublicationHistory) :
    Durable.Triple (Of G) (groups.foldlM
        (inspectGroup reader protectedStart protectedPaths quarantineRoot) (.begin history)) (Of G)
      (fun tally s => Of G s ∧ Unprotected protectedPaths tally) (fun _ => Of G) :=
  (Durable.Triple.foldlM (L := fun tally s => Of G s ∧ Unprotected protectedPaths tally) groups
    (fun tally group _ => inspectGroup_of protectedStart protectedPaths quarantineRoot tally group)
    (.begin history)).consequence
    (fun _ hs => ⟨hs, fun _ hretired => absurd hretired List.not_mem_nil⟩) (fun _ hs => hs)
    (fun _ _ hs => hs) fun _ _ hs => hs

theorem moveGroups_of {protectedPaths : List String}
    (h : ∀ source ∉ protectedPaths, ∀ target, Movable G source target) (tally : QuarantineTally) :
    Durable.Triple (fun s => Of G s ∧ Unprotected protectedPaths tally)
      (tally.eligible.foldlM moveGroup tally) (Of G) (fun _ => Of G) (fun _ => Of G) := by
  by_cases hunprotected : Unprotected protectedPaths tally
  · exact (Durable.Triple.foldlM (L := fun _ => Of G) tally.eligible
      (fun _ retired hretired => moveGroup_of (h _ (hunprotected retired hretired) _))
      tally).consequence (fun _ hs => hs.1) (fun _ hs => hs) (fun _ _ hs => hs) fun _ _ hs => hs
  · exact fun s hs => absurd hs.2 hunprotected

theorem moveBack_of {path recorded : String} (hback : Movable G recorded path)
    (hagain : Movable G path recorded) (members : List Member) :
    Durable.Triple (Of G) (moveBack reader path members recorded) (Of G) (fun _ => Of G)
      (fun _ => Of G) := by
  rw [moveBack]
  apply Durable.Triple.bind Durable.Triple.read
  intro read
  split
  · apply Durable.Triple.bind (Durable.Triple.check fun _ _ hs _ => hs.1)
    intro _
    apply Durable.Triple.bind ((rename_of hback).consequence (fun _ hs => hs.1.1) (fun _ hs => hs)
      (fun _ _ hs => hs) fun _ _ hs => hs)
    intro _
    apply Durable.Triple.bind Durable.Triple.read
    intro again
    split
    · exact Durable.Triple.pure fun _ hs => hs.1
    · apply Durable.Triple.bind ((rename_of hagain).consequence (fun _ hs => hs.1) (fun _ hs => hs)
        (fun _ _ hs => hs) fun _ _ hs => hs)
      intro _
      exact Durable.Triple.fail fun _ hs => hs
  · apply Durable.Triple.bind (Durable.Triple.check fun _ _ hs _ => hs.1)
    intro _
    exact Durable.Triple.pure fun _ hs => hs.1.1
  · exact Durable.Triple.fail fun _ hs => hs.1
  · exact Durable.Triple.fail fun _ hs => hs.1

theorem quarantine_of (h : ∀ source target, Movable G source target) (quarantineRoot : String)
    (retainPublications : ℕ) :
    Durable.Triple (Of G) (quarantineRetiredReplicaArchives reader quarantineRoot retainPublications)
      (Of G) (fun _ => Of G) (fun _ => Of G) := by
  rw [quarantineRetiredReplicaArchives]
  apply Durable.Triple.bind (Durable.Triple.check fun _ _ hs _ => hs)
  intro _
  apply Durable.Triple.bind Durable.Triple.read
  intro read
  apply Durable.Triple.bind (Durable.Triple.check fun _ _ hs _ => hs.1.1)
  intro current
  apply Durable.Triple.bind ((loadOrReconcile_of (some current)).consequence
    (fun _ hs => hs.1.1.1) (fun _ hs => hs) (fun _ _ hs => hs) fun _ _ hs => hs)
  intro history
  apply Durable.Triple.bind (Durable.Triple.check fun _ _ hs _ => hs)
  intro groups
  apply Durable.Triple.bind (Durable.Triple.check fun _ _ hs _ => hs.1)
  intro _
  apply Durable.Triple.bind ((inspectGroups_of reader _ _ quarantineRoot groups history).consequence
    (fun _ hs => hs.1.1) (fun _ hs => hs) (fun _ _ hs => hs) fun _ _ hs => hs)
  intro tally
  apply Durable.Triple.bind (moveGroups_of (fun source _ target => h source target) tally)
  intro tally
  exact (Durable.Triple.check fun _ _ hs _ => hs).consequence (fun _ hs => hs) (fun _ hs => hs)
    (fun _ _ hs => hs.1) fun _ _ hs => hs

theorem restore_of (h : ∀ source target, Movable G source target) (quarantineRoot : String)
    (generation : ℕ) :
    Durable.Triple (Of G) (restoreQuarantinedReplicaArchive reader quarantineRoot generation) (Of G)
      (fun _ => Of G) (fun _ => Of G) := by
  rw [restoreQuarantinedReplicaArchive]
  apply Durable.Triple.bind (Durable.Triple.check fun _ _ hs _ => hs)
  intro _
  apply Durable.Triple.bind Durable.Triple.read
  intro read
  apply Durable.Triple.bind (Durable.Triple.check fun _ _ hs _ => hs.1.1)
  intro current
  apply Durable.Triple.bind ((loadOrReconcile_of (some current)).consequence
    (fun _ hs => hs.1.1.1) (fun _ hs => hs) (fun _ _ hs => hs) fun _ _ hs => hs)
  intro history
  apply Durable.Triple.bind (Durable.Triple.check fun _ _ hs _ => hs)
  rintro ⟨path, members, recorded⟩
  apply Durable.Triple.bind ((moveBack_of (h _ _) (h _ _) members).consequence
    (fun _ hs => hs.1) (fun _ hs => hs) (fun _ _ hs => hs) fun _ _ hs => hs)
  intro restored
  apply Durable.Triple.bind (write_of _)
  intro _
  exact Durable.Triple.pure fun _ hs => hs

theorem run_of (h : ∀ source target, Movable G source target) (command : ControlCommand) :
    Durable.Triple (Of G) (command.run reader) (Of G) (fun _ => Of G) (fun _ => Of G) := by
  have hdone : Durable.Triple (Of G) (pure () : Control Unit) (Of G) (fun _ => Of G)
      (fun _ => Of G) := Durable.Triple.pure fun _ hs => hs
  cases command with
  | publish archive generation clock =>
    refine Durable.Triple.bind ?_ fun _ => hdone
    rw [publishReplicaHandoff]
    apply Durable.Triple.bind (Durable.Triple.check fun _ _ hs _ => hs)
    intro _
    apply Durable.Triple.bind Durable.Triple.read
    intro read
    apply Durable.Triple.bind (Durable.Triple.check fun _ _ hs _ => hs.1.1)
    intro _
    exact (publishLocked_of archive generation clock).consequence (fun _ hs => hs.1.1.1)
      (fun _ hs => hs) (fun _ _ hs => hs) fun _ _ hs => hs
  | publishNext archive predecessor clock =>
    refine Durable.Triple.bind ?_ fun _ => hdone
    rw [publishReplicaHandoffNextIfCurrent]
    apply Durable.Triple.bind Durable.Triple.read
    intro read
    apply Durable.Triple.bind (Durable.Triple.check fun _ _ hs _ => hs.1)
    intro _
    apply Durable.Triple.bind (Durable.Triple.check fun _ _ hs _ => hs.1.1)
    intro generation
    exact (publishLocked_of archive generation clock).consequence (fun _ hs => hs.1.1.1)
      (fun _ hs => hs) (fun _ _ hs => hs) fun _ _ hs => hs
  | quarantine quarantineRoot retainPublications =>
    exact Durable.Triple.bind (quarantine_of h quarantineRoot retainPublications) fun _ => hdone
  | restore quarantineRoot generation =>
    exact Durable.Triple.bind (restore_of h quarantineRoot generation) fun _ => hdone

end Moving

/-! What the moves keep -/

theorem moved_contents (source target : String) (archives : List (String × ArchiveFiles)) :
    (moved source target archives).map Prod.snd = archives.map Prod.snd := by
  rw [moved, List.map_map]
  apply List.map_congr_left
  intro entry _
  simp only [Function.comp_apply]
  split <;> rfl

theorem lookup_moved {source target path : String} (hsource : path ≠ source)
    (htarget : path ≠ target) (archives : List (String × ArchiveFiles)) :
    (moved source target archives).lookup path = archives.lookup path := by
  induction archives with
  | nil => rfl
  | cons entry archives ih =>
    obtain ⟨place, files⟩ := entry
    rw [moved, List.map_cons]
    by_cases hplace : place = source
    · have hfirst : (path == target) = false := beq_eq_false_iff_ne.mpr htarget
      have hsecond : (path == place) = false :=
        beq_eq_false_iff_ne.mpr fun h => hsource (h.trans hplace)
      rw [if_pos hplace, List.lookup_cons, List.lookup_cons, hfirst, hsecond]
      exact ih
    · rw [if_neg hplace, List.lookup_cons, List.lookup_cons]
      cases path == place with
      | true => rfl
      | false => exact ih

theorem notMem_of_lookup {path : String} {archives : List (String × ArchiveFiles)}
    (h : archives.lookup path = none) : path ∉ archives.map Prod.fst := by
  intro hmem
  obtain ⟨entry, hentry, rfl⟩ := List.mem_map.mp hmem
  rw [List.lookup_eq_none_iff] at h
  have hne := h entry hentry
  simp at hne

theorem moved_nodup {source target : String} {archives : List (String × ArchiveFiles)}
    (htarget : archives.lookup target = none) (h : (archives.map Prod.fst).Nodup) :
    ((moved source target archives).map Prod.fst).Nodup := by
  have hfree := notMem_of_lookup htarget
  have hpaths : (moved source target archives).map Prod.fst =
      (archives.map Prod.fst).map fun path => if path = source then target else path := by
    rw [moved, List.map_map, List.map_map]
    apply List.map_congr_left
    intro entry _
    simp only [Function.comp_apply]
    split <;> rfl
  rw [hpaths]
  refine List.Nodup.map_on ?_ h
  intro left hleft right hright hsame
  split at hsame <;> split at hsame
  · next hl hr => exact hl.trans hr.symm
  · exact absurd (hsame ▸ hright) hfree
  · exact absurd (hsame ▸ hleft) hfree
  · exact hsame

/-- The archives are these, at places of their own. -/
def Conserved (archives archives' : List (String × ArchiveFiles)) : Prop :=
  archives'.map Prod.snd = archives.map Prod.snd ∧
    ((archives.map Prod.fst).Nodup → (archives'.map Prod.fst).Nodup)

theorem Conserved.movable (archives : List (String × ArchiveFiles)) (source target : String) :
    Movable (Conserved archives) source target := by
  intro archives' h _ htarget
  exact ⟨(moved_contents source target archives').trans h.1, fun hnodup =>
    moved_nodup htarget (h.2 hnodup)⟩

/-- An event of the publisher itself. -/
def ControlEvent.own : ControlEvent → Bool
  | .archivesChanged _ => false
  | _ => true

def latest (disk : Disk) (retainPublications : ℕ) : List ReplicaArchiveHandoff :=
  disk.handoffs.drop (disk.handoffs.length - retainPublications)

/-- The archives of the latest publications are where they were. -/
def Undisturbed (disk : Disk) (retainPublications : ℕ) (archives : List (String × ArchiveFiles)) :
    Prop :=
  ∀ handoff ∈ latest disk retainPublications,
    archives.lookup handoff.archiveDirectory = disk.archives.lookup handoff.archiveDirectory

theorem mem_protectedPaths {history : ReplicaPublicationHistory} {retainPublications : ℕ}
    (hlists : history.Lists disk.handoffs) {handoff : ReplicaArchiveHandoff}
    (h : handoff ∈ latest disk retainPublications) :
    handoff.archiveDirectory ∈ protectedPaths history retainPublications := by
  rw [latest, ← hlists.listed, ReplicaPublicationHistory.handoffs, List.length_map,
    ← List.map_drop, List.mem_map] at h
  obtain ⟨entry, hentry, rfl⟩ := h
  rw [protectedPaths, Ordered.mem_sortBy, List.mem_dedup]
  exact List.mem_map_of_mem hentry

theorem checkProtected_present {groups : List (String × List Member)} {quarantineRoot path : String}
    (h : checkProtected reader disk groups quarantineRoot path = .ok ()) :
    (disk.archives.lookup path).isSome := by
  rw [checkProtected] at h
  cases hgroup : groups.lookup path with
  | none =>
    rw [hgroup] at h
    cases h
  | some members =>
    rw [hgroup] at h
    obtain ⟨location, -, h⟩ := bind_ok.mp h
    obtain ⟨-, h⟩ := check_bind_ok.mp h
    obtain ⟨hretained, -⟩ := check_bind_ok.mp h
    rw [verifyRetainedGroup.eq_def] at hretained
    obtain ⟨hpresent, -⟩ := check_bind_ok.mp hretained
    rw [canonicalPublishArchive] at hpresent
    split at hpresent
    · next hsome => exact hsome
    · cases hpresent

/-- An archive that is there is not overwritten, and a protected one is not moved. -/
theorem undisturbed_movable {history : ReplicaPublicationHistory} {retainPublications : ℕ}
    (hlists : history.Lists disk.handoffs)
    (hpresent : ∀ path ∈ protectedPaths history retainPublications,
      (disk.archives.lookup path).isSome)
    {source : String} (hsource : source ∉ protectedPaths history retainPublications)
    (target : String) : Movable (Undisturbed disk retainPublications) source target := by
  intro archives h _ htarget handoff hhandoff
  have hpath := mem_protectedPaths hlists hhandoff
  have hplace := h handoff hhandoff
  have hne : handoff.archiveDirectory ≠ target := by
    intro hsame
    have hthere := hpresent _ hpath
    rw [← hplace, hsame, htarget] at hthere
    cases hthere
  have hunmoved : handoff.archiveDirectory ≠ source := by
    intro hsame
    rw [hsame] at hpath
    exact hsource hpath
  rw [lookup_moved hunmoved hne, hplace]

theorem quarantine_undisturbed (hconsistent : Consistent disk) (quarantineRoot : String)
    (retainPublications : ℕ) :
    Durable.Triple (· = disk)
      (quarantineRetiredReplicaArchives reader quarantineRoot retainPublications)
      (Of (Undisturbed disk retainPublications)) (fun _ => Of (Undisturbed disk retainPublications))
      (fun _ => Of (Undisturbed disk retainPublications)) := by
  have hstart : Of (Undisturbed disk retainPublications) disk := fun _ _ => rfl
  have hrecorded : ∀ history s, Recorded disk history s →
      Of (Undisturbed disk retainPublications) s := by
    rintro history s ⟨rfl, -, -⟩
    exact fun _ _ => rfl
  rw [quarantineRetiredReplicaArchives]
  apply Durable.Triple.bind (Durable.Triple.check fun _ _ hs _ => hs ▸ hstart)
  intro _
  apply Durable.Triple.bind Durable.Triple.read
  intro read
  by_cases hread : read = disk
  · subst hread
    apply Durable.Triple.bind (Durable.Triple.check fun _ _ hs _ => hs.1.1 ▸ hstart)
    intro current
    by_cases hload : loadHandoff read = .ok current
    · apply Durable.Triple.bind ((loadOrReconcile_triple hconsistent
        (loadHandoff_represents hload)).consequence (fun _ hs => hs.1.1.1)
        (fun s hs => hs.elim fun history hs => hrecorded history s hs) (fun _ _ hs => hs)
        fun _ _ hs => hs ▸ hstart)
      intro history
      by_cases hlists : history.Lists read.handoffs
      · apply Durable.Triple.bind (Durable.Triple.check fun _ s hs _ => hrecorded history s hs)
        intro groups
        apply Durable.Triple.bind (Durable.Triple.check fun _ s hs _ => hrecorded history s hs.1)
        intro _
        by_cases hchecked : (protectedPaths history retainPublications).forM
            (checkProtected reader read groups quarantineRoot) = .ok ()
        · have hpresent : ∀ path ∈ protectedPaths history retainPublications,
              (read.archives.lookup path).isSome := fun path hpath =>
            checkProtected_present (forM_ok.mp hchecked path hpath)
          apply Durable.Triple.bind ((inspectGroups_of reader _ _ quarantineRoot groups
            history).consequence (fun s hs => hrecorded history s hs.1.1) (fun _ hs => hs)
            (fun _ _ hs => hs) fun _ _ hs => hs)
          intro tally
          apply Durable.Triple.bind (moveGroups_of (fun source hsource target =>
            undisturbed_movable hlists hpresent hsource target) tally)
          intro tally
          exact (Durable.Triple.check fun _ _ hs _ => hs).consequence (fun _ hs => hs)
            (fun _ hs => hs) (fun _ _ hs => hs.1) fun _ _ hs => hs
        · exact fun s hs => absurd hs.2 hchecked
      · exact fun s hs => absurd hs.lists hlists
    · rintro s ⟨-, hsome⟩
      exact absurd hsome hload
  · rintro s ⟨⟨rfl, -⟩, rfl⟩
    exact absurd rfl hread

end GreenBubbles.Follow
