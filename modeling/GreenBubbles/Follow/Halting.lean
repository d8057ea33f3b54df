import GreenBubbles.Follow.Protocol

/-! # Publications that cannot be recorded

The handoff is replaced before it is known whether the history can be extended by it. When
it cannot, the publication fails and so does every operation after it, since each begins by
extending the history. This is what becomes of an archive that is published again while
the history still has it in quarantine.
-/
namespace GreenBubbles.Follow

open Library Library.Runs ReplicaPublicationHistory

variable {reader : ArchiveReader} {disk after : Disk} {error : RestoreError}

/-! Publications of one path -/

theorem groupLocation_ok {members : List Member} {location : GroupLocation}
    (h : groupLocation members = .ok location) :
    ∃ place, ∀ member ∈ members, member.1.quarantineDirectory = place := by
  have hone : ∃ place, (members.map (·.1.quarantineDirectory)).dedup = [place] := by
    rw [groupLocation] at h
    split at h
    · exact ⟨_, ‹_›⟩
    · exact ⟨_, ‹_›⟩
    · cases h
  obtain ⟨place, hplace⟩ := hone
  refine ⟨place, fun member hmember => ?_⟩
  have hmem : member.1.quarantineDirectory ∈ (members.map (·.1.quarantineDirectory)).dedup :=
    List.mem_dedup.mpr (List.mem_map_of_mem hmember)
  rw [hplace, List.mem_singleton] at hmem
  exact hmem

/-- The publications of one path are all in the same place. -/
theorem sameLocation {history : ReplicaPublicationHistory}
    (hvalid : validatePublicationHistory history = .ok ())
    {left right : ReplicaPublicationHistoryEntry} (hleft : left ∈ history.entries)
    (hright : right ∈ history.entries)
    (hpath : left.handoff.archiveDirectory = right.handoff.archiveDirectory) :
    left.quarantineDirectory = right.quarantineDirectory := by
  rw [validatePublicationHistory] at hvalid
  obtain ⟨-, hvalid⟩ := check_bind_ok.mp hvalid
  obtain ⟨-, -, hvalid⟩ := bind_ok.mp hvalid
  obtain ⟨groups, hgroups, -⟩ := bind_ok.mp hvalid
  rw [publicationPathGroups] at hgroups
  obtain ⟨-, hgroups⟩ := check_bind_ok.mp hgroups
  obtain ⟨hchecked, -⟩ := check_bind_ok.mp hgroups
  have hmember : ∀ entry ∈ history.entries, ∃ index, (entry, index) ∈ history.entries.zipIdx := by
    intro entry hentry
    obtain ⟨index, hindex, rfl⟩ := List.getElem_of_mem hentry
    exact ⟨index, List.mk_mem_zipIdx_iff_getElem?.mpr (List.getElem?_eq_getElem hindex)⟩
  obtain ⟨leftIndex, hleftmember⟩ := hmember left hleft
  obtain ⟨rightIndex, hrightmember⟩ := hmember right hright
  have hgroup : (left.handoff.archiveDirectory, history.entries.zipIdx.filter fun member =>
      member.1.handoff.archiveDirectory = left.handoff.archiveDirectory) ∈ history.groups :=
    Grouping.mem_grouped.mpr ⟨⟨_, hleftmember, rfl⟩, rfl⟩
  have hlocated := forM_ok.mp hchecked _ hgroup
  rw [checkGroup] at hlocated
  obtain ⟨-, hlocated⟩ := check_bind_ok.mp hlocated
  obtain ⟨location, hlocation, -⟩ := bind_ok.mp hlocated
  obtain ⟨place, hplace⟩ := groupLocation_ok hlocation
  have hleftplace := hplace _ (List.mem_filter.mpr ⟨hleftmember, decide_eq_true rfl⟩)
  have hrightplace := hplace _ (List.mem_filter.mpr ⟨hrightmember, decide_eq_true hpath.symm⟩)
  exact hleftplace.trans hrightplace.symm

/-! The end of a run -/

/-- Every operation fails, and writes nothing. -/
def Halted (reader : ArchiveReader) (disk : Disk) : Prop :=
  ∀ command : ControlCommand, (command.run reader).Fails disk

theorem Halfway.loadOrReconcile_fails (h : Halfway disk error after) {loaded : LoadedHandoff}
    (hload : loadHandoff after = .ok loaded) :
    (loadOrReconcilePublicationHistory (some loaded)).Fails after := by
  obtain ⟨history, handoff, rfl, hlists, hwritable, herror⟩ := h.halfway
  have hlast : handoff = loaded.value := by
    have hsome := (loadHandoff_represents hload).1
    change (disk.handoffs ++ [handoff]).getLast? = _ at hsome
    rw [List.getLast?_append, List.getLast?_singleton] at hsome
    exact Option.some.inj hsome
  subst hlast
  rw [loadOrReconcilePublicationHistory]
  apply Durable.Fails.read_bind
  apply Durable.Fails.check_bind
  intro outcome houtcome
  rw [reconcileHistory] at houtcome
  obtain ⟨stored, hstored, houtcome⟩ := bind_ok.mp houtcome
  obtain ⟨-, houtcome⟩ := check_bind_ok.mp houtcome
  obtain ⟨reconciled, hreconciled, houtcome⟩ := bind_ok.mp houtcome
  obtain ⟨-, houtcome⟩ := check_bind_ok.mp houtcome
  obtain rfl := Except.ok.inj houtcome
  obtain ⟨-, hstored⟩ := check_bind_ok.mp hstored
  obtain rfl := Except.ok.inj hstored
  rw [reconcile_behind h.increasing hlists] at hreconciled
  obtain rfl := extend_ok hreconciled
  apply Durable.Fails.bind
  change (writePublicationHistory (history.push loaded.value)).Fails _
  rw [writePublicationHistory]
  apply Durable.Fails.check_bind
  intro _ hpushed
  rw [herror] at hpushed
  cases hpushed

theorem priorHandoff_some (hne : disk.handoffs ≠ []) {generation : ℕ}
    {prior : Option LoadedHandoff} (h : priorHandoff disk generation = .ok prior) :
    ∃ loaded, prior = some loaded ∧ loadHandoff disk = .ok loaded := by
  rw [priorHandoff, if_neg (by rwa [List.isEmpty_iff])] at h
  obtain ⟨loaded, hloaded, h⟩ := bind_ok.mp h
  obtain ⟨-, h⟩ := check_bind_ok.mp h
  exact ⟨loaded, (Except.ok.inj h).symm, hloaded⟩

theorem Halfway.publishLocked_fails (h : Halfway disk error after) (archive : String)
    (generation : ℕ) (clock : Option ℕ) :
    (publishReplicaHandoffLocked reader archive generation clock).Fails after := by
  rw [publishReplicaHandoffLocked]
  apply Durable.Fails.read_bind
  apply Durable.Fails.check_bind
  intro prior hprior
  have hne : after.handoffs ≠ [] := by
    obtain ⟨history, handoff, rfl, -⟩ := h.halfway
    simp [Disk.handedOff]
  obtain ⟨loaded, rfl, hload⟩ := priorHandoff_some hne hprior
  exact Durable.Fails.bind (h.loadOrReconcile_fails hload)

theorem Halfway.halted (h : Halfway disk error after) : Halted reader after := by
  intro command
  cases command with
  | publish archive generation clock =>
    apply Durable.Fails.bind
    rw [publishReplicaHandoff]
    apply Durable.Fails.check_bind
    intro _ _
    apply Durable.Fails.read_bind
    apply Durable.Fails.check_bind
    intro _ _
    exact h.publishLocked_fails archive generation clock
  | publishNext archive predecessor clock =>
    apply Durable.Fails.bind
    rw [publishReplicaHandoffNextIfCurrent]
    apply Durable.Fails.read_bind
    apply Durable.Fails.check_bind
    intro _ _
    apply Durable.Fails.check_bind
    intro generation _
    exact h.publishLocked_fails archive generation clock
  | quarantine quarantineRoot retainPublications =>
    apply Durable.Fails.bind
    rw [quarantineRetiredReplicaArchives]
    apply Durable.Fails.check_bind
    intro _ _
    apply Durable.Fails.read_bind
    apply Durable.Fails.check_bind
    intro loaded hload
    exact Durable.Fails.bind (h.loadOrReconcile_fails hload)
  | restore quarantineRoot generation =>
    apply Durable.Fails.bind
    rw [restoreQuarantinedReplicaArchive]
    apply Durable.Fails.check_bind
    intro _ _
    apply Durable.Fails.read_bind
    apply Durable.Fails.check_bind
    intro loaded hload
    exact Durable.Fails.bind (h.loadOrReconcile_fails hload)

theorem Halfway.archived (h : Halfway disk error after) (archives : List (String × ArchiveFiles)) :
    Halfway { disk with archives } error { after with archives } := by
  obtain ⟨history, handoff, rfl, hlists, hwritable, herror⟩ := h.halfway
  exact ⟨h.increasing, history, handoff, rfl, hlists, hwritable, herror⟩

/-- Whatever is tried, the control files stay as they are. -/
theorem Halfway.execute (h : Halfway disk error after) (events : List ControlEvent) :
    (execute (controlStep reader) after events).handoffs = after.handoffs ∧
      (execute (controlStep reader) after events).history = after.history := by
  induction events generalizing disk after with
  | nil => exact ⟨rfl, rfl⟩
  | cons event events ih =>
    rw [execute_cons]
    cases event with
    | completed command =>
      have hsame : controlStep reader after (.completed command) = after :=
        (h.halted command).final_eq
      rw [hsame]
      exact ih h
    | interrupted command writes =>
      have hsame : controlStep reader after (.interrupted command writes) = after :=
        (h.halted command).stopped_eq writes
      rw [hsame]
      exact ih h
    | archivesChanged archives => exact ih (h.archived archives)

variable (reader) in
/-- A publication is refused and publishes nothing; or it is recorded, and then no publication
of its archive is in quarantine; or it has replaced the handoff and fails, and from there on
every operation fails and the control files never change again, whatever becomes of the
archives. -/
theorem publication_completes_or_halts (archives : List (String × ArchiveFiles))
    (before : List ControlEvent) (archive : String) (generation : ℕ) (clock : Option ℕ) :
    let disk := execute (controlStep reader) (.initial archives) before
    let publication := publishReplicaHandoff reader archive generation clock
    let after := publication.final disk
    ((∃ error, (publication disk).2 = .error error) ∧ after.handoffs = disk.handoffs) ∨
      ∃ handoff, after.handoffs = disk.handoffs ++ [handoff] ∧
        (((publication disk).2 = .ok (publicationReceipt generation) ∧
            ∃ history, after.history = some history ∧ history.handoffs = after.handoffs ∧
              ∀ entry ∈ history.entries,
                entry.handoff.archiveDirectory = handoff.archiveDirectory →
                  entry.quarantineDirectory = none) ∨
          ((∃ error, (publication disk).2 = .error error) ∧ Halted reader after ∧
            ∀ events, (execute (controlStep reader) after events).handoffs = after.handoffs ∧
              (execute (controlStep reader) after events).history = after.history)) := by
  intro disk publication after
  have hconsistent : Consistent disk := reached_consistent archives before
  have htriple : Durable.Triple (· = disk) publication (Advanced disk) _ _ :=
    publish_triple hconsistent archive generation clock
  obtain ⟨-, hresult⟩ := htriple disk rfl
  cases houtcome : (publication disk).2 with
  | error error =>
    rw [show (publishReplicaHandoff reader archive generation clock disk).2 = .error error from
      houtcome] at hresult
    rcases hresult with hkept | hhalfway
    · exact .inl ⟨⟨error, rfl⟩, hkept.2⟩
    · obtain ⟨history, handoff, hafter, -⟩ := hhalfway.halfway
      have hhandoffs : after.handoffs = disk.handoffs ++ [handoff] := congrArg Disk.handoffs hafter
      exact .inr ⟨handoff, hhandoffs, .inr ⟨⟨error, rfl⟩, hhalfway.halted, hhalfway.execute⟩⟩
  | ok receipt =>
    rw [show (publishReplicaHandoff reader archive generation clock disk).2 = .ok receipt from
      houtcome] at hresult
    obtain ⟨rfl, hcompleted⟩ := hresult
    obtain ⟨history, handoff, hhandoffs, hafter, hlists, hwritable⟩ := hcompleted.recorded
    have hstored : after.history = some (history.push handoff) := congrArg Disk.history hafter
    refine .inr ⟨handoff, hhandoffs, .inl ⟨rfl, _, hstored, hlists.listed, ?_⟩⟩
    intro entry hentry hpath
    exact sameLocation (checkWritable_valid hwritable) hentry
      (List.mem_append_right _ (List.mem_singleton_self _)) hpath

end GreenBubbles.Follow
