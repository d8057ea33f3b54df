import GreenBubbles.Follow.Quarantine
import GreenBubbles.Library.Runs

/-! # What the history records

Under any order of publications, quarantines and restorations, each of them possibly
interrupted between two writes, the history lacks at most the current handoff. It lacks
it for good when it cannot be extended by it: then nothing can be done any more.
-/
namespace GreenBubbles.Follow

open Library Library.Runs

namespace ReplicaPublicationHistory

def handoffs (history : ReplicaPublicationHistory) : List ReplicaArchiveHandoff :=
  history.entries.map (·.handoff)

/-- The entries are these handoffs, with the digests of their files. -/
structure Lists (history : ReplicaPublicationHistory) (handoffs : List ReplicaArchiveHandoff) :
    Prop where
  listed : history.handoffs = handoffs
  digests : ∀ entry ∈ history.entries, entry.handoffSha256 = entry.handoff.sha256

variable {history : ReplicaPublicationHistory} {handoffs : List ReplicaArchiveHandoff}

theorem Lists.empty : Lists .empty [] where
  listed := rfl
  digests := fun _ hentry => absurd hentry List.not_mem_nil

theorem Lists.push (h : history.Lists handoffs) (handoff : ReplicaArchiveHandoff) :
    (history.push handoff).Lists (handoffs ++ [handoff]) where
  listed := by
    have hlisted := h.listed
    simp only [ReplicaPublicationHistory.handoffs] at hlisted
    simp [ReplicaPublicationHistory.handoffs, ReplicaPublicationHistory.push, hlisted]
  digests := by
    intro entry hentry
    rw [ReplicaPublicationHistory.push, List.mem_append, List.mem_singleton] at hentry
    rcases hentry with hentry | rfl
    · exact h.digests entry hentry
    · rfl

theorem Lists.relocate (h : history.Lists handoffs) (path : String) (place : Option String) :
    (history.relocate path place).Lists handoffs where
  listed := by
    rw [← h.listed, ReplicaPublicationHistory.handoffs, ReplicaPublicationHistory.handoffs,
      ReplicaPublicationHistory.relocate, List.map_map]
    apply List.map_congr_left
    intro entry _
    simp only [Function.comp_apply]
    split <;> rfl
  digests := by
    intro entry hentry
    obtain ⟨before, hbefore, rfl⟩ := List.mem_map.mp hentry
    have hdigest := h.digests before hbefore
    split
    · exact hdigest
    · exact hdigest

/-- The last entry holds the last handoff. -/
theorem Lists.getLast? (h : history.Lists handoffs) :
    history.entries.getLast?.map (·.handoff) = handoffs.getLast? := by
  rw [← h.listed, ReplicaPublicationHistory.handoffs, List.getLast?_map]

theorem extend_ok {current : LoadedHandoff} {outcome : ReplicaPublicationHistory × Bool}
    (h : history.extend current = .ok outcome) : outcome = (history.push current.value, true) := by
  rw [extend] at h
  obtain ⟨-, h⟩ := check_bind_ok.mp h
  obtain ⟨-, h⟩ := check_bind_ok.mp h
  exact (Except.ok.inj h).symm

end ReplicaPublicationHistory

open ReplicaPublicationHistory

/-- What is loaded is the last of the handoffs. -/
def Represents (handoffs : List ReplicaArchiveHandoff) : Option LoadedHandoff → Prop
  | none => handoffs = []
  | some current => handoffs.getLast? = some current.value ∧ current.sha256 = current.value.sha256

def Increasing (handoffs : List ReplicaArchiveHandoff) : Prop :=
  handoffs.Pairwise fun earlier later => earlier.generation < later.generation

section Reconciling

variable {history : ReplicaPublicationHistory} {front : List ReplicaArchiveHandoff}
  {current : LoadedHandoff} {outcome : ReplicaPublicationHistory × Bool}

/-- A history that lacks the current handoff is extended by it. -/
theorem reconcile_behind (hincreasing : Increasing (front ++ [current.value]))
    (hlists : history.Lists front) : history.reconcile (some current) = history.extend current := by
  have hlast := hlists.getLast?
  rw [ReplicaPublicationHistory.reconcile]
  cases htail : history.entries.getLast? with
  | none => rfl
  | some tail =>
    rw [htail, Option.map_some] at hlast
    have hmem : tail.handoff ∈ front := List.mem_of_getLast? hlast.symm
    have hless : tail.handoff.generation < current.value.generation :=
      (List.pairwise_append.mp hincreasing).2.2 _ hmem _ (List.mem_singleton_self _)
    have hne : (tail.handoff.generation == current.value.generation) = false :=
      beq_eq_false_iff_ne.mpr (Nat.ne_of_lt hless)
    simp only [ReplicaPublicationHistoryEntry.records, ReplicaPublicationHistoryEntry.resembles, hne,
      Bool.false_and, Bool.false_eq_true, if_false]
    exact if_neg (Nat.not_le.mpr hless)

/-- A history that has the current handoff is left as it is. -/
theorem reconcile_current (hlists : history.Lists (front ++ [current.value]))
    (hdigest : current.sha256 = current.value.sha256)
    (h : history.reconcile (some current) = .ok outcome) : outcome = (history, false) := by
  have hlast := hlists.getLast?
  rw [List.getLast?_append, List.getLast?_singleton] at hlast
  rw [ReplicaPublicationHistory.reconcile] at h
  cases htail : history.entries.getLast? with
  | none =>
    rw [htail] at hlast
    cases hlast
  | some tail =>
    rw [htail] at hlast h
    dsimp only at h
    have htailvalue : tail.handoff = current.value := Option.some.inj hlast
    have htaildigest : tail.handoffSha256 = current.sha256 := by
      rw [hlists.digests tail (List.mem_of_getLast? htail), htailvalue, hdigest]
    by_cases hplace : tail.quarantineDirectory.isNone
    · have hrecords : tail.records current = true := by
        simp [ReplicaPublicationHistoryEntry.records, htailvalue, htaildigest, hplace]
      rw [if_pos hrecords] at h
      exact (Except.ok.inj h).symm
    · have hrecords : tail.records current = false := by
        simp [ReplicaPublicationHistoryEntry.records, hplace]
      have hresembles : tail.resembles current = false := by
        simp [ReplicaPublicationHistoryEntry.resembles, hplace]
      rw [hrecords, hresembles, if_neg Bool.false_ne_true, if_neg Bool.false_ne_true,
        if_pos (by rw [htailvalue])] at h
      cases h

end Reconciling

/-- The history is missing before the first publication, and lacks at most the current
handoff after it. -/
structure Consistent (disk : Disk) : Prop where
  increasing : Increasing disk.handoffs
  unwritten : disk.history = none → disk.handoffs = []
  written : ∀ history, disk.history = some history → checkWritable history = .ok () ∧
    (history.Lists disk.handoffs ∨
      ∃ front current, disk.handoffs = front ++ [current] ∧ history.Lists front)

/-- The disk, but for a history that lists all of its handoffs. -/
structure Recorded (disk : Disk) (history : ReplicaPublicationHistory) (after : Disk) : Prop where
  written : after = { disk with history := some history }
  lists : history.Lists disk.handoffs
  writable : checkWritable history = .ok ()

theorem Recorded.consistent {disk after : Disk} {history : ReplicaPublicationHistory}
    (h : Recorded disk history after) (hincreasing : Increasing disk.handoffs) :
    Consistent after := by
  obtain ⟨rfl, hlists, hwritable⟩ := h
  refine ⟨hincreasing, fun hnone => (by cases hnone), fun stored hstored => ?_⟩
  obtain rfl := Option.some.inj hstored
  exact ⟨hwritable, .inl hlists⟩

theorem loadHandoff_represents {disk : Disk} {loaded : LoadedHandoff}
    (h : loadHandoff disk = .ok loaded) : Represents disk.handoffs (some loaded) := by
  rw [loadHandoff] at h
  cases hlast : disk.handoffs.getLast? with
  | none =>
    rw [hlast] at h
    cases h
  | some value =>
    rw [hlast] at h
    obtain ⟨-, h⟩ := check_bind_ok.mp h
    obtain ⟨-, h⟩ := check_bind_ok.mp h
    obtain rfl := Except.ok.inj h
    exact ⟨hlast, rfl⟩

section Steps

variable {disk : Disk} {history : ReplicaPublicationHistory} {current : Option LoadedHandoff}

theorem checkWritable_valid (h : checkWritable history = .ok ()) :
    validatePublicationHistory history = .ok () :=
  (check_bind_ok.mp h).1

/-- What is made of the stored history lists all handoffs, and is written unless it is the
one that is stored. -/
theorem reconcileHistory_lists (hconsistent : Consistent disk)
    (hcurrent : Represents disk.handoffs current) {outcome : ReplicaPublicationHistory × Bool}
    (h : reconcileHistory disk current = .ok outcome) :
    outcome.1.Lists disk.handoffs ∧ (outcome.2 = false → disk.history = some outcome.1) := by
  rw [reconcileHistory] at h
  obtain ⟨stored, hstored, h⟩ := bind_ok.mp h
  obtain ⟨-, h⟩ := check_bind_ok.mp h
  obtain ⟨reconciled, hreconciled, h⟩ := bind_ok.mp h
  obtain ⟨-, h⟩ := check_bind_ok.mp h
  obtain rfl := Except.ok.inj h
  rw [storedHistory] at hstored
  cases hdisk : disk.history with
  | none =>
    rw [hdisk] at hstored
    obtain rfl := Except.ok.inj hstored
    have hnone := hconsistent.unwritten hdisk
    cases current with
    | some loaded =>
      obtain ⟨hlast, -⟩ := hcurrent
      rw [hnone] at hlast
      cases hlast
    | none =>
      obtain ⟨-, hreconciled⟩ := check_bind_ok.mp hreconciled
      obtain rfl := Except.ok.inj hreconciled
      refine ⟨?_, fun hfalse => by cases hfalse⟩
      rw [hnone]
      exact Lists.empty
  | some history =>
    rw [hdisk] at hstored
    obtain ⟨-, hstored⟩ := check_bind_ok.mp hstored
    obtain rfl := Except.ok.inj hstored
    obtain ⟨-, hwhole | ⟨front, last, hhandoffs, hfront⟩⟩ := hconsistent.written history hdisk
    · cases current with
      | none =>
        obtain ⟨-, hreconciled⟩ := check_bind_ok.mp hreconciled
        obtain rfl := Except.ok.inj hreconciled
        exact ⟨hwhole, fun _ => rfl⟩
      | some loaded =>
        obtain ⟨front, hhandoffs⟩ := List.getLast?_eq_some_iff.mp hcurrent.1
        rw [hhandoffs] at hwhole
        obtain rfl := reconcile_current hwhole hcurrent.2 hreconciled
        exact ⟨hhandoffs ▸ hwhole, fun _ => rfl⟩
    · cases current with
      | none =>
        have hnil : disk.handoffs = [] := hcurrent
        rw [hhandoffs] at hnil
        exact absurd hnil (by simp)
      | some loaded =>
        have hlast : last = loaded.value := by
          have hsome := hcurrent.1
          rw [hhandoffs, List.getLast?_append, List.getLast?_singleton] at hsome
          exact Option.some.inj hsome
        subst hlast
        rw [reconcile_behind (hhandoffs ▸ hconsistent.increasing) hfront] at hreconciled
        obtain rfl := extend_ok hreconciled
        refine ⟨?_, fun hfalse => by cases hfalse⟩
        rw [hhandoffs]
        exact hfront.push _

variable {P I : Disk → Prop} {Q : Unit → Disk → Prop} {E : RestoreError → Disk → Prop}

theorem writePublicationHistory_triple
    (hI : ∀ s, P s → checkWritable history = .ok () → I { s with history := some history })
    (hQ : ∀ s, P s → checkWritable history = .ok () → Q () { s with history := some history })
    (hE : ∀ e s, P s → checkWritable history = .error e → E e s) :
    Durable.Triple P (writePublicationHistory history) I Q E := by
  rw [writePublicationHistory]
  apply Durable.Triple.bind (Durable.Triple.check hE)
  intro _
  exact Durable.Triple.modify (fun s hs => hI s hs.1 hs.2) fun s hs => hQ s hs.1 hs.2

theorem loadOrReconcile_triple (hconsistent : Consistent disk)
    (hcurrent : Represents disk.handoffs current) :
    Durable.Triple (· = disk) (loadOrReconcilePublicationHistory current)
      (fun s => ∃ history, Recorded disk history s) (fun history s => Recorded disk history s)
      (fun _ s => s = disk) := by
  rw [loadOrReconcilePublicationHistory]
  apply Durable.Triple.bind Durable.Triple.read
  intro read
  apply Durable.Triple.bind (Durable.Triple.check fun _ s hs _ => hs.1)
  intro outcome
  by_cases houtcome : reconcileHistory disk current = .ok outcome
  · obtain ⟨hlists, hunchanged⟩ := reconcileHistory_lists hconsistent hcurrent houtcome
    have hwrite : Durable.Triple (fun s => (s = disk ∧ read = s) ∧
        reconcileHistory read current = .ok outcome) (writeChanged outcome)
        (fun s => ∃ history, Recorded disk history s) (fun _ s => Recorded disk outcome.1 s)
        (fun _ s => s = disk) := by
      rw [writeChanged]
      cases hchanged : outcome.2 with
      | false =>
        apply Durable.Triple.pure
        rintro s ⟨⟨rfl, -⟩, -⟩
        have hstored := hunchanged hchanged
        refine ⟨?_, hlists, (hconsistent.written _ hstored).1⟩
        rw [← hstored]
      | true =>
        apply writePublicationHistory_triple
        · rintro s ⟨⟨rfl, -⟩, -⟩ hwritable
          exact ⟨_, rfl, hlists, hwritable⟩
        · rintro s ⟨⟨rfl, -⟩, -⟩ hwritable
          exact ⟨rfl, hlists, hwritable⟩
        · exact fun _ s hs _ => hs.1.1
    apply Durable.Triple.bind hwrite
    intro _
    exact Durable.Triple.pure fun s hs => hs
  · rintro s ⟨⟨rfl, rfl⟩, hsome⟩
    exact absurd hsome houtcome

end Steps

/-! One command -/

variable {reader : ArchiveReader} {disk : Disk}

/-- The disk is consistent and has the handoffs it had. -/
def Kept (disk after : Disk) : Prop := Consistent after ∧ after.handoffs = disk.handoffs

/-- The disk is consistent and has at most one handoff more. -/
def Advanced (disk after : Disk) : Prop :=
  Consistent after ∧
    (after.handoffs = disk.handoffs ∨ ∃ handoff, after.handoffs = disk.handoffs ++ [handoff])

theorem Kept.advanced {after : Disk} (h : Kept disk after) : Advanced disk after := ⟨h.1, .inl h.2⟩

theorem Recorded.kept {history : ReplicaPublicationHistory} {after : Disk}
    (h : Recorded disk history after) (hconsistent : Consistent disk) : Kept disk after :=
  ⟨h.consistent hconsistent.increasing, by rw [h.written]⟩

theorem priorHandoff_ok (hconsistent : Consistent disk) {generation : ℕ}
    {prior : Option LoadedHandoff} (h : priorHandoff disk generation = .ok prior) :
    Represents disk.handoffs prior ∧
      ∀ handoff ∈ disk.handoffs, handoff.generation < generation := by
  rw [priorHandoff] at h
  by_cases hempty : disk.handoffs.isEmpty = true
  · rw [if_pos hempty] at h
    obtain rfl := Except.ok.inj h
    rw [List.isEmpty_iff] at hempty
    refine ⟨hempty, fun handoff hmem => ?_⟩
    rw [hempty] at hmem
    exact absurd hmem List.not_mem_nil
  · rw [if_neg hempty] at h
    obtain ⟨loaded, hloaded, h⟩ := bind_ok.mp h
    obtain ⟨hless, h⟩ := check_bind_ok.mp h
    obtain rfl := Except.ok.inj h
    have hrepresents := loadHandoff_represents hloaded
    refine ⟨hrepresents, fun handoff hmem => ?_⟩
    rw [require_ok, decide_eq_true_eq] at hless
    obtain ⟨front, hfront⟩ := List.getLast?_eq_some_iff.mp hrepresents.1
    rw [hfront, List.mem_append, List.mem_singleton] at hmem
    rcases hmem with hmem | rfl
    · have hincreasing := hconsistent.increasing
      rw [hfront] at hincreasing
      have hearlier := (List.pairwise_append.mp hincreasing).2.2 handoff hmem _
        (List.mem_singleton_self _)
      exact Nat.lt_trans hearlier hless
    · exact hless

theorem nextHandoff_generation {history : ReplicaPublicationHistory} {archive : String}
    {generation : ℕ} {clock : Option ℕ} {handoff : ReplicaArchiveHandoff}
    (h : nextHandoff reader disk history archive generation clock = .ok handoff) :
    handoff.generation = generation := by
  rw [nextHandoff.eq_def] at h
  cases hfiles : disk.archiveAt archive with
  | none =>
    rw [hfiles] at h
    cases h
  | some files =>
    rw [hfiles] at h
    obtain ⟨⟨report, reportSha256, sealed⟩, -, h⟩ := bind_ok.mp h
    cases clock with
    | none => cases h
    | some nanoseconds =>
      obtain ⟨-, h⟩ := check_bind_ok.mp h
      obtain ⟨-, h⟩ := check_bind_ok.mp h
      obtain rfl := Except.ok.inj h
      rfl

/-- The disk after the handoff has been replaced and before the history has. -/
def Disk.handedOff (disk : Disk) (history : ReplicaPublicationHistory)
    (handoff : ReplicaArchiveHandoff) : Disk :=
  { disk with history := some history, handoffs := disk.handoffs ++ [handoff] }

theorem Increasing.append {handoffs : List ReplicaArchiveHandoff} (h : Increasing handoffs)
    {handoff : ReplicaArchiveHandoff}
    (hless : ∀ earlier ∈ handoffs, earlier.generation < handoff.generation) :
    Increasing (handoffs ++ [handoff]) := by
  refine List.pairwise_append.mpr ⟨h, List.pairwise_singleton _ _, ?_⟩
  intro earlier hearlier later hlater
  rw [List.mem_singleton] at hlater
  exact hlater ▸ hless earlier hearlier

theorem handedOff_consistent {history : ReplicaPublicationHistory} {handoff : ReplicaArchiveHandoff}
    (hincreasing : Increasing (disk.handoffs ++ [handoff])) (hlists : history.Lists disk.handoffs)
    (hwritable : checkWritable history = .ok ()) : Consistent (disk.handedOff history handoff) := by
  refine ⟨hincreasing, fun hnone => (by cases hnone), fun stored hstored => ?_⟩
  obtain rfl := Option.some.inj hstored
  exact ⟨hwritable, .inr ⟨disk.handoffs, handoff, rfl, hlists⟩⟩

/-- A publication that stopped short: the history could not be extended. -/
structure Halfway (disk : Disk) (error : RestoreError) (after : Disk) : Prop where
  increasing : Increasing after.handoffs
  halfway : ∃ history handoff, after = disk.handedOff history handoff ∧
    history.Lists disk.handoffs ∧ checkWritable history = .ok () ∧
      checkWritable (history.push handoff) = .error error

/-- A publication that is done. -/
structure Completed (disk after : Disk) : Prop where
  increasing : Increasing after.handoffs
  recorded : ∃ (history : ReplicaPublicationHistory) (handoff : ReplicaArchiveHandoff),
    after.handoffs = disk.handoffs ++ [handoff] ∧
    Recorded after (history.push handoff) after

theorem Halfway.advanced {error : RestoreError} {after : Disk} (h : Halfway disk error after) :
    Advanced disk after := by
  obtain ⟨history, handoff, rfl, hlists, hwritable, -⟩ := h.halfway
  exact ⟨handedOff_consistent h.increasing hlists hwritable, .inr ⟨handoff, rfl⟩⟩

theorem Completed.advanced {after : Disk} (h : Completed disk after) : Advanced disk after := by
  obtain ⟨history, handoff, hpublished, hrecorded⟩ := h.recorded
  exact ⟨hrecorded.consistent h.increasing, .inr ⟨handoff, hpublished⟩⟩

theorem publishLocked_triple (hconsistent : Consistent disk) (archive : String) (generation : ℕ)
    (clock : Option ℕ) :
    Durable.Triple (· = disk) (publishReplicaHandoffLocked reader archive generation clock)
      (Advanced disk)
      (fun receipt after => receipt = publicationReceipt generation ∧ Completed disk after)
      (fun error after => Kept disk after ∨ Halfway disk error after) := by
  have hstart : Kept disk disk := ⟨hconsistent, rfl⟩
  rw [publishReplicaHandoffLocked]
  apply Durable.Triple.bind Durable.Triple.read
  intro read
  apply Durable.Triple.bind (Durable.Triple.check fun _ s hs _ => .inl (hs.1 ▸ hstart))
  intro prior
  by_cases hprior : priorHandoff disk generation = .ok prior
  · obtain ⟨hcurrent, hless⟩ := priorHandoff_ok hconsistent hprior
    have hload := loadOrReconcile_triple hconsistent hcurrent
    apply Durable.Triple.bind (hload.consequence (fun _ hs => hs.1.1)
      (fun _ hs => hs.elim fun _ hs => (hs.kept hconsistent).advanced) (fun _ _ hs => hs)
      fun _ _ hs => .inl (hs ▸ hstart))
    intro history
    apply Durable.Triple.bind (Durable.Triple.check fun _ _ hs _ => .inl (hs.kept hconsistent))
    intro handoff
    by_cases hnext : nextHandoff reader read history archive generation clock = .ok handoff
    · have hgeneration := nextHandoff_generation hnext
      have hincreasing : Increasing (disk.handoffs ++ [handoff]) :=
        hconsistent.increasing.append fun earlier hearlier => hgeneration ▸ hless earlier hearlier
      apply Durable.Triple.bind (Q := fun _ s => s = disk.handedOff history handoff ∧
        history.Lists disk.handoffs ∧ checkWritable history = .ok ())
      · apply Durable.Triple.modify
        · rintro s ⟨⟨rfl, hlists, hwritable⟩, -⟩
          exact ⟨handedOff_consistent hincreasing hlists hwritable, .inr ⟨handoff, rfl⟩⟩
        · rintro s ⟨⟨rfl, hlists, hwritable⟩, -⟩
          exact ⟨rfl, hlists, hwritable⟩
      · intro _
        have hdone : ∀ s, (s = disk.handedOff history handoff ∧ history.Lists disk.handoffs ∧
            checkWritable history = .ok ()) → checkWritable (history.push handoff) = .ok () →
            Completed disk { s with history := some (history.push handoff) } := by
          rintro s ⟨rfl, hlists, -⟩ hwritable
          exact ⟨hincreasing, history, handoff, rfl, rfl, hlists.push handoff, hwritable⟩
        apply Durable.Triple.bind (Q := fun _ => Completed disk)
        · apply writePublicationHistory_triple (fun s hs hwritable =>
            (hdone s hs hwritable).advanced) hdone
          rintro e s ⟨rfl, hlists, hwritable⟩ herror
          exact .inr ⟨hincreasing, history, handoff, rfl, hlists, hwritable, herror⟩
        · intro _
          exact Durable.Triple.pure fun s hs => ⟨rfl, hs⟩
    · rintro s ⟨-, hsome⟩
      exact absurd hsome hnext
  · rintro s ⟨⟨rfl, rfl⟩, hsome⟩
    exact absurd hsome hprior

end GreenBubbles.Follow
