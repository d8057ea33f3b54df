import GreenBubbles.Library.Runs
import GreenBubbles.Merge.Archive

/-! # Freshness over runs of merges

A run starts from a bootstrap restoration and merges fragments one after the
other. Each merge leaves a generation behind: what it requested, what it
restored, its snapshot and what the archive before it included.
-/
namespace GreenBubbles.Merge

open Std Archive Library.Runs

namespace Freshness

variable {restored included : SourceSets} {state : Freshness} {sourceSet : String}

theorem mem_fresh_applyRequests {requested : List String} :
    sourceSet ∈ (requested.foldl (applyRequest restored included) state).fresh ↔
      if sourceSet ∈ requested then sourceSet ∈ restored else sourceSet ∈ state.fresh := by
  induction requested generalizing state with
  | nil => simp
  | cons first requested ih =>
    rw [List.foldl_cons, ih]
    by_cases htail : sourceSet ∈ requested
    · simp [htail]
    · by_cases hfirst : sourceSet = first
      · subst hfirst
        by_cases hrestored : sourceSet ∈ restored <;> simp [applyRequest, htail, hrestored]
      · have hcompare : first ≠ sourceSet := Ne.symm hfirst
        by_cases hrestored : first ∈ restored <;>
          simp [applyRequest, htail, hrestored, hfirst, hcompare]

theorem mem_stale_applyRequests {requested : List String}
    (h : sourceSet ∈ state.stale → sourceSet ∈ included) :
    sourceSet ∈ (requested.foldl (applyRequest restored included) state).stale ↔
      if sourceSet ∈ requested then sourceSet ∉ restored ∧ sourceSet ∈ included
      else sourceSet ∈ state.stale := by
  induction requested generalizing state with
  | nil => simp
  | cons first requested ih =>
    have hnext : sourceSet ∈ (applyRequest restored included state first).stale →
        sourceSet ∈ included := by
      by_cases hrestored : first ∈ restored
      · simp only [applyRequest, ExtTreeSet.contains_iff_mem, hrestored, if_true,
          ExtTreeSet.mem_erase]
        exact fun hmem => h hmem.2
      · by_cases hincluded : first ∈ included
        · simp only [applyRequest, ExtTreeSet.contains_iff_mem, hrestored, hincluded, if_true,
            if_false, ExtTreeSet.mem_insert, Std.compare_eq_iff_eq]
          rintro (rfl | hmem)
          · exact hincluded
          · exact h hmem
        · simpa [applyRequest, hrestored, hincluded] using h
    rw [List.foldl_cons, ih hnext]
    by_cases htail : sourceSet ∈ requested
    · simp [htail]
    · by_cases hfirst : sourceSet = first
      · subst hfirst
        by_cases hrestored : sourceSet ∈ restored
        · simp [applyRequest, htail, hrestored]
        · by_cases hincluded : sourceSet ∈ included
          · simp [applyRequest, htail, hrestored, hincluded]
          · have hstale : sourceSet ∉ state.stale := fun hmem => hincluded (h hmem)
            simp [applyRequest, htail, hrestored, hincluded, hstale]
      · have hcompare : first ≠ sourceSet := Ne.symm hfirst
        by_cases hrestored : first ∈ restored
        · simp [applyRequest, htail, hrestored, hfirst, hcompare]
        · by_cases hincluded : first ∈ included <;>
            simp [applyRequest, htail, hrestored, hincluded, hfirst, hcompare]

end Freshness

section Update

variable {state : Freshness} {snapshot requested restored : SourceSets}
  {fragmentCoverage : Option RestorationDatabaseCoverage} {sourceSet : String}

theorem mem_fresh_update :
    sourceSet ∈ (updateFreshness state snapshot requested restored fragmentCoverage).fresh ↔
      if sourceSet ∈ requested then sourceSet ∈ restored
      else sourceSet ∈ state.fresh ∧ sourceSet ∈ snapshot := by
  have h : (updateFreshness state snapshot requested restored fragmentCoverage).fresh =
      (requested.toList.foldl (Freshness.applyRequest restored
        ((state.retain snapshot).fresh ∪ (state.retain snapshot).stale))
        (state.retain snapshot)).fresh := by
    cases fragmentCoverage <;> rfl
  rw [h, Freshness.mem_fresh_applyRequests]
  simp [Freshness.retain]

theorem mem_stale_update :
    sourceSet ∈ (updateFreshness state snapshot requested restored fragmentCoverage).stale ↔
      if sourceSet ∈ requested then sourceSet ∉ restored ∧
        (sourceSet ∈ state.fresh ∨ sourceSet ∈ state.stale) ∧ sourceSet ∈ snapshot
      else sourceSet ∈ state.stale ∧ sourceSet ∈ snapshot := by
  have h : (updateFreshness state snapshot requested restored fragmentCoverage).stale =
      (requested.toList.foldl (Freshness.applyRequest restored
        ((state.retain snapshot).fresh ∪ (state.retain snapshot).stale))
        (state.retain snapshot)).stale := by
    cases fragmentCoverage <;> rfl
  rw [h, Freshness.mem_stale_applyRequests (by simp +contextual [Freshness.retain])]
  simp [Freshness.retain, or_and_right]

end Update

theorem mergeDatabaseCoverage_ok {previous fragment : RestorationReport}
    {requested restored : SourceSets} {coverage : RestorationDatabaseCoverage}
    (h : mergeDatabaseCoverage previous fragment requested restored = .ok coverage) :
    ∃ acquisition state, fragment.acquisition = some acquisition ∧
      previousFreshness previous acquisition.inventory = .ok state ∧
      coverage.isValid = true ∧
      coverage = (updateFreshness state acquisition.inventory requested restored
        fragment.databaseCoverage).coverage acquisition.inventory := by
  unfold mergeDatabaseCoverage at h
  cases hacquisition : fragment.acquisition with
  | none => simp [hacquisition] at h
  | some acquisition =>
    simp only [hacquisition] at h
    cases hstate : previousFreshness previous acquisition.inventory with
    | error error => simp [hstate] at h
    | ok state =>
      simp only [hstate] at h
      split_ifs at h with hvalid
      obtain rfl := Except.ok.inj h
      exact ⟨acquisition, state, rfl, hstate, by simpa using hvalid, rfl⟩

theorem isValid_fresh {coverage : RestorationDatabaseCoverage} (h : coverage.isValid = true)
    {sourceSet : String} (hfresh : sourceSet ∈ coverage.freshSourceSetIds) :
    sourceSet ∈ coverage.snapshotSourceSetIds := by
  simp only [RestorationDatabaseCoverage.isValid, Bool.and_eq_true, List.all_eq_true,
    ExtTreeSet.mem_toList, ExtTreeSet.mem_ofList, List.contains_iff_mem,
    ExtTreeSet.contains_ofList] at h
  tauto

theorem successfullyRestored_subset {fragment : RestorationReport}
    {requested selected : SourceSets}
    (h : successfullyRestoredSourceSets fragment requested = .ok selected) {sourceSet : String}
    (hmem : sourceSet ∈ selected) : sourceSet ∈ requested := by
  unfold successfullyRestoredSourceSets at h
  cases hcoverage : fragment.databaseCoverage with
  | none =>
    simp only [hcoverage, Except.ok.injEq] at h
    exact h ▸ hmem
  | some coverage =>
    simp only [hcoverage] at h
    split_ifs at h with hvalid hsubset
    obtain rfl := Except.ok.inj h
    simp only [isSubset, Bool.not_eq_true', Bool.not_eq_false, List.all_eq_true] at hsubset
    simpa using hsubset sourceSet (by simpa using hmem)

/-- What one merge leaves behind; `included` is what the archive before it included. -/
structure Generation where
  requested : SourceSets
  restored : SourceSets
  snapshot : SourceSets
  included : SourceSets

/-- An archive with the merges that led to it, newest first, and the source
sets its bootstrap restored. -/
structure MergeHistory where
  archive : RestorationArchive
  bootstrapRestored : SourceSets
  generations : List Generation

namespace MergeHistory

def included (history : MergeHistory) : SourceSets :=
  match history.archive.report.databaseCoverage with
  | none => history.bootstrapRestored
  | some coverage => coverage.includedSourceSetIds

/-- Whether the latest merge that requested the source set restored it; the
bootstrap requested every source set there was. -/
def RestoredWhenLastRequested (history : MergeHistory) (sourceSet : String) : Prop :=
  match history.generations.find? (·.requested.contains sourceSet) with
  | some generation => sourceSet ∈ generation.restored
  | none => sourceSet ∈ history.bootstrapRestored

def step (environment : Environment) (history : MergeHistory) (fragment : RestorationArchive) :
    MergeHistory :=
  match mergeIncrementalArchive environment history.archive fragment, mergeScope fragment.report with
  | .ok merged, .ok scope =>
    { history with
      archive := merged
      generations :=
        { requested := scope.requested
          restored := scope.selected
          snapshot := scope.acquisition.inventory
          included := history.included } :: history.generations }
  | _, _ => history

/-- A bootstrap restoration: it preserved nothing and, where it carries
evidence, lists what it restored. Older ones carry none. -/
structure Bootstrapped (history : MergeHistory) : Prop where
  first : history.generations = []
  evidence : ∀ coverage, history.archive.report.databaseCoverage = some coverage →
    coverage.preservedStaleSourceSetIds = [] ∧
      ∀ sourceSet, sourceSet ∈ coverage.freshSourceSetIds ↔ sourceSet ∈ history.bootstrapRestored

/-- Without evidence, whatever the merge does not restore was in the bootstrap. -/
def Substantiated (history : MergeHistory) (fragment : RestorationArchive) : Prop :=
  history.archive.report.databaseCoverage.isSome ∨
    ∀ scope, mergeScope fragment.report = .ok scope → ∀ sourceSet ∈ scope.acquisition.inventory,
      sourceSet ∉ scope.selected → sourceSet ∈ history.bootstrapRestored

/-- The freshness evidence of a merged archive overstates nothing. -/
structure FreshnessSound (history : MergeHistory) (generation : Generation)
    (coverage : RestorationDatabaseCoverage) : Prop where
  valid : coverage.isValid = true
  fresh : ∀ sourceSet ∈ coverage.freshSourceSetIds,
    history.RestoredWhenLastRequested sourceSet
  stale : ∀ sourceSet ∈ coverage.preservedStaleSourceSetIds,
    sourceSet ∈ generation.included ∧ sourceSet ∈ generation.snapshot
  inventory : ∀ sourceSet, sourceSet ∈ generation.snapshot ↔
    sourceSet ∈ coverage.includedSourceSetIds ∨ sourceSet ∈ coverage.unavailableSourceSetIds

def NeverOverstated (history : MergeHistory) : Prop :=
  ∀ generation rest, history.generations = generation :: rest →
    ∃ coverage, history.archive.report.databaseCoverage = some coverage ∧
      FreshnessSound history generation coverage

/-- What a run keeps: fresh sets are backed by history, and an archive without
evidence is still the bootstrap. -/
structure Backed (history : MergeHistory) : Prop where
  fresh : ∀ coverage, history.archive.report.databaseCoverage = some coverage →
    ∀ sourceSet ∈ coverage.freshSourceSetIds, history.RestoredWhenLastRequested sourceSet
  legacy : history.archive.report.databaseCoverage = none → history.generations = []
  sound : history.NeverOverstated

theorem Bootstrapped.backed {history : MergeHistory} (h : history.Bootstrapped) :
    history.Backed := by
  refine ⟨?_, fun _ => h.first, ?_⟩
  · intro coverage hcoverage sourceSet hfresh
    simp only [RestoredWhenLastRequested, h.first, List.find?_nil]
    exact ((h.evidence coverage hcoverage).2 sourceSet).mp hfresh
  · intro generation rest hgenerations
    rw [h.first] at hgenerations
    cases hgenerations

theorem mem_coverage_fresh {state : Freshness} {snapshot : SourceSets} {sourceSet : String} :
    sourceSet ∈ (state.coverage snapshot).freshSourceSetIds ↔ sourceSet ∈ state.fresh := by
  simp [Freshness.coverage]

theorem mem_coverage_unavailable {state : Freshness} {snapshot : SourceSets}
    {sourceSet : String} :
    sourceSet ∈ (state.coverage snapshot).unavailableSourceSetIds ↔
      sourceSet ∈ snapshot ∧ sourceSet ∉ state.fresh := by
  simp [Freshness.coverage]

theorem mem_coverage_stale {state : Freshness} {snapshot : SourceSets} {sourceSet : String} :
    sourceSet ∈ (state.coverage snapshot).preservedStaleSourceSetIds ↔
      sourceSet ∈ state.stale ∧ sourceSet ∈ snapshot ∧ sourceSet ∉ state.fresh := by
  simp only [Freshness.coverage, ExtTreeSet.mem_toList, ExtTreeSet.mem_filter,
    ExtTreeSet.get_eq, ExtTreeSet.contains_iff_mem, ExtTreeSet.mem_diff_iff]
  exact ⟨fun ⟨hstale, hrest⟩ => ⟨hstale, hrest⟩, fun ⟨hstale, hrest⟩ => ⟨hstale, hrest⟩⟩

/-- The sets the previous evidence lists, as the merge reads it. -/
theorem mem_previousFreshness {history : MergeHistory} {snapshot : SourceSets}
    {state : Freshness} (h : previousFreshness history.archive.report snapshot = .ok state)
    {coverage : RestorationDatabaseCoverage}
    (hcoverage : history.archive.report.databaseCoverage = some coverage) (sourceSet : String) :
    (sourceSet ∈ state.fresh ↔ sourceSet ∈ coverage.freshSourceSetIds) ∧
      (sourceSet ∈ state.stale ↔ sourceSet ∈ coverage.preservedStaleSourceSetIds) := by
  simp only [previousFreshness, hcoverage] at h
  split_ifs at h with hvalid
  obtain rfl := Except.ok.inj h
  simp [Freshness.ofCoverage]

/-- One substantiated merge. -/
theorem Backed.step {environment : Environment} {history : MergeHistory}
    {fragment : RestorationArchive} (h : history.Backed)
    (hguard : history.Substantiated fragment) :
    (MergeHistory.step environment history fragment).Backed := by
  unfold MergeHistory.step
  cases hmerge : mergeIncrementalArchive environment history.archive fragment with
  | error error => exact h
  | ok merged =>
    obtain ⟨trace, htrace⟩ := mergeIncrementalArchive_ok hmerge
    simp only [htrace.scope]
    obtain ⟨hacquisition, -, hselected, -⟩ := mergeScope_ok htrace.scope
    obtain ⟨acquisition, state, hfound, hstate, hvalid, hcoverage⟩ :=
      mergeDatabaseCoverage_ok htrace.databaseCoverage
    obtain rfl : trace.scope.acquisition = acquisition :=
      Option.some.inj (hacquisition.symm.trans hfound)
    have hreport : merged.report.databaseCoverage = some trace.databaseCoverage := by
      rw [htrace.merged]
      rfl
    have hsubset : ∀ {sourceSet}, sourceSet ∈ trace.scope.selected →
        sourceSet ∈ trace.scope.requested := successfullyRestored_subset hselected
    -- Without evidence the merge reads every set of the snapshot as fresh before it.
    have hincluded : ∀ sourceSet, sourceSet ∉ trace.scope.selected →
        sourceSet ∈ trace.scope.acquisition.inventory →
        sourceSet ∈ state.fresh ∨ sourceSet ∈ state.stale → sourceSet ∈ history.included := by
      intro sourceSet hrestored hsnapshot hread
      unfold included
      cases hprevious : history.archive.report.databaseCoverage with
      | none =>
        obtain hsome | hall := hguard
        · rw [hprevious] at hsome
          cases hsome
        · exact hall trace.scope htrace.scope sourceSet hsnapshot hrestored
      | some previous =>
        obtain ⟨hfresh, hstale⟩ := mem_previousFreshness hstate hprevious sourceSet
        rw [hfresh, hstale] at hread
        simpa [RestorationDatabaseCoverage.includedSourceSetIds] using hread
    have hlast : ∀ sourceSet, sourceSet ∉ trace.scope.requested →
        sourceSet ∈ trace.scope.acquisition.inventory → sourceSet ∈ state.fresh →
        history.RestoredWhenLastRequested sourceSet := by
      intro sourceSet hrequested hsnapshot hread
      cases hprevious : history.archive.report.databaseCoverage with
      | none =>
        have hmem := hincluded sourceSet (fun hs => hrequested (hsubset hs)) hsnapshot (.inl hread)
        simp only [included, hprevious] at hmem
        simpa only [RestoredWhenLastRequested, h.legacy hprevious, List.find?_nil] using hmem
      | some previous =>
        exact h.fresh previous hprevious sourceSet
          ((mem_previousFreshness hstate hprevious sourceSet).1.mp hread)
    have hfresh : ∀ sourceSet ∈ trace.databaseCoverage.freshSourceSetIds,
        RestoredWhenLastRequested
          { history with
            archive := merged
            generations :=
              ⟨trace.scope.requested, trace.scope.selected, trace.scope.acquisition.inventory,
                history.included⟩ :: history.generations } sourceSet := by
      intro sourceSet hmem
      rw [hcoverage, mem_coverage_fresh, mem_fresh_update] at hmem
      unfold RestoredWhenLastRequested
      by_cases hrequested : sourceSet ∈ trace.scope.requested
      · rw [if_pos hrequested] at hmem
        simpa [List.find?_cons, hrequested] using hmem
      · rw [if_neg hrequested] at hmem
        have hbefore := hlast sourceSet hrequested hmem.2 hmem.1
        unfold RestoredWhenLastRequested at hbefore
        simpa [List.find?_cons, hrequested] using hbefore
    refine ⟨?_, ?_, ?_⟩
    · intro coverage hsome
      obtain rfl := Option.some.inj (hreport.symm.trans hsome)
      exact hfresh
    · intro hnone
      rw [hreport] at hnone
      cases hnone
    · rintro generation rest hgenerations
      obtain ⟨rfl, rfl⟩ := List.cons.inj hgenerations
      refine ⟨trace.databaseCoverage, hreport, hcoverage ▸ hvalid, hfresh, ?_, ?_⟩
      · intro sourceSet hmem
        rw [hcoverage, mem_coverage_stale, mem_stale_update, mem_fresh_update] at hmem
        obtain ⟨hstale, hsnapshot, hunfresh⟩ := hmem
        refine ⟨?_, hsnapshot⟩
        by_cases hrequested : sourceSet ∈ trace.scope.requested
        · rw [if_pos hrequested] at hstale
          exact hincluded sourceSet hstale.1 hsnapshot hstale.2.1
        · rw [if_neg hrequested] at hstale
          exact hincluded sourceSet (fun hs => hrequested (hsubset hs)) hsnapshot
            (.inr hstale.1)
      · intro sourceSet
        have hinside : sourceSet ∈ trace.databaseCoverage.freshSourceSetIds →
            sourceSet ∈ trace.scope.acquisition.inventory := by
          intro hmem
          have hlisted := isValid_fresh (hcoverage ▸ hvalid) hmem
          rw [hcoverage] at hlisted
          simpa [Freshness.coverage] using hlisted
        rw [RestorationDatabaseCoverage.includedSourceSetIds, ExtTreeSet.mem_ofList,
          List.contains_iff_mem, List.mem_append]
        constructor
        · intro hsnapshot
          by_cases hmem : sourceSet ∈ trace.databaseCoverage.freshSourceSetIds
          · exact .inl (.inl hmem)
          · rw [hcoverage, mem_coverage_fresh] at hmem
            rw [hcoverage, mem_coverage_unavailable]
            exact .inr ⟨hsnapshot, hmem⟩
        · rintro ((hmem | hmem) | hmem)
          · exact hinside hmem
          · rw [hcoverage, mem_coverage_stale] at hmem
            exact hmem.2.1
          · rw [hcoverage, mem_coverage_unavailable] at hmem
            exact hmem.1

/-- In a run whose merges are all substantiated, freshness is never overstated. -/
theorem freshness_never_overstated (environment : Environment) (history : MergeHistory)
    (fragments : List RestorationArchive) (hbootstrap : history.Bootstrapped)
    (hmeets : Meets (MergeHistory.step environment) Substantiated history fragments) :
    (execute (MergeHistory.step environment) history fragments).NeverOverstated :=
  have hstep : ∀ (history : MergeHistory) (fragment : RestorationArchive), history.Backed →
      history.Substantiated fragment → (MergeHistory.step environment history fragment).Backed :=
    fun _ _ hbacked hguard => hbacked.step hguard
  (Meets.invariant _ hstep hmeets hbootstrap.backed).sound

/-! A bootstrap of one database, with and without evidence, and a fragment whose
snapshot adds a second database that could not be opened. -/

def firstDatabase : SnapshotSourceSetInventory := ⟨"set-a", "message/message_0.db"⟩

def secondDatabase : SnapshotSourceSetInventory := ⟨"set-b", "message/message_1.db"⟩

def bootstrapAcquisition : SnapshotAcquisitionEvidence where
  mode := .bootstrap
  previousSourceFingerprint := none
  changedSourceSetIds := ["set-a"]
  reconciliationSourceSetIds := []
  deletedSourceSetIds := []
  sourceSets := [firstDatabase]

def firstDatabaseCoverage : RestorationDatabaseCoverage where
  formatVersion := 1
  totalDatabaseCount := 1
  attemptedDatabaseCount := 1
  restoredDatabaseCount := 1
  unavailableDatabaseCount := 0
  preservedStaleDatabaseCount := 0
  authoritativeDatabaseCoverage := true
  snapshotSourceSetIds := ["set-a"]
  attemptedSourceSetIds := ["set-a"]
  freshSourceSetIds := ["set-a"]
  unavailableSourceSetIds := []
  preservedStaleSourceSetIds := []
  unavailableDatabases := []

def bootstrapOf (coverage : Option RestorationDatabaseCoverage) : MergeHistory where
  archive := emptyArchive (emptyReport "first" bootstrapAcquisition .authoritative coverage)
  bootstrapRestored := .ofList ["set-a"]
  generations := []

def unopenedDatabaseFragment : RestorationArchive :=
  emptyArchive (emptyReport "second"
    { mode := .incremental
      previousSourceFingerprint := some "first"
      changedSourceSetIds := ["set-b"]
      reconciliationSourceSetIds := []
      deletedSourceSetIds := []
      sourceSets := [firstDatabase, secondDatabase] }
    .incrementalFragment
    (some
      { formatVersion := 1
        totalDatabaseCount := 2
        attemptedDatabaseCount := 1
        restoredDatabaseCount := 0
        unavailableDatabaseCount := 1
        preservedStaleDatabaseCount := 0
        authoritativeDatabaseCoverage := false
        snapshotSourceSetIds := ["set-a", "set-b"]
        attemptedSourceSetIds := ["set-b"]
        freshSourceSetIds := []
        unavailableSourceSetIds := ["set-b"]
        preservedStaleSourceSetIds := []
        unavailableDatabases := [⟨"set-b", "message/message_1.db", "wcdbSqlcipher4", 4096, 0,
          "database became unavailable during restoration and was omitted"⟩] }))

theorem bootstrapOf_bootstrapped {coverage : Option RestorationDatabaseCoverage}
    (h : ∀ found, coverage = some found → found = firstDatabaseCoverage) :
    (bootstrapOf coverage).Bootstrapped := by
  refine ⟨rfl, ?_⟩
  intro found hfound
  obtain rfl := h found hfound
  refine ⟨rfl, fun sourceSet => ?_⟩
  simp only [firstDatabaseCoverage, bootstrapOf, List.mem_singleton, ExtTreeSet.mem_ofList,
    List.contains_iff_mem]

/-- With evidence in the bootstrap the unopened database is listed as unavailable only. -/
theorem freshness_never_overstated_unopened :
    (execute (step sampleEnvironment) (bootstrapOf (some firstDatabaseCoverage))
        [unopenedDatabaseFragment]).generations.length = 1 ∧
      (execute (step sampleEnvironment) (bootstrapOf (some firstDatabaseCoverage))
        [unopenedDatabaseFragment]).NeverOverstated :=
  ⟨by decide +kernel,
    freshness_never_overstated sampleEnvironment (bootstrapOf (some firstDatabaseCoverage))
      [unopenedDatabaseFragment]
      (bootstrapOf_bootstrapped fun _ hfound => (Option.some.inj hfound).symm)
      ⟨.inl rfl, trivial⟩⟩

/-- Without evidence in the bootstrap the merge lists the unopened database,
which no archive ever included, as preserved from an earlier generation. -/
theorem freshness_overstated_after_legacy :
    (bootstrapOf none).Bootstrapped ∧
      ¬(execute (step sampleEnvironment) (bootstrapOf none)
        [unopenedDatabaseFragment]).NeverOverstated := by
  refine ⟨bootstrapOf_bootstrapped (by simp), fun h => ?_⟩
  have hstale : (execute (step sampleEnvironment) (bootstrapOf none)
      [unopenedDatabaseFragment]).archive.report.databaseCoverage.map
        (·.preservedStaleSourceSetIds) = some ["set-b"] := by decide +kernel
  have hincluded : (execute (step sampleEnvironment) (bootstrapOf none)
      [unopenedDatabaseFragment]).generations.map (·.included.toList) = [["set-a"]] := by
    decide +kernel
  obtain ⟨generation, rest, hgenerations, hgeneration, -⟩ := List.map_eq_cons_iff.mp hincluded
  obtain ⟨coverage, hcoverage, hsound⟩ := h generation rest hgenerations
  rw [hcoverage, Option.map_some, Option.some.injEq] at hstale
  have hmem := (hsound.stale "set-b" (by simp [hstale])).1
  rw [← ExtTreeSet.mem_toList, hgeneration] at hmem
  simp at hmem

end MergeHistory

end GreenBubbles.Merge
