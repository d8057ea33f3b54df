import GreenBubbles.Memory.Assignment
import Mathlib.Data.List.FinRange

/-! # The coverage of a selection

Each message of a conversation is given one outcome, in whatever way the
conversation falls into months and sessions. The counters hold the sizes.
-/
namespace GreenBubbles.Memory

open Library Library.Cut Library.Grouping Library.Ordered SelectionRules
open LiveQuery (CorpusMessageMetadata CorpusMetadataScan QueryWarning)

namespace SelectionRules

variable {rules : SelectionRules} {messages : List CorpusMessageMetadata}
  {conversation : CorpusConversation}

/-! Placing the messages in months -/

/-- The failures of a message: its metadata may not fit together. -/
def failureCount (message : CorpusMessageMetadata) : ℕ := if inconsistent message then 1 else 0

structure Places (rules : SelectionRules) (messages : List CorpusMessageMetadata)
    (indices : List (Index messages)) (earlier later : Placement messages) : Prop where
  placed : later.placed = earlier.placed ++ indices.filterMap (rules.place messages)
  counts : ∀ outcome, Adds outcome earlier.coverage later.coverage
    ((indices.filterMap (rules.excluded messages)).count outcome +
      if outcome = .outsideCalendar then
        (indices.map fun index => failureCount (messages.get index)).sum else 0)
  scanned : later.coverage.scannedMessageCount = earlier.coverage.scannedMessageCount

/-- What counts for one reason. -/
theorem count_toList (reason : Option Outcome) (outcome : Outcome) :
    reason.toList.count outcome = if reason = some outcome then 1 else 0 := by
  cases reason with
  | none => rfl
  | some outcome' =>
    by_cases h : outcome' = outcome <;> simp [h]

theorem checkActor_counts (placement : Placement messages) (message : CorpusMessageMetadata)
    (outcome : Outcome) : Adds outcome placement.coverage (placement.checkActor message).coverage
      (if outcome = .outsideCalendar then failureCount message else 0) := by
  unfold Placement.checkActor failureCount
  by_cases hinconsistent : inconsistent message = true
  · rw [if_pos hinconsistent, if_pos hinconsistent]
    have hadds := @Adds.count outcome placement.coverage .outsideCalendar 1
    simp only [eq_comm (a := Outcome.outsideCalendar)] at hadds
    by_cases houtcome : outcome = .outsideCalendar
    · subst houtcome
      exact hadds
    · rw [if_neg houtcome] at hadds ⊢
      cases outcome <;> exact hadds
  · rw [if_neg hinconsistent, if_neg hinconsistent, ite_self]
    exact Adds.of_eq rfl

theorem checkActor_rest (placement : Placement messages) (message : CorpusMessageMetadata) :
    (placement.checkActor message).placed = placement.placed ∧
      (placement.checkActor message).coverage.scannedMessageCount =
        placement.coverage.scannedMessageCount := by
  unfold Placement.checkActor
  split_ifs
  · exact ⟨rfl, rfl⟩
  · exact ⟨rfl, rfl⟩

theorem placeMessage_places (placement : Placement messages) (index : Index messages) :
    Places rules messages [index] placement (rules.placeMessage messages placement index) := by
  obtain ⟨hplaced, hscanned⟩ := checkActor_rest placement (messages.get index)
  -- what the message adds besides its failures
  have hone : ∀ later : PersonalMemoryCoverage,
      (∀ outcome, Adds outcome (placement.checkActor (messages.get index)).coverage later
        ((rules.excluded messages index).toList.count outcome)) →
      ∀ outcome, Adds outcome placement.coverage later
        (([index].filterMap (rules.excluded messages)).count outcome +
          if outcome = .outsideCalendar then
            ([index].map fun index => failureCount (messages.get index)).sum else 0) := by
    intro later hadds outcome
    have hlist : [index].filterMap (rules.excluded messages) =
        (rules.excluded messages index).toList := by
      cases hexcluded : rules.excluded messages index <;> simp [hexcluded]
    rw [hlist, List.map_singleton, List.sum_singleton, Nat.add_comm]
    exact (checkActor_counts placement (messages.get index) outcome).trans (hadds outcome)
  have hplace : [index].filterMap (rules.place messages) = (rules.place messages index).toList := by
    cases hplace : rules.place messages index <;> simp [hplace]
  unfold placeMessage
  by_cases houtside : rules.outsideTimeRange (messages.get index).location.createTime = true
  · have hexcluded : rules.excluded messages index = some .outsideTimeRange := if_pos houtside
    have hnone : rules.place messages index = none := if_pos houtside
    simp only [if_pos houtside]
    refine ⟨?_, hone _ fun outcome => ?_, ?_⟩
    · rw [hplace, hnone, hplaced]
      exact (List.append_nil _).symm
    · rw [hexcluded, count_toList]
      simpa only [Option.some.injEq] using Adds.count .outsideTimeRange 1
    · rw [scanned_count]
      exact hscanned
  · simp only [if_neg houtside]
    cases hmonth : rules.month (messages.get index).location.createTime with
    | none =>
      have hexcluded : rules.excluded messages index = some .outsideCalendar := by
        unfold excluded
        simp only [if_neg houtside, hmonth, Option.isNone_none, if_true]
      have hnone : rules.place messages index = none := by
        unfold place
        simp only [if_neg houtside, hmonth, Option.map_none]
      refine ⟨?_, hone _ fun outcome => ?_, hscanned⟩
      · rw [hplace, hnone]
        exact hplaced.trans (List.append_nil _).symm
      rw [hexcluded, count_toList]
      have hadds := @Adds.count outcome (placement.checkActor (messages.get index)).coverage
        .outsideCalendar 1
      simp only [Option.some.injEq]
      cases outcome <;> exact hadds
    | some month =>
      have hexcluded : rules.excluded messages index = none := by
        unfold excluded
        simp only [if_neg houtside, hmonth, Option.isNone_some, Bool.false_eq_true, if_false]
      have hsome : rules.place messages index = some (month, index) := by
        unfold place
        simp only [if_neg houtside, hmonth, Option.map_some]
      refine ⟨?_, hone _ fun outcome => ?_, ?_⟩
      · rw [hplace, hsome, hplaced]
        rfl
      · rw [hexcluded]
        exact Adds.of_eq (counter_admitMessage _ _ _)
      · rw [← hscanned]
        rcases (messages.get index).isAccountHolder with _ | _ | _ <;> rfl

theorem placeMessages_places (indices : List (Index messages)) (placement : Placement messages) :
    Places rules messages indices placement
      (indices.foldl (rules.placeMessage messages) placement) := by
  induction indices generalizing placement with
  | nil =>
    refine ⟨by simp, fun outcome => ?_, rfl⟩
    simp only [List.filterMap_nil, List.count_nil, List.map_nil, List.sum_nil, ite_self, Nat.add_zero]
    exact Adds.of_eq rfl
  | cons index indices ih =>
    have hstep := @placeMessage_places rules messages placement index
    have hrest := ih (rules.placeMessage messages placement index)
    rw [List.foldl_cons]
    refine ⟨?_, fun outcome => ?_, hrest.scanned.trans hstep.scanned⟩
    · rw [hrest.placed, hstep.placed, List.append_assoc, ← List.filterMap_append,
        List.singleton_append]
    · have hadds := (hstep.counts outcome).trans (hrest.counts outcome)
      have hsum : (((index :: indices).filterMap (rules.excluded messages)).count outcome +
          if outcome = .outsideCalendar then
            ((index :: indices).map fun index => failureCount (messages.get index)).sum else 0) =
          (([index].filterMap (rules.excluded messages)).count outcome +
            if outcome = .outsideCalendar then
              ([index].map fun index => failureCount (messages.get index)).sum else 0) +
          ((indices.filterMap (rules.excluded messages)).count outcome +
            if outcome = .outsideCalendar then
              (indices.map fun index => failureCount (messages.get index)).sum else 0) := by
        rw [← List.singleton_append, List.filterMap_append, List.count_append, List.map_append,
          List.sum_append]
        split_ifs <;> omega
      rwa [hsum]

/-! Conversations -/

theorem place_isSome (index : Index messages) :
    (rules.place messages index).isSome = (rules.excluded messages index).isNone := by
  unfold place excluded
  by_cases houtside : rules.outsideTimeRange (messages.get index).location.createTime = true
  · simp only [if_pos houtside]
    rfl
  · simp only [if_neg houtside]
    cases rules.month (messages.get index).location.createTime <;> rfl

theorem place_snd {index : Index messages} {placed : MonthKey × Index messages}
    (h : rules.place messages index = some placed) : placed.2 = index := by
  unfold place at h
  simp only at h
  split_ifs at h
  obtain ⟨month, -, rfl⟩ := Option.map_eq_some_iff.mp h
  rfl

theorem placed_snd (indices : List (Index messages)) :
    (indices.filterMap (rules.place messages)).map Prod.snd =
      indices.filter fun index => (rules.excluded messages index).isNone := by
  induction indices with
  | nil => rfl
  | cons index indices ih =>
    have hsome := @place_isSome rules messages index
    cases hplace : rules.place messages index with
    | none =>
      rw [hplace, Option.isSome_none] at hsome
      rw [List.filterMap_cons_none hplace, List.filter_cons_of_neg (by simp [← hsome]), ih]
    | some placed =>
      rw [hplace, Option.isSome_some] at hsome
      rw [List.filterMap_cons_some hplace, List.filter_cons_of_pos (by simpa using hsome.symm),
        List.map_cons, ih, place_snd hplace]

/-- The months together hold what falls into a month. -/
theorem months_perm : ((rules.months messages).flatMap Prod.snd).Perm
    ((List.finRange messages.length).filter fun index => (rules.excluded messages index).isNone) := by
  have hgrouped := (@grouped_perm _ _ _ _ _ Prod.fst MonthKey.order
    ((List.finRange messages.length).filterMap (rules.place messages))).map Prod.snd
  rw [placed_snd, List.map_flatMap] at hgrouped
  rw [months, monthIndices, List.flatMap_map]
  exact hgrouped

theorem months_nodup : ∀ entry ∈ rules.months messages, entry.2.Nodup := by
  intro entry hentry
  have hall : ((rules.months messages).flatMap Prod.snd).Nodup :=
    months_perm.nodup_iff.mpr ((List.nodup_finRange _).filter _)
  exact (List.nodup_flatMap.mp hall).1 entry hentry

/-- Every message of a conversation gets exactly one outcome. -/
theorem outcomes_perm : ((rules.outcomes messages conversation).map Prod.fst).Perm
    (List.finRange messages.length) := by
  have hexcluded : ∀ indices : List (Index messages), (indices.filterMap fun index =>
      (rules.excluded messages index).map fun outcome => (index, outcome)).map Prod.fst =
        indices.filter fun index => (rules.excluded messages index).isSome := by
    intro indices
    induction indices with
    | nil => rfl
    | cons index indices ih =>
      cases hreason : rules.excluded messages index with
      | none => rw [List.filterMap_cons_none (by rw [hreason]; rfl), List.filter_cons_of_neg
          (by simp [hreason]), ih]
      | some reason => rw [List.filterMap_cons_some (by rw [hreason]; rfl), List.filter_cons_of_pos
          (by simp [hreason]), List.map_cons, ih]
  rw [outcomes, List.map_append, hexcluded, List.map_flatMap]
  simp only [monthOutcomes_fst]
  refine (List.Perm.append_left _ months_perm).trans ?_
  refine List.perm_append_comm.trans ?_
  have hsplit := List.filter_append_perm
    (fun index => (rules.excluded messages index).isNone) (List.finRange messages.length)
  simpa using hsplit

/-- The drafts of a conversation. -/
def messageDrafts (rules : SelectionRules) (messages : List CorpusMessageMetadata)
    (conversation : CorpusConversation) : List EpisodeDraft :=
  (rules.months messages).flatMap fun entry => (rules.monthParts messages
    (sessionBounds rules.policy conversation.kind) (rules.active messages entry.2) entry.2).map
      (draft messages conversation entry.1)

theorem selectMessages_records (selection : Selection) :
    Records ((rules.outcomes messages conversation).map Prod.snd)
      ((List.finRange messages.length).map fun index => failureCount (messages.get index)).sum
      (rules.messageDrafts messages conversation) selection
      (rules.selectMessages messages conversation selection) := by
  have hplaces := @placeMessages_places rules messages (List.finRange messages.length)
    ⟨selection.coverage, selection.limitationCodes, []⟩
  unfold selectMessages
  set placement := (List.finRange messages.length).foldl (rules.placeMessage messages)
    ⟨selection.coverage, selection.limitationCodes, []⟩ with hplacement
  have hmonths : monthIndices messages placement.placed = rules.months messages := by
    rw [hplaces.placed, List.nil_append]
    rfl
  simp only [hmonths]
  have hplacing : Records ((List.finRange messages.length).filterMap (rules.excluded messages))
      ((List.finRange messages.length).map fun index => failureCount (messages.get index)).sum []
      selection { selection with
        coverage := placement.coverage
        limitationCodes := placement.limitationCodes } :=
    ⟨hplaces.counts, hplaces.scanned, (List.append_nil _).symm⟩
  have hrest := @selectMonths_records rules messages conversation
    (rules.recentConversationEligible messages (rules.months messages)) (rules.months messages)
    { selection with
      coverage := placement.coverage
      limitationCodes := placement.limitationCodes } months_nodup
  have houtcomes : (rules.outcomes messages conversation).map Prod.snd =
      (List.finRange messages.length).filterMap (rules.excluded messages) ++
        ((rules.months messages).flatMap fun entry => rules.monthOutcomes messages
          (sessionBounds rules.policy conversation.kind)
          (rules.active messages entry.2) entry.2).map Prod.snd := by
    have hsnd : ((List.finRange messages.length).filterMap fun index =>
        (rules.excluded messages index).map fun outcome => (index, outcome)).map Prod.snd =
          (List.finRange messages.length).filterMap (rules.excluded messages) := by
      rw [List.map_filterMap]
      congr 1
      funext index
      rw [Option.map_map]
      exact Option.map_id'
    rw [outcomes, List.map_append, hsnd]
  rw [houtcomes]
  exact hplacing.trans hrest

end SelectionRules

section Conversations

variable {rules : SelectionRules}

/-- The rows of a scan that failed. -/
def failedRows (scan : CorpusMetadataScan) : ℕ :=
  (scan.warnings.map fun warning =>
    if warning.code == "corpusMetadataRowFailed" then warning.count.getD 1 else 0).sum

/-- The outcomes of a conversation, message by message. -/
def SelectionRules.conversationOutcomes (rules : SelectionRules)
    (scanned : CorpusConversation × CorpusMetadataScan) :
    List (CorpusMessageMetadata × Outcome) :=
  let messages := sortBy chronologicalMetadataKey scanned.2.messages
  if conversationEnabled scanned.1 rules.policy rules.corpusMode then
    (rules.outcomes messages scanned.1).map fun entry => ((messages.get entry.1), entry.2)
  else scanned.2.messages.map (·, .filteredConversation)

/-- The failures counted for a conversation besides the messages outside the calendar. -/
def SelectionRules.conversationFailures (rules : SelectionRules)
    (scanned : CorpusConversation × CorpusMetadataScan) : ℕ :=
  failedRows scanned.2 +
    if conversationEnabled scanned.1 rules.policy rules.corpusMode then
      scanned.2.messages.countP SelectionRules.inconsistent
    else 0

def SelectionRules.conversationDrafts (rules : SelectionRules)
    (scanned : CorpusConversation × CorpusMetadataScan) : List EpisodeDraft :=
  if conversationEnabled scanned.1 rules.policy rules.corpusMode then
    rules.messageDrafts (sortBy chronologicalMetadataKey scanned.2.messages) scanned.1
  else []

theorem conversationOutcomes_perm (scanned : CorpusConversation × CorpusMetadataScan) :
    ((rules.conversationOutcomes scanned).map Prod.fst).Perm scanned.2.messages := by
  unfold SelectionRules.conversationOutcomes
  by_cases henabled : conversationEnabled scanned.1 rules.policy rules.corpusMode = true
  · simp only [if_pos henabled]
    have hperm := (@SelectionRules.outcomes_perm rules
      (sortBy chronologicalMetadataKey scanned.2.messages) scanned.1).map fun index =>
        (sortBy chronologicalMetadataKey scanned.2.messages)[index]
    rw [List.map_map] at hperm ⊢
    refine hperm.trans ?_
    have hall : (List.finRange (sortBy chronologicalMetadataKey scanned.2.messages).length).map
        (fun index => (sortBy chronologicalMetadataKey scanned.2.messages)[index]) =
          sortBy chronologicalMetadataKey scanned.2.messages := List.map_getElem_finRange _
    rw [hall]
    exact sortBy_perm _ _
  · simp only [if_neg henabled]
    simp [Function.comp_def]

theorem sum_failureCount (messages : List CorpusMessageMetadata) :
    ((List.finRange messages.length).map fun index =>
      SelectionRules.failureCount (messages.get index)).sum =
        messages.countP SelectionRules.inconsistent := by
  have hall : (List.finRange messages.length).map (fun index =>
      SelectionRules.failureCount (messages.get index)) = messages.map SelectionRules.failureCount := by
    conv_rhs => rw [← List.map_getElem_finRange messages]
    rw [List.map_map]
    rfl
  rw [hall]
  clear hall
  induction messages with
  | nil => rfl
  | cons message messages ih =>
    rw [List.map_cons, List.sum_cons, ih, List.countP_cons, Nat.add_comm]
    rfl

theorem noteWarnings_records (warnings : List QueryWarning) (selection : Selection) :
    Records [] (warnings.map fun warning =>
        if warning.code == "corpusMetadataRowFailed" then warning.count.getD 1 else 0).sum []
      selection (warnings.foldl SelectionRules.noteWarning selection) := by
  induction warnings generalizing selection with
  | nil => exact Records.refl selection
  | cons warning warnings ih =>
    have hstep : Records [] (if warning.code == "corpusMetadataRowFailed" then
        warning.count.getD 1 else 0) [] selection (SelectionRules.noteWarning selection warning) := by
      refine ⟨fun outcome => ?_, ?_, (List.append_nil _).symm⟩
      · rw [List.count_nil, Nat.zero_add]
        by_cases hcode : (warning.code == "corpusMetadataRowFailed") = true
        · simp only [SelectionRules.noteWarning, if_pos hcode]
          have hadds := @Adds.count outcome selection.coverage .outsideCalendar
            (warning.count.getD 1)
          cases outcome <;> exact hadds
        · simp only [SelectionRules.noteWarning, if_neg hcode, ite_self]
          exact Adds.of_eq rfl
      · unfold SelectionRules.noteWarning
        split_ifs <;> rfl
    exact hstep.trans (ih _)

/-- A survey scans messages, gives them outcomes and drafts episodes. -/
structure Surveys (rules : SelectionRules)
    (inventory : List (CorpusConversation × CorpusMetadataScan)) (earlier later : Selection) :
    Prop where
  counts : ∀ outcome, Adds outcome earlier.coverage later.coverage
    ((inventory.flatMap fun scanned => (rules.conversationOutcomes scanned).map Prod.snd).count
      outcome + if outcome = .outsideCalendar then
        (inventory.map rules.conversationFailures).sum else 0)
  scanned : earlier.coverage.scannedMessageCount ≤ maximumCount →
    later.coverage.scannedMessageCount = min (earlier.coverage.scannedMessageCount +
      (inventory.flatMap fun scanned => scanned.2.messages).length) maximumCount
  drafts : later.episodeDrafts =
    earlier.episodeDrafts ++ inventory.flatMap rules.conversationDrafts

theorem selectConversation_surveys (selection : Selection)
    (scanned : CorpusConversation × CorpusMetadataScan) :
    Surveys rules [scanned] selection (rules.selectConversation selection scanned) := by
  obtain ⟨conversation, scan⟩ := scanned
  set opened : Selection := { selection with
    coverage := { selection.coverage with
      scannedMessageCount := saturatingAdd 64 selection.coverage.scannedMessageCount
        scan.messages.length
      sourceCoverageComplete :=
        selection.coverage.sourceCoverageComplete && scan.coverageComplete } } with hopened
  have hcounter : ∀ outcome, Adds outcome selection.coverage opened.coverage 0 := by
    intro outcome
    apply Adds.of_eq
    cases outcome <;> rfl
  have hwarnings := noteWarnings_records scan.warnings opened
  set noted := scan.warnings.foldl SelectionRules.noteWarning opened with hnoted
  have hscanned : opened.coverage.scannedMessageCount =
      min (selection.coverage.scannedMessageCount + scan.messages.length) maximumCount := rfl
  -- what the conversation adds behind its warnings decides the rest
  have hrest : ∀ later : Selection,
      Records ((rules.conversationOutcomes (conversation, scan)).map Prod.snd)
        (if conversationEnabled conversation rules.policy rules.corpusMode then
          scan.messages.countP SelectionRules.inconsistent else 0)
        (rules.conversationDrafts (conversation, scan)) noted later →
      Surveys rules [(conversation, scan)] selection later := by
    intro later hlater
    have hrecords := hwarnings.trans hlater
    rw [List.nil_append, List.nil_append] at hrecords
    refine ⟨fun outcome => ?_, fun _ => ?_, ?_⟩
    · have hadds := (hcounter outcome).trans (hrecords.counts outcome)
      rw [Nat.zero_add] at hadds
      rw [List.flatMap_singleton, List.map_singleton, List.sum_singleton]
      exact hadds
    · rw [hrecords.scanned, hscanned, List.flatMap_singleton]
    · rw [hrecords.drafts, List.flatMap_singleton]
  by_cases henabled : conversationEnabled conversation rules.policy rules.corpusMode = true
  · have hselected := @SelectionRules.selectMessages_records rules
      (sortBy chronologicalMetadataKey scan.messages) conversation noted
    have hresult : rules.selectConversation selection (conversation, scan) =
        rules.selectMessages (sortBy chronologicalMetadataKey scan.messages) conversation noted :=
      if_pos henabled
    rw [hresult]
    apply hrest
    rw [sum_failureCount, (sortBy_perm chronologicalMetadataKey scan.messages).countP_eq] at hselected
    simp only [SelectionRules.conversationOutcomes, SelectionRules.conversationDrafts,
      if_pos henabled, List.map_map]
    exact hselected
  · have hresult : rules.selectConversation selection (conversation, scan) =
        { noted with
          coverage := noted.coverage.count .filteredConversation scan.messages.length } :=
      if_neg henabled
    rw [hresult]
    apply hrest
    simp only [SelectionRules.conversationOutcomes, SelectionRules.conversationDrafts,
      if_neg henabled]
    refine ⟨fun outcome => ?_, scanned_count _ _ _, (List.append_nil _).symm⟩
    rw [ite_self, Nat.add_zero, ← countOf_eq_count, countOf_map_const]
    exact Adds.count _ _

theorem selectInventory_surveys (inventory : List (CorpusConversation × CorpusMetadataScan))
    (selection : Selection) :
    Surveys rules inventory selection (inventory.foldl rules.selectConversation selection) := by
  induction inventory generalizing selection with
  | nil =>
    refine ⟨fun outcome => ?_, fun hbound => ?_, (List.append_nil _).symm⟩
    · simp only [List.flatMap_nil, List.count_nil, List.map_nil, List.sum_nil, ite_self]
      exact Adds.of_eq rfl
    · rw [List.flatMap_nil, List.length_nil, Nat.add_zero, min_eq_left hbound]
      rfl
  | cons scanned inventory ih =>
    have hstep := @selectConversation_surveys rules selection scanned
    have hrest := ih (rules.selectConversation selection scanned)
    rw [List.foldl_cons]
    refine ⟨fun outcome => ?_, fun hbound => ?_, ?_⟩
    · have hadds := (hstep.counts outcome).trans (hrest.counts outcome)
      have hsum : ((scanned :: inventory).flatMap fun scanned =>
          (rules.conversationOutcomes scanned).map Prod.snd).count outcome +
            (if outcome = .outsideCalendar then
              ((scanned :: inventory).map rules.conversationFailures).sum else 0) =
          (([scanned].flatMap fun scanned =>
            (rules.conversationOutcomes scanned).map Prod.snd).count outcome +
              if outcome = .outsideCalendar then
                ([scanned].map rules.conversationFailures).sum else 0) +
          ((inventory.flatMap fun scanned =>
            (rules.conversationOutcomes scanned).map Prod.snd).count outcome +
              if outcome = .outsideCalendar then
                (inventory.map rules.conversationFailures).sum else 0) := by
        rw [← List.singleton_append, List.flatMap_append, List.count_append, List.map_append,
          List.sum_append]
        split_ifs <;> omega
      rwa [hsum]
    · have hfirst := hstep.scanned hbound
      have hle : (rules.selectConversation selection scanned).coverage.scannedMessageCount ≤
          maximumCount := by
        rw [hfirst]
        exact min_le_right _ _
      rw [List.flatMap_singleton] at hfirst
      rw [hrest.scanned hle, hfirst, List.flatMap_cons, List.length_append]
      omega
    · have hfirst := hstep.drafts
      rw [List.flatMap_singleton] at hfirst
      rw [hrest.drafts, hfirst, List.flatMap_cons, List.append_assoc]

end Conversations

end GreenBubbles.Memory
