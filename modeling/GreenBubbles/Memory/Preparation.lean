import GreenBubbles.Memory.Coherence

/-! # What a preparation delivers

Of an accepted policy and any inventory the selection makes a partition, and
what is published of it are units within their bounds.
-/
namespace GreenBubbles.Memory

open Library Library.Grouping Library.Ordered SelectionRules
open LiveQuery (CorpusMessageLocation CorpusMessageMetadata CorpusMetadataScan)

section Selecting

variable {rules : SelectionRules} {inventory : List (CorpusConversation × CorpusMetadataScan)}

/-- In a corpus of all messages what falls into a month is selected. -/
theorem outcomes_selected {messages : List CorpusMessageMetadata}
    {conversation : CorpusConversation} (hall : rules.corpusMode = .allMessages)
    (htimes : rules.policy.notBeforeUnix = none ∧ rules.policy.notAfterUnix = none) :
    ∀ entry ∈ rules.outcomes messages conversation,
      (rules.month (messages.get entry.1).location.createTime).isSome → entry.2 = .selected := by
  intro entry hentry hmonth
  rcases List.mem_append.mp hentry with hexcluded | hplaced
  · obtain ⟨index, -, hreason⟩ := List.mem_filterMap.mp hexcluded
    obtain ⟨outcome, houtcome, rfl⟩ := Option.map_eq_some_iff.mp hreason
    have hinside : rules.outsideTimeRange (messages.get index).location.createTime = false := by
      rw [outsideTimeRange, htimes.1, htimes.2]
      rfl
    obtain ⟨month, hmonth⟩ := Option.isSome_iff_exists.mp hmonth
    simp only [excluded, hinside, hmonth, Bool.false_eq_true, if_false, Option.isNone_some] at houtcome
    cases houtcome
  · obtain ⟨⟨month, indices⟩, -, hentry⟩ := List.mem_flatMap.mp hplaced
    have hactive : rules.active messages indices = true := by
      simp only [active, activeMonth, recentConversationEligible, hall, beq_self_eq_true,
        Bool.true_or, Bool.and_self]
    rw [monthOutcomes, if_pos hactive] at hentry
    obtain ⟨session, -, hentry⟩ := List.mem_flatMap.mp hentry
    rw [sessionOutcomes, if_pos hall] at hentry
    obtain ⟨index, -, rfl⟩ := List.mem_map.mp hentry
    rfl

/-- The counters are the sizes of the classes, as far as a counter can grow. -/
structure Partitions (rules : SelectionRules)
    (inventory : List (CorpusConversation × CorpusMetadataScan))
    (coverage : PersonalMemoryCoverage) (episodeDrafts : List EpisodeDraft) : Prop where
  assigned : ((assignment rules inventory).map Prod.fst).Perm (scannedMessages inventory)
  scanned : coverage.scannedMessageCount = min (scannedMessages inventory).length maximumCount
  counters : ∀ outcome, outcome ≠ .outsideCalendar →
    coverage.counter outcome = min (countOf outcome (assignment rules inventory)) maximumCount
  failures : coverage.metadataDecodeFailureCount =
    min (countOf .outsideCalendar (assignment rules inventory) +
      (inventory.map rules.conversationFailures).sum) maximumCount
  allMessages : rules.corpusMode = .allMessages → ∀ entry ∈ assignment rules inventory,
    (rules.month entry.1.2.location.createTime).isSome → entry.2 = .selected
  episodes : episodeDrafts.flatMap EpisodeDraft.located =
    (selectedOf (assignment rules inventory)).map located
  once : ((scannedMessages inventory).map located).Nodup →
    (episodeDrafts.flatMap EpisodeDraft.located).Nodup

/-- Messages apart from each other are selected apart from each other. -/
theorem selected_nodup (h : ((scannedMessages inventory).map located).Nodup) :
    ((selectedOf (assignment rules inventory)).map located).Nodup := by
  have hall := (@assignment_perm rules inventory).map located
  have hsub : (selectedOf (assignment rules inventory)).Sublist
      ((assignment rules inventory).map Prod.fst) := List.filter_sublist.map _
  exact (hall.nodup_iff.mpr h).sublist (hsub.map located)

theorem length_scannedMessages : (scannedMessages inventory).length =
    (inventory.flatMap fun scanned => scanned.2.messages).length := by
  simp [scannedMessages, List.length_flatMap]

theorem assignment_selected (hall : rules.corpusMode = .allMessages)
    (htimes : rules.policy.notBeforeUnix = none ∧ rules.policy.notAfterUnix = none) :
    ∀ entry ∈ assignment rules inventory,
      (rules.month entry.1.2.location.createTime).isSome → entry.2 = .selected := by
  intro entry hentry hmonth
  obtain ⟨scanned, -, hmem⟩ := List.mem_flatMap.mp hentry
  obtain ⟨chosen, hchosen, rfl⟩ := List.mem_map.mp hmem
  have henabled : conversationEnabled scanned.1 rules.policy rules.corpusMode = true := by
    rw [conversationEnabled, if_pos hall]
  simp only [conversationOutcomes, if_pos henabled] at hchosen
  obtain ⟨placed, hplaced, rfl⟩ := List.mem_map.mp hchosen
  exact outcomes_selected hall htimes placed hplaced hmonth

/-- The pass over an inventory partitions it. -/
theorem selectInventory_partitions (reader : LiveCorpusReader)
    (hpolicy : rules.policy.Accepted rules.corpusMode) :
    Partitions rules inventory
      (inventory.foldl rules.selectConversation (selectionStart reader)).coverage
      (inventory.foldl rules.selectConversation (selectionStart reader)).episodeDrafts := by
  have hsurveys := @selectInventory_surveys rules inventory (selectionStart reader)
  have hcount : ∀ outcome, (inventory.flatMap fun scanned =>
      (rules.conversationOutcomes scanned).map Prod.snd).count outcome =
        countOf outcome (assignment rules inventory) := by
    intro outcome
    rw [countOf_eq_count, assignment_outcomes]
  have hzero : ∀ outcome, (selectionStart reader).coverage.counter outcome = 0 := by
    intro outcome
    cases outcome <;> rfl
  have hcounts : ∀ outcome,
      (inventory.foldl rules.selectConversation (selectionStart reader)).coverage.counter outcome =
        min (countOf outcome (assignment rules inventory) + if outcome = .outsideCalendar then
          (inventory.map rules.conversationFailures).sum else 0) maximumCount := by
    intro outcome
    have hadds := hsurveys.counts outcome (by rw [hzero]; exact Nat.zero_le _)
    rwa [hzero, Nat.zero_add, hcount] at hadds
  have hepisodes : (inventory.foldl rules.selectConversation
      (selectionStart reader)).episodeDrafts.flatMap EpisodeDraft.located =
        (selectedOf (assignment rules inventory)).map located := by
    rw [hsurveys.drafts, ← drafts_located]
    rfl
  refine ⟨assignment_perm, ?_, fun outcome hne => ?_, hcounts .outsideCalendar, fun hall => ?_,
    hepisodes, fun hdistinct => ?_⟩
  · rw [length_scannedMessages, hsurveys.scanned (Nat.zero_le _)]
    exact congrArg (min · maximumCount) (Nat.zero_add _)
  · rw [hcounts, if_neg hne, Nat.add_zero]
  · exact assignment_selected hall (hpolicy.unfiltered hall)
  · rw [hepisodes]
    exact selected_nodup hdistinct

end Selecting

/-! Delivery -/

/-- The units hold selected messages, each as often as it was selected, within the bounds. -/
structure Delivers (rules : SelectionRules)
    (inventory : List (CorpusConversation × CorpusMetadataScan)) (units : List UnitDraft) :
    Prop where
  selected : (units.flatMap UnitDraft.located).Subperm
    ((selectedOf (assignment rules inventory)).map located)
  once : ((scannedMessages inventory).map located).Nodup → (units.flatMap UnitDraft.located).Nodup
  bounded : ∀ unit ∈ units, unit.messages ≠ [] ∧ WithinBounds rules.policy unit.messages
  inSession : ∀ unit ∈ units, InSession rules inventory unit.conversationSourceId unit.month
    (unit.messages.map CorpusHydratedMessage.location)
  inMonth : ∀ unit ∈ units, ∀ message ∈ unit.messages,
    (rules.month message.location.createTime).map MonthKey.label = some unit.month
  chronological : ∀ unit ∈ units, unit.messages.Pairwise fun earlier later =>
    (compare (chronologicalKey earlier.location) (chronologicalKey later.location)).isLE

section Delivering

variable {rules : SelectionRules} {inventory : List (CorpusConversation × CorpusMetadataScan)}
  {reader : LiveCorpusReader} {prepared : Prepared}

/-- A preparation publishes what it selected. -/
theorem prepareSelected_delivers (hpolicy : 1 ≤ rules.policy.maximumUnitMessages)
    (h : prepareSelected reader rules inventory = .ok prepared) :
    (∀ outcome, prepared.findings.coverage.counter outcome =
      (inventory.foldl rules.selectConversation (selectionStart reader)).coverage.counter outcome) ∧
    prepared.findings.coverage.scannedMessageCount =
      (inventory.foldl rules.selectConversation
        (selectionStart reader)).coverage.scannedMessageCount ∧
    prepared.episodeDrafts =
      (inventory.foldl rules.selectConversation (selectionStart reader)).episodeDrafts ∧
    Delivers rules inventory prepared.units := by
  unfold prepareSelected at h
  obtain ⟨⟨findings, episodes⟩, hhydrated, h⟩ := bind_ok.mp h
  obtain ⟨activity, -, h⟩ := bind_ok.mp h
  obtain ⟨units, hunits, h⟩ := bind_ok.mp h
  obtain rfl := Except.ok.inj h
  have hhydrates := hydrateGroups_hydrates hhydrated
  obtain ⟨episodes', hepisodes, hsub, hof⟩ := hhydrates.episodes
  obtain rfl : episodes = episodes' := hepisodes
  have hdrafts : (inventory.foldl rules.selectConversation (selectionStart reader)).episodeDrafts =
      inventory.flatMap rules.conversationDrafts :=
    (selectInventory_surveys inventory (selectionStart reader)).drafts
  have hgroups := @grouped_perm _ _ _ _ _ (fun draft : EpisodeDraft => draft.conversation.sourceId)
    id (inventory.foldl rules.selectConversation (selectionStart reader)).episodeDrafts
  -- packing and ordering keep the messages, hydration may lose some
  have hselected : ((orderUnitDrafts units.flatten rules.policy.deliveryOrder).flatMap
      UnitDraft.located).Subperm ((selectedOf (assignment rules inventory)).map located) := by
    have hordered := (orderUnitDrafts_perm units.flatten rules.policy.deliveryOrder).flatMap_right
      UnitDraft.located
    have hsorted := (sortBy_perm hydratedEpisodeKey episodes).flatMap_right
      HydratedEpisode.located
    have hdrafted := hgroups.flatMap_right EpisodeDraft.located
    rw [packEpisodes_located hunits] at hordered
    rw [hdrafts, drafts_located] at hdrafted
    rw [hdrafts] at hsub
    exact (hordered.trans hsorted).subperm.trans (hsub.subperm.trans hdrafted.subperm)
  have hpacked : ∀ unit ∈ orderUnitDrafts units.flatten rules.policy.deliveryOrder,
      ∃ episode ∈ episodes, unit.Of rules.policy episode := by
    intro unit hunit
    obtain ⟨packed, hpacked, hmem⟩ :=
      List.mem_flatten.mp ((orderUnitDrafts_perm _ _).subset hunit)
    obtain ⟨episode, hepisode, hpack⟩ := mem_of_mapM hunits packed hpacked
    exact ⟨episode, (sortBy_perm _ _).subset hepisode, (packEpisode_ok hpack).2 unit hmem⟩
  have hinSession : ∀ unit ∈ orderUnitDrafts units.flatten rules.policy.deliveryOrder,
      InSession rules inventory unit.conversationSourceId unit.month
        (unit.messages.map CorpusHydratedMessage.location) := by
    intro unit hunit
    obtain ⟨episode, hepisode, hofEpisode⟩ := hpacked unit hunit
    obtain ⟨draft, hdraft, hofDraft⟩ := hof episode hepisode
    have hmemDraft := hgroups.subset hdraft
    rw [hdrafts] at hmemDraft
    exact hofEpisode.inSession hofDraft (drafts_inSession draft hmemDraft)
  refine ⟨fun outcome => ?_, hhydrates.scanned, rfl, hselected, fun hdistinct => ?_, ?_,
    hinSession, ?_, ?_⟩
  · rw [← hhydrates.counters outcome]
    cases outcome <;> rfl
  · obtain ⟨some, hperm, hsublist⟩ := hselected
    exact hperm.nodup_iff.mp ((selected_nodup hdistinct).sublist hsublist)
  · intro unit hunit
    obtain ⟨episode, -, hofEpisode⟩ := hpacked unit hunit
    exact packFrom_bounds hpolicy [] episode.messages 0 rfl (fun hne => absurd rfl hne)
      unit.messages hofEpisode.messages
  · intro unit hunit message hmessage
    exact (hinSession unit hunit).inMonth message.location (List.mem_map_of_mem hmessage)
  · intro unit hunit
    exact List.pairwise_map.mp (hinSession unit hunit).pairwise

/-- The preparation selects from what it scanned. -/
theorem preparePersonalMemoryUnits_ok {calendar : Calendar} {accountHolder : Option String}
    {policy : PersonalMemorySelectionPolicy} {now : ℤ} {zone : calendar.Zone}
    {corpusMode : PersonalMemoryCorpusMode} (hpolicy : policy.validate calendar = .ok (zone, corpusMode))
    (h : preparePersonalMemoryUnits calendar accountHolder policy now reader = .ok prepared) :
    ∃ reference scanned, reader.conversations.mapM (scanConversation reader) = .ok scanned ∧
      prepareSelected reader (selectionRules policy corpusMode (monthKey calendar zone) reference)
        scanned = .ok prepared := by
  unfold preparePersonalMemoryUnits at h
  obtain ⟨-, h⟩ := check_bind_ok.mp h
  obtain ⟨accepted, haccepted, h⟩ := bind_ok.mp h
  rw [hpolicy] at haccepted
  obtain rfl := Except.ok.inj haccepted
  obtain ⟨reference, -, h⟩ := bind_ok.mp h
  obtain ⟨scanned, hscanned, h⟩ := bind_ok.mp h
  exact ⟨reference, scanned, hscanned, h⟩

end Delivering

/-- The selection gives every message one outcome and counts the outcomes, the episodes and
units hold selected messages only once, and the order of the units is a permutation. -/
theorem selection_partitions {calendar : Calendar} {policy : PersonalMemorySelectionPolicy}
    {zone : calendar.Zone} {corpusMode : PersonalMemoryCorpusMode}
    (hpolicy : policy.validate calendar = .ok (zone, corpusMode)) (reader : LiveCorpusReader) :
    (∀ reference inventory,
      let rules := selectionRules policy corpusMode (monthKey calendar zone) reference
      let selection := inventory.foldl rules.selectConversation (selectionStart reader)
      Partitions rules inventory selection.coverage selection.episodeDrafts ∧
        ∀ prepared, prepareSelected reader rules inventory = .ok prepared →
          Partitions rules inventory prepared.findings.coverage prepared.episodeDrafts ∧
            Delivers rules inventory prepared.units) ∧
    (∀ accountHolder now prepared,
      preparePersonalMemoryUnits calendar accountHolder policy now reader = .ok prepared →
        ∃ reference inventory, reader.conversations.mapM (scanConversation reader) = .ok inventory ∧
          prepareSelected reader
            (selectionRules policy corpusMode (monthKey calendar zone) reference) inventory =
              .ok prepared) ∧
    ∀ units deliveryOrder, (orderUnitDrafts units deliveryOrder).Perm units ∧
      ∀ units', units.Perm units' → (units.map unitDraftKey).Nodup →
        orderUnitDrafts units deliveryOrder = orderUnitDrafts units' deliveryOrder := by
  have haccepted := policy.accepted_of_validate hpolicy
  refine ⟨fun reference inventory => ?_, fun _ _ _ h => preparePersonalMemoryUnits_ok hpolicy h,
    fun units deliveryOrder => ⟨orderUnitDrafts_perm units deliveryOrder,
      fun units' hperm hkeys => orderUnitDrafts_eq_of_perm hperm hkeys deliveryOrder⟩⟩
  intro rules selection
  have hpartitions : Partitions rules inventory selection.coverage selection.episodeDrafts :=
    selectInventory_partitions reader haccepted
  refine ⟨hpartitions, fun prepared hprepared => ?_⟩
  obtain ⟨hcounters, hscanned, hdrafts, hdelivers⟩ :=
    prepareSelected_delivers haccepted.unitMessages hprepared
  refine ⟨⟨hpartitions.assigned, ?_, fun outcome hne => ?_, ?_, hpartitions.allMessages, ?_, ?_⟩,
    hdelivers⟩
  · rw [hscanned]
    exact hpartitions.scanned
  · rw [hcounters]
    exact hpartitions.counters outcome hne
  · exact (hcounters .outsideCalendar).trans hpartitions.failures
  · rw [hdrafts]
    exact hpartitions.episodes
  · rw [hdrafts]
    exact hpartitions.once

/-! A conversation of two messages, one of them outside the calendar -/

/-- The first month of the epoch in the zone of the epoch. -/
def sampleCalendar : Calendar where
  Zone := Unit
  zone name := if name = "UTC" then some () else none
  date _ timestamp := if 0 ≤ timestamp ∧ timestamp < 31 * 86400 then some (1970, 1) else none

def samplePolicy : PersonalMemorySelectionPolicy where
  schema := legacyPersonalMemoryPolicySchema
  formatVersion := personalMemoryFormatVersion
  timezone := "UTC"

def sampleConversation : CorpusConversation where
  sourceId := "wxid_sample"
  displayName := "Sample"
  kind := .direct
  contactKind := .person

def sampleMessage (createTime rowId : ℤ) : CorpusMessageMetadata where
  location := ⟨rowId, createTime, rowId, 0, rowId⟩
  localType := 1
  sender := some "wxid_self"
  isAccountHolder := some true

def hydrated (message : CorpusMessageMetadata) : CorpusHydratedMessage where
  location := message.location
  canonicalId := ""
  sender := message.sender
  senderDisplayName := none
  isAccountHolder := message.isAccountHolder
  messageType := 1
  messageSubtype := 0
  payloadKind := "text"
  text := some "hello"
  textTruncated := false
  contentDecodeFailed := false

/-- One row of the conversation failed. -/
def sampleScan : CorpusMetadataScan where
  messages := [sampleMessage 60 1, sampleMessage (2 ^ 63 - 1) 2]
  warnings := [⟨"corpusMetadataRowFailed", "a row failed", some 0, some 1⟩]
  coverageComplete := false

def sampleReader : LiveCorpusReader where
  conversations := [sampleConversation]
  warnings := []
  coverageComplete := true
  scanMetadata _ := .ok sampleScan
  hydrate _ _ _ := .ok ⟨sampleScan.messages.map hydrated, [], true⟩

def sampleRules : SelectionRules :=
  selectionRules samplePolicy .accountHolderActiveEpisodes (monthKey sampleCalendar ()) ⟨23640, "1970-01"⟩

theorem samplePolicy_valid :
    samplePolicy.validate sampleCalendar = .ok ((), .accountHolderActiveEpisodes) := rfl

theorem selection_partitions_sample : Partitions sampleRules [(sampleConversation, sampleScan)]
    ([(sampleConversation, sampleScan)].foldl sampleRules.selectConversation
      (selectionStart sampleReader)).coverage
    ([(sampleConversation, sampleScan)].foldl sampleRules.selectConversation
      (selectionStart sampleReader)).episodeDrafts :=
  ((selection_partitions samplePolicy_valid sampleReader).1 _ _).1

/-- One message is outside the calendar, and two failures are counted. -/
theorem outsideCalendar_miscounted :
    countOf .outsideCalendar (assignment sampleRules [(sampleConversation, sampleScan)]) = 1 ∧
      (preparePersonalMemoryUnits sampleCalendar (some "wxid_self") samplePolicy 60
        sampleReader).toOption.map (fun prepared =>
          prepared.findings.coverage.counter .outsideCalendar) = some 2 := by
  decide +kernel

end GreenBubbles.Memory
