import GreenBubbles.Memory.Units

/-! # The selection partitions the messages

Every scanned message has one outcome, and the counters are the sizes of the
outcomes. Episodes and units are made of the selected messages, each of them once.
-/
namespace GreenBubbles.Memory

open Library Library.Grouping Library.Ordered SelectionRules
open LiveQuery (CorpusMessageLocation CorpusMessageMetadata CorpusMetadataScan)

variable {policy : PersonalMemorySelectionPolicy} {rules : SelectionRules}
  {inventory : List (CorpusConversation × CorpusMetadataScan)}

/-! Packing -/

theorem packFrom_flatten (current rest : List CorpusHydratedMessage) (bytes : ℕ) :
    (packFrom policy current bytes rest).flatten = current ++ rest := by
  induction rest generalizing current bytes with
  | nil =>
    rw [packFrom]
    split_ifs with hempty
    · rw [List.isEmpty_iff.mp hempty]
      rfl
    · simp
  | cons message rest ih =>
    rw [packFrom]
    split_ifs with hoverflow
    · rw [List.flatten_cons, ih, List.singleton_append]
    · rw [ih, List.append_assoc, List.singleton_append]

/-- The bounds of a unit. -/
structure WithinBounds (policy : PersonalMemorySelectionPolicy)
    (messages : List CorpusHydratedMessage) : Prop where
  messageBound : messages.length ≤ policy.maximumUnitMessages
  textBound : messages.length = 1 ∨ (messages.map textBytes).sum ≤ policy.maximumUnitTextBytes

theorem withinBounds_singleton (hpolicy : 1 ≤ policy.maximumUnitMessages)
    (message : CorpusHydratedMessage) : WithinBounds policy [message] :=
  ⟨hpolicy, .inl rfl⟩

theorem packFrom_bounds (hpolicy : 1 ≤ policy.maximumUnitMessages)
    (current rest : List CorpusHydratedMessage) (bytes : ℕ)
    (hbytes : bytes = (current.map textBytes).sum)
    (hcurrent : current ≠ [] → WithinBounds policy current) :
    ∀ unit ∈ packFrom policy current bytes rest, unit ≠ [] ∧ WithinBounds policy unit := by
  induction rest generalizing current bytes with
  | nil =>
    intro unit hunit
    rw [packFrom] at hunit
    split_ifs at hunit with hempty
    · cases hunit
    · obtain rfl := List.mem_singleton.mp hunit
      have hne : unit ≠ [] := fun hnil => hempty (List.isEmpty_iff.mpr hnil)
      exact ⟨hne, hcurrent hne⟩
  | cons message rest ih =>
    intro unit hunit
    rw [packFrom] at hunit
    split_ifs at hunit with hoverflow
    · simp only [Bool.and_eq_true, Bool.not_eq_true', List.isEmpty_eq_false_iff] at hoverflow
      rcases List.mem_cons.mp hunit with rfl | hmem
      · exact ⟨hoverflow.1, hcurrent hoverflow.1⟩
      · exact ih [message] (textBytes message) (by simp)
          (fun _ => withinBounds_singleton hpolicy message) unit hmem
    · refine ih (current ++ [message]) _ (by simp [hbytes]) (fun _ => ?_) unit hunit
      cases current with
      | nil => exact withinBounds_singleton hpolicy message
      | cons first current =>
        simp only [List.isEmpty_cons, Bool.not_false, Bool.true_and, Bool.or_eq_true,
          decide_eq_true_eq, not_or, not_le, not_lt] at hoverflow
        refine ⟨?_, .inr ?_⟩
        · rw [List.length_append, List.length_singleton]
          exact hoverflow.1
        · rw [List.map_append, List.sum_append, List.map_singleton, List.sum_singleton, ← hbytes]
          exact hoverflow.2

/-! Episodes -/

theorem excluded_ne_selected {messages : List CorpusMessageMetadata} (index : Index messages) :
    rules.excluded messages index ≠ some .selected := by
  unfold excluded
  dsimp only
  split_ifs <;> simp

/-- The drafts of a conversation hold its selected messages. -/
theorem messageDrafts_locations {messages : List CorpusMessageMetadata}
    {conversation : CorpusConversation} :
    (rules.messageDrafts messages conversation).flatMap EpisodeDraft.locations =
      (selectedOf (rules.outcomes messages conversation)).map
        fun index => (messages.get index).location := by
  have hnone : selectedOf ((List.finRange messages.length).filterMap fun index =>
      (rules.excluded messages index).map fun outcome => (index, outcome)) = [] := by
    rw [selectedOf, List.map_eq_nil_iff, List.filter_eq_nil_iff]
    intro entry hentry
    obtain ⟨index, -, hreason⟩ := List.mem_filterMap.mp hentry
    obtain ⟨outcome, houtcome, rfl⟩ := Option.map_eq_some_iff.mp hreason
    rw [decide_eq_true_eq]
    rintro rfl
    exact excluded_ne_selected index houtcome
  rw [outcomes, selectedOf_append, hnone, List.nil_append, selectedOf_flatMap, List.map_flatMap,
    messageDrafts, List.flatMap_assoc]
  congr 1
  funext entry
  rw [← monthParts_flatten, List.flatMap_map, List.map_flatten, List.flatMap_def]
  rfl

/-- The messages of an inventory, each with its conversation. -/
def scannedMessages (inventory : List (CorpusConversation × CorpusMetadataScan)) :
    List (CorpusConversation × CorpusMessageMetadata) :=
  inventory.flatMap fun scanned => scanned.2.messages.map (scanned.1, ·)

/-- The outcome of each message of an inventory. -/
def assignment (rules : SelectionRules)
    (inventory : List (CorpusConversation × CorpusMetadataScan)) :
    List ((CorpusConversation × CorpusMessageMetadata) × Outcome) :=
  inventory.flatMap fun scanned => (rules.conversationOutcomes scanned).map fun entry =>
    ((scanned.1, entry.1), entry.2)

/-- A message by its conversation and its location there. -/
def located (message : CorpusConversation × CorpusMessageMetadata) :
    String × CorpusMessageLocation :=
  (message.1.sourceId, message.2.location)

def EpisodeDraft.located (draft : EpisodeDraft) : List (String × CorpusMessageLocation) :=
  draft.locations.map (draft.conversation.sourceId, ·)

def UnitDraft.located (unit : UnitDraft) : List (String × CorpusMessageLocation) :=
  unit.messages.map fun message => (unit.conversationSourceId, message.location)

theorem assignment_perm :
    ((assignment rules inventory).map Prod.fst).Perm (scannedMessages inventory) := by
  rw [assignment, scannedMessages, List.map_flatMap]
  refine List.Perm.flatMap_left inventory fun scanned _ => ?_
  have hperm := (@conversationOutcomes_perm rules scanned).map (scanned.1, ·)
  rw [List.map_map] at hperm ⊢
  exact hperm

theorem assignment_outcomes : (assignment rules inventory).map Prod.snd =
    inventory.flatMap fun scanned => (rules.conversationOutcomes scanned).map Prod.snd := by
  rw [assignment, List.map_flatMap]
  congr 1
  funext scanned
  rw [List.map_map]
  rfl

theorem conversationDrafts_conversation {scanned : CorpusConversation × CorpusMetadataScan} :
    ∀ draft ∈ rules.conversationDrafts scanned, draft.conversation = scanned.1 := by
  intro draft hdraft
  unfold conversationDrafts at hdraft
  split_ifs at hdraft with henabled
  · obtain ⟨entry, -, hpart⟩ := List.mem_flatMap.mp hdraft
    obtain ⟨part, -, rfl⟩ := List.mem_map.mp hpart
    rfl
  · cases hdraft

theorem conversationDrafts_located (scanned : CorpusConversation × CorpusMetadataScan) :
    (rules.conversationDrafts scanned).flatMap EpisodeDraft.located =
      (selectedOf (rules.conversationOutcomes scanned)).map
        fun message => located (scanned.1, message) := by
  have hconversation : (rules.conversationDrafts scanned).flatMap EpisodeDraft.located =
      ((rules.conversationDrafts scanned).flatMap EpisodeDraft.locations).map
        (scanned.1.sourceId, ·) := by
    rw [List.map_flatMap, List.flatMap_def, List.flatMap_def]
    congr 1
    apply List.map_congr_left
    intro draft hdraft
    rw [EpisodeDraft.located, conversationDrafts_conversation draft hdraft]
  rw [hconversation]
  unfold conversationDrafts conversationOutcomes
  by_cases henabled : conversationEnabled scanned.1 rules.policy rules.corpusMode = true
  · simp only [if_pos henabled]
    rw [messageDrafts_locations, selectedOf, selectedOf, List.filter_map, List.map_map, List.map_map,
      List.map_map, List.map_map]
    rfl
  · simp only [if_neg henabled]
    rw [selectedOf_map_const, if_neg (by decide)]
    rfl

theorem drafts_located : (inventory.flatMap rules.conversationDrafts).flatMap EpisodeDraft.located =
    (selectedOf (assignment rules inventory)).map located := by
  rw [List.flatMap_assoc, assignment, selectedOf_flatMap, List.map_flatMap]
  congr 1
  funext scanned
  rw [conversationDrafts_located, selectedOf, selectedOf, List.filter_map, List.map_map,
    List.map_map, List.map_map]
  rfl

/-! Hydration -/

def HydratedEpisode.located (episode : HydratedEpisode) : List (String × CorpusMessageLocation) :=
  episode.messages.map fun message => (episode.conversation.sourceId, message.location)

theorem byLocation_location {messages : List CorpusHydratedMessage}
    {location : CorpusMessageLocation} {message : CorpusHydratedMessage}
    (h : byLocation messages location = some message) : message.location = location := by
  simpa using List.find?_some h

theorem byLocation_sublist (messages : List CorpusHydratedMessage)
    (locations : List CorpusMessageLocation) :
    ((locations.filterMap (byLocation messages)).map CorpusHydratedMessage.location).Sublist
      locations := by
  induction locations with
  | nil => exact List.Sublist.refl _
  | cons location locations ih =>
    cases hfound : byLocation messages location with
    | none =>
      rw [List.filterMap_cons_none hfound]
      exact ih.cons location
    | some message =>
      rw [List.filterMap_cons_some hfound, List.map_cons, byLocation_location hfound]
      exact ih.cons_cons location

/-- A hydrated episode is a part of its draft. -/
structure HydratedEpisode.Of (episode : HydratedEpisode) (draft : EpisodeDraft) : Prop where
  conversation : episode.conversation = draft.conversation
  month : episode.month = draft.month
  messages : (episode.messages.map CorpusHydratedMessage.location).Sublist draft.locations

theorem hydrateEpisode_of (messages : List CorpusHydratedMessage) (draft : EpisodeDraft) :
    (hydrateEpisode messages draft).Of draft :=
  ⟨rfl, rfl, byLocation_sublist messages draft.locations⟩

theorem HydratedEpisode.Of.located {episode : HydratedEpisode} {draft : EpisodeDraft}
    (h : episode.Of draft) : episode.located.Sublist draft.located := by
  rw [HydratedEpisode.located, EpisodeDraft.located, h.conversation]
  have hmap := h.messages.map (draft.conversation.sourceId, ·)
  rwa [List.map_map] at hmap

theorem hydrateEpisodes_located (messages : List CorpusHydratedMessage)
    (drafts : List EpisodeDraft) :
    ((drafts.map (hydrateEpisode messages)).flatMap HydratedEpisode.located).Sublist
      (drafts.flatMap EpisodeDraft.located) := by
  induction drafts with
  | nil => exact List.Sublist.refl _
  | cons draft drafts ih =>
    rw [List.map_cons, List.flatMap_cons, List.flatMap_cons]
    exact (hydrateEpisode_of messages draft).located.append ih

/-- Hydration leaves the counters of the selection alone and keeps to the drafts. -/
structure Hydrates (drafts : List EpisodeDraft) (earlier later : Findings × List HydratedEpisode) :
    Prop where
  counters : ∀ outcome, later.1.coverage.counter outcome = earlier.1.coverage.counter outcome
  scanned : later.1.coverage.scannedMessageCount = earlier.1.coverage.scannedMessageCount
  episodes : ∃ episodes, later.2 = earlier.2 ++ episodes ∧
    (episodes.flatMap HydratedEpisode.located).Sublist (drafts.flatMap EpisodeDraft.located) ∧
      ∀ episode ∈ episodes, ∃ draft ∈ drafts, episode.Of draft

theorem noteEpisodes_counters (messages : List CorpusHydratedMessage) (drafts : List EpisodeDraft)
    (findings : Findings) :
    (∀ outcome, (drafts.foldl (fun findings draft =>
        noteEpisode findings draft (hydrateEpisode messages draft)) findings).coverage.counter
          outcome = findings.coverage.counter outcome) ∧
      (drafts.foldl (fun findings draft => noteEpisode findings draft
        (hydrateEpisode messages draft)) findings).coverage.scannedMessageCount =
          findings.coverage.scannedMessageCount := by
  induction drafts generalizing findings with
  | nil => exact ⟨fun _ => rfl, rfl⟩
  | cons draft drafts ih =>
    have hstep : (∀ outcome, (noteEpisode findings draft
        (hydrateEpisode messages draft)).coverage.counter outcome =
          findings.coverage.counter outcome) ∧
        (noteEpisode findings draft (hydrateEpisode messages draft)).coverage.scannedMessageCount =
          findings.coverage.scannedMessageCount := by
      unfold noteEpisode
      split_ifs
      · exact ⟨fun outcome => by cases outcome <;> rfl, rfl⟩
      · exact ⟨fun _ => rfl, rfl⟩
    obtain ⟨hcounters, hscanned⟩ := ih (noteEpisode findings draft (hydrateEpisode messages draft))
    rw [List.foldl_cons]
    exact ⟨fun outcome => (hcounters outcome).trans (hstep.1 outcome), hscanned.trans hstep.2⟩

theorem hydrateGroup_hydrates {reader : LiveCorpusReader} {drafts : List EpisodeDraft}
    {earlier later : Findings × List HydratedEpisode}
    (h : hydrateGroup reader policy earlier drafts = .ok later) : Hydrates drafts earlier later := by
  unfold hydrateGroup at h
  obtain ⟨conversation, -, h⟩ := bind_ok.mp h
  obtain ⟨hydration, -, h⟩ := bind_ok.mp h
  obtain rfl := Except.ok.inj h
  obtain ⟨hcounters, hscanned⟩ := noteEpisodes_counters hydration.messages drafts
    (noteHydration earlier.1 hydration)
  refine ⟨fun outcome => (hcounters outcome).trans ?_, hscanned, _, rfl, ?_, ?_⟩
  · cases outcome <;> rfl
  · exact (List.filter_sublist.flatMap _).trans
      (hydrateEpisodes_located hydration.messages drafts)
  · intro episode hepisode
    obtain ⟨draft, hdraft, rfl⟩ := List.mem_map.mp (List.mem_of_mem_filter hepisode)
    exact ⟨draft, hdraft, hydrateEpisode_of hydration.messages draft⟩

theorem hydrateGroups_hydrates {reader : LiveCorpusReader}
    {groups : List (String × List EpisodeDraft)} {earlier later : Findings × List HydratedEpisode}
    (h : groups.foldlM (fun state group => hydrateGroup reader policy state group.2) earlier =
      .ok later) : Hydrates (groups.flatMap Prod.snd) earlier later := by
  induction groups generalizing earlier with
  | nil =>
    obtain rfl := Except.ok.inj h
    exact ⟨fun _ => rfl, rfl, [], (List.append_nil _).symm, List.Sublist.refl _, by simp⟩
  | cons group groups ih =>
    rw [List.foldlM_cons] at h
    obtain ⟨middle, hmiddle, h⟩ := bind_ok.mp h
    have hfirst := hydrateGroup_hydrates hmiddle
    have hrest := ih h
    obtain ⟨episodes, heq, hsub, hof⟩ := hfirst.episodes
    obtain ⟨episodes', heq', hsub', hof'⟩ := hrest.episodes
    refine ⟨fun outcome => (hrest.counters outcome).trans (hfirst.counters outcome),
      hrest.scanned.trans hfirst.scanned, episodes ++ episodes', ?_, ?_, ?_⟩
    · rw [heq', heq, List.append_assoc]
    · rw [List.flatMap_append, List.flatMap_cons, List.flatMap_append]
      exact hsub.append hsub'
    · intro episode hepisode
      rw [List.flatMap_cons]
      rcases List.mem_append.mp hepisode with hmem | hmem
      · obtain ⟨draft, hdraft, hdraft'⟩ := hof episode hmem
        exact ⟨draft, List.mem_append_left _ hdraft, hdraft'⟩
      · obtain ⟨draft, hdraft, hdraft'⟩ := hof' episode hmem
        exact ⟨draft, List.mem_append_right _ hdraft, hdraft'⟩

/-! Units -/

/-- A unit is a part of an episode. -/
structure UnitDraft.Of (policy : PersonalMemorySelectionPolicy) (unit : UnitDraft)
    (episode : HydratedEpisode) : Prop where
  conversation : unit.conversationSourceId = episode.conversation.sourceId
  kind : unit.conversationKind = episode.conversation.kind
  month : unit.month = episode.month
  messages : unit.messages ∈ packFrom policy [] 0 episode.messages

theorem packEpisode_ok {conversations : List CorpusConversation} {episode : HydratedEpisode}
    {units : List UnitDraft} (h : packEpisode conversations policy episode = .ok units) :
    units.flatMap UnitDraft.located = episode.located ∧ ∀ unit ∈ units, unit.Of policy episode := by
  unfold packEpisode at h
  obtain ⟨shortName, -, h⟩ := bind_ok.mp h
  obtain rfl := Except.ok.inj h
  constructor
  · have hflatten := @packFrom_flatten policy [] episode.messages 0
    rw [List.nil_append] at hflatten
    conv_rhs => rw [HydratedEpisode.located, ← hflatten, List.map_flatten]
    rw [List.flatMap_map]
    rfl
  · intro unit hunit
    obtain ⟨messages, hmessages, rfl⟩ := List.mem_map.mp hunit
    exact ⟨rfl, rfl, rfl, hmessages⟩

theorem mem_of_mapM {α β : Type} {f : α → Except RestoreError β} {values : List α}
    {results : List β} (h : values.mapM f = .ok results) :
    ∀ b ∈ results, ∃ a ∈ values, f a = .ok b := by
  induction values generalizing results with
  | nil =>
    rw [List.mapM_nil] at h
    obtain rfl := Except.ok.inj h
    simp
  | cons a values ih =>
    rw [List.mapM_cons] at h
    obtain ⟨b, hb, h⟩ := bind_ok.mp h
    obtain ⟨rest, hrest, h⟩ := bind_ok.mp h
    obtain rfl := Except.ok.inj h
    rw [List.forall_mem_cons]
    refine ⟨⟨a, List.mem_cons_self, hb⟩, fun b' hb' => ?_⟩
    obtain ⟨a', ha', hfa⟩ := ih hrest b' hb'
    exact ⟨a', List.mem_cons_of_mem a ha', hfa⟩

theorem packEpisodes_located {conversations : List CorpusConversation}
    {episodes : List HydratedEpisode} {units : List (List UnitDraft)}
    (h : episodes.mapM (packEpisode conversations policy) = .ok units) :
    units.flatten.flatMap UnitDraft.located = episodes.flatMap HydratedEpisode.located := by
  have hmap : units.map (fun units => units.flatMap UnitDraft.located) =
      episodes.map HydratedEpisode.located :=
    mapM_ok_map (fun _ _ hpack => (packEpisode_ok hpack).1) h
  rw [← List.flatMap_id, List.flatMap_assoc]
  simp only [List.flatMap_def]
  rw [← hmap]
  rfl

end GreenBubbles.Memory
