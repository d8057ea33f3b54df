import GreenBubbles.Memory.Partition

/-! # The units cohere

A unit is a part of one session of one month of a conversation, in the order of
time.
-/
namespace GreenBubbles.Memory

open Library Library.Grouping Library.Ordered SelectionRules
open LiveQuery (CorpusMessageLocation CorpusMessageMetadata CorpusMetadataScan)

/-- Locations in the order of time. -/
def chronologicalKey (location : CorpusMessageLocation) : ℤ × ℤ × ℤ × ℕ × ℤ :=
  (location.createTime, location.sortSequence, location.serverId, location.shardId, location.rowId)

/-- The messages of a scan in the order of time. -/
def chronological (scan : CorpusMetadataScan) : List CorpusMessageMetadata :=
  sortBy chronologicalMetadataKey scan.messages

section Sessions

variable {rules : SelectionRules} {messages : List CorpusMessageMetadata}

/-- A month holds messages of the month in the order of the conversation. -/
theorem months_spec {entry : MonthKey × List (Index messages)} (h : entry ∈ rules.months messages) :
    entry.2.Sublist (List.finRange messages.length) ∧
      ∀ index ∈ entry.2, rules.month (messages.get index).location.createTime = some entry.1 := by
  obtain ⟨⟨month, placed⟩, hgroup, rfl⟩ := List.mem_map.mp h
  obtain ⟨-, rfl⟩ := mem_grouped.mp hgroup
  constructor
  · have hplaced : (((List.finRange messages.length).filterMap (rules.place messages)).map
        Prod.snd).Sublist (List.finRange messages.length) := by
      rw [placed_snd]
      exact List.filter_sublist
    exact (List.filter_sublist.map Prod.snd).trans hplaced
  · intro index hindex
    obtain ⟨⟨month', index'⟩, hentry, rfl⟩ := List.mem_map.mp hindex
    rw [List.mem_filter, decide_eq_true_eq] at hentry
    obtain ⟨hentry, rfl⟩ := hentry
    obtain ⟨index, -, hplace⟩ := List.mem_filterMap.mp hentry
    obtain rfl := place_snd hplace
    unfold place at hplace
    simp only at hplace
    split_ifs at hplace
    obtain ⟨found, hfound, heq⟩ := Option.map_eq_some_iff.mp hplace
    rw [hfound, ← (Prod.mk.inj heq).1]

theorem sessionParts_sublist {bounds : SessionBounds} {session piece : List (Index messages)}
    (h : piece ∈ rules.sessionParts messages bounds session) : piece.Sublist session := by
  unfold sessionParts at h
  split_ifs at h
  · cases h
  · rw [List.mem_singleton.mp h]
  · cases h
  · obtain ⟨window, -, rfl⟩ := List.mem_map.mp h
    exact (List.take_sublist _ _).trans (List.drop_sublist _ _)

end Sessions

variable {rules : SelectionRules} {inventory : List (CorpusConversation × CorpusMetadataScan)}

/-- Locations within one session of one month of a conversation. -/
structure InSession (rules : SelectionRules)
    (inventory : List (CorpusConversation × CorpusMetadataScan)) (sourceId month : String)
    (locations : List CorpusMessageLocation) : Prop where
  session : ∃ scanned ∈ inventory, scanned.1.sourceId = sourceId ∧
    ∃ entry ∈ rules.months (chronological scanned.2), entry.1.label = month ∧
      ∃ session ∈ splitSessions (chronological scanned.2) entry.2
          (sessionBounds rules.policy scanned.1.kind).gapSeconds,
        locations.Sublist
          (session.map fun index => ((chronological scanned.2).get index).location)

namespace InSession

variable {sourceId month : String} {locations locations' : List CorpusMessageLocation}

theorem sublist (h : InSession rules inventory sourceId month locations)
    (hsub : locations'.Sublist locations) : InSession rules inventory sourceId month locations' := by
  obtain ⟨scanned, hscanned, hsource, entry, hentry, hmonth, session, hsession, hlocations⟩ :=
    h.session
  exact ⟨scanned, hscanned, hsource, entry, hentry, hmonth, session, hsession,
    hsub.trans hlocations⟩

/-- All of the locations fall into the month. -/
theorem inMonth (h : InSession rules inventory sourceId month locations) :
    ∀ location ∈ locations, (rules.month location.createTime).map MonthKey.label = some month := by
  obtain ⟨scanned, -, -, entry, hentry, rfl, session, hsession, hlocations⟩ := h.session
  intro location hlocation
  obtain ⟨index, hindex, rfl⟩ := List.mem_map.mp (hlocations.subset hlocation)
  rw [(months_spec hentry).2 index ((session_sublist hsession).subset hindex)]
  rfl

theorem pairwise (h : InSession rules inventory sourceId month locations) :
    locations.Pairwise fun earlier later =>
      (compare (chronologicalKey earlier) (chronologicalKey later)).isLE := by
  obtain ⟨scanned, -, -, entry, hentry, -, session, hsession, hlocations⟩ := h.session
  have hindices : session.Sublist (List.finRange (chronological scanned.2).length) :=
    (session_sublist hsession).trans (months_spec hentry).1
  have hall : (List.finRange (chronological scanned.2).length).map
      (fun index => ((chronological scanned.2).get index)) = chronological scanned.2 :=
    List.map_getElem_finRange _
  have hmessages := hindices.map fun index => ((chronological scanned.2).get index)
  rw [hall] at hmessages
  have hsorted : (chronological scanned.2).Pairwise fun earlier later =>
      (compare (chronologicalMetadataKey earlier) (chronologicalMetadataKey later)).isLE :=
    sortBy_pairwise chronologicalMetadataKey scanned.2.messages
  have hpairwise : (session.map fun index => ((chronological scanned.2).get index).location).Pairwise
      fun earlier later =>
        (compare (chronologicalKey earlier) (chronologicalKey later)).isLE := by
    have hmap := List.pairwise_map.mp (hsorted.sublist hmessages)
    exact List.pairwise_map.mpr hmap
  exact hpairwise.sublist hlocations

end InSession

theorem conversationDrafts_inSession {scanned : CorpusConversation × CorpusMetadataScan}
    (hscanned : scanned ∈ inventory) {draft : EpisodeDraft}
    (h : draft ∈ rules.conversationDrafts scanned) :
    InSession rules inventory draft.conversation.sourceId draft.month draft.locations := by
  unfold conversationDrafts at h
  split_ifs at h with henabled
  · obtain ⟨entry, hentry, hpart⟩ := List.mem_flatMap.mp h
    obtain ⟨piece, hpiece, rfl⟩ := List.mem_map.mp hpart
    unfold monthParts at hpiece
    split_ifs at hpiece
    · obtain ⟨session, hsession, hpiece⟩ := List.mem_flatMap.mp hpiece
      exact ⟨scanned, hscanned, rfl, entry, hentry, rfl, session, hsession,
        (sessionParts_sublist hpiece).map _⟩
    · cases hpiece
  · cases h

theorem drafts_inSession : ∀ draft ∈ inventory.flatMap rules.conversationDrafts,
    InSession rules inventory draft.conversation.sourceId draft.month draft.locations := by
  intro draft hdraft
  obtain ⟨scanned, hscanned, hmem⟩ := List.mem_flatMap.mp hdraft
  exact conversationDrafts_inSession hscanned hmem

/-- A unit is made of messages of one session. -/
theorem UnitDraft.Of.inSession {unit : UnitDraft} {episode : HydratedEpisode} {draft : EpisodeDraft}
    (hunit : unit.Of rules.policy episode) (hepisode : episode.Of draft)
    (hdraft : InSession rules inventory draft.conversation.sourceId draft.month draft.locations) :
    InSession rules inventory unit.conversationSourceId unit.month
      (unit.messages.map CorpusHydratedMessage.location) := by
  have hflatten := @packFrom_flatten rules.policy [] episode.messages 0
  have hsub : unit.messages.Sublist episode.messages := by
    have hmem := List.sublist_flatten_of_mem hunit.messages
    rwa [hflatten, List.nil_append] at hmem
  rw [hunit.conversation, hepisode.conversation, hunit.month, hepisode.month]
  exact hdraft.sublist ((hsub.map _).trans hepisode.messages)

end GreenBubbles.Memory
