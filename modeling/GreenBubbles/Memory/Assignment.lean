import GreenBubbles.Memory.Accounting

/-! # The pass assigns every message

Session by session, month by month and conversation by conversation the pass
counts just the outcomes and drafts just the selected messages.
-/
namespace GreenBubbles.Memory

open Library Library.Cut Library.Grouping Library.Ordered
open LiveQuery (CorpusMessageMetadata CorpusMetadataScan)

namespace SelectionRules

variable {rules : SelectionRules} {messages : List CorpusMessageMetadata}
  {conversation : CorpusConversation} {month : MonthKey} {bounds : SessionBounds}
  {session : List (Index messages)}

/-! Sessions -/

theorem sessionOutcomes_fst : (rules.sessionOutcomes messages bounds session).map Prod.fst = session := by
  unfold sessionOutcomes
  split_ifs
  · simp [Function.comp_def]
  · simp [Function.comp_def]
  · rw [List.map_map]
    exact List.zipIdx_map_fst 0 session

theorem mem_anchors {position : ℕ} : position ∈ anchors messages session →
    position < session.length := by
  intro h
  obtain ⟨⟨index, position'⟩, hentry, rfl⟩ := List.mem_map.mp h
  have hbounds := List.snd_lt_of_mem_zipIdx (List.mem_of_mem_filter hentry)
  simpa using hbounds

/-- The episodes of a session are made of its selected messages. -/
theorem sessionParts_flatten : (rules.sessionParts messages bounds session).flatten =
    selectedOf (rules.sessionOutcomes messages bounds session) := by
  unfold sessionParts sessionOutcomes
  split_ifs with hall hempty hanchors
  · rw [selectedOf_map_const, if_pos rfl, List.isEmpty_iff.mp hempty]
    rfl
  · rw [selectedOf_map_const, if_pos rfl, List.flatten_cons, List.flatten_nil, List.append_nil]
  · rw [selectedOf_map_const, if_neg (by decide)]
    rfl
  · obtain ⟨hbounds, hapart, hwithin⟩ := @mergedContextWindows_bounds
      (anchors messages session) session.length bounds.contextBefore bounds.contextAfter
      fun _ => mem_anchors
    have hparts := @parts_flatten _ session _ 0
      (fun n => ¬ Near (anchors messages session) bounds.contextBefore bounds.contextAfter n) _
      (Nat.zero_le _) (fun window hwindow => ⟨Nat.zero_le _, hbounds window hwindow⟩) hapart
      (fun n _ hn => not_congr (hwithin n hn).symm)
    rw [hparts, List.drop_zero, ← keepFrom_zipIdx, selectedOf, List.filter_map, List.map_map]
    congr 1
    apply List.filter_congr
    intro entry _
    by_cases hnear : Near (anchors messages session) bounds.contextBefore bounds.contextAfter entry.2
    · simp [hnear]
    · simp [hnear]

/-- A step over sessions chooses parts of them and counts what it leaves out. -/
structure Chooses (conversation : CorpusConversation) (month : MonthKey)
    (parts : List (List (Index messages))) (outcomes : List (Index messages × Outcome))
    (earlier later : MonthSelection messages) : Prop where
  selected : later.selectedInMonth = earlier.selectedInMonth ∪ (selectedOf outcomes).toFinset
  drafts : later.episodeDrafts =
    earlier.episodeDrafts ++ parts.map (draft messages conversation month)
  counts : ∀ outcome, Adds outcome earlier.coverage later.coverage
    (if outcome = .selected then 0 else countOf outcome outcomes)
  scanned : later.coverage.scannedMessageCount = earlier.coverage.scannedMessageCount

theorem Chooses.refl (selection : MonthSelection messages) :
    Chooses conversation month [] [] selection selection := by
  refine ⟨by simp [selectedOf], by simp, fun outcome => ?_, rfl⟩
  have hzero : (if outcome = .selected then 0 else countOf outcome
      ([] : List (Index messages × Outcome))) = 0 := by
    split_ifs <;> rfl
  rw [hzero]
  exact Adds.of_eq rfl

theorem Chooses.trans {parts parts' : List (List (Index messages))}
    {outcomes outcomes' : List (Index messages × Outcome)}
    {first second third : MonthSelection messages}
    (h : Chooses conversation month parts outcomes first second)
    (h' : Chooses conversation month parts' outcomes' second third) :
    Chooses conversation month (parts ++ parts') (outcomes ++ outcomes') first third := by
  refine ⟨?_, ?_, fun outcome => ?_, h'.scanned.trans h.scanned⟩
  · rw [h'.selected, h.selected, selectedOf_append, List.toFinset_append, Finset.union_assoc]
  · rw [h'.drafts, h.drafts, List.map_append, List.append_assoc]
  · have hsum : (if outcome = .selected then 0 else countOf outcome (outcomes ++ outcomes')) =
        (if outcome = .selected then 0 else countOf outcome outcomes) +
          (if outcome = .selected then 0 else countOf outcome outcomes') := by
      split_ifs
      · rfl
      · rw [countOf, List.countP_append]
        rfl
    rw [hsum]
    exact (h.counts outcome).trans (h'.counts outcome)

/-- In a session cut down to its context a message is selected or counted as left out. -/
theorem length_eq_selected_add {before after : ℕ} {positions : List ℕ} :
    countOf .selected (session.zipIdx.map fun entry =>
        (entry.1, if Near positions before after entry.2 then Outcome.selected else .contextBound)) +
      countOf .contextBound (session.zipIdx.map fun entry =>
        (entry.1, if Near positions before after entry.2 then Outcome.selected else .contextBound)) =
      session.length := by
  have hlength : session.length = session.zipIdx.length := (List.length_zipIdx).symm
  rw [hlength]
  simp only [countOf, List.countP_map]
  generalize session.zipIdx = entries
  induction entries with
  | nil => rfl
  | cons entry entries ih =>
    rw [List.countP_cons, List.countP_cons, List.length_cons, ← ih]
    by_cases hnear : Near positions before after entry.2
    · simp only [Function.comp_apply, if_pos hnear, decide_true, if_true, reduceCtorEq, decide_false,
        Bool.false_eq_true, if_false]
      omega
    · simp only [Function.comp_apply, if_neg hnear, decide_true, if_true, reduceCtorEq, decide_false,
        Bool.false_eq_true, if_false]
      omega

theorem selectSession_chooses (selection : MonthSelection messages) (hnodup : session.Nodup)
    (hfresh : ∀ index ∈ session, index ∉ selection.selectedInMonth) :
    Chooses conversation month
      (rules.sessionParts messages (sessionBounds rules.policy conversation.kind) session)
      (rules.sessionOutcomes messages (sessionBounds rules.policy conversation.kind) session)
      selection (rules.selectSession messages conversation month selection session) := by
  have hflatten := @sessionParts_flatten rules messages
    (sessionBounds rules.policy conversation.kind) session
  unfold selectSession sessionParts sessionOutcomes at *
  by_cases hall : rules.corpusMode = .allMessages
  · simp only [if_pos hall] at hflatten ⊢
    refine ⟨?_, ?_, fun outcome => ?_, rfl⟩
    · rw [selectedOf_map_const, if_pos rfl]
    · split_ifs <;> rfl
    · have hzero : (if outcome = .selected then 0 else countOf outcome
          (session.map (·, Outcome.selected))) = 0 := by
        split_ifs with houtcome
        · rfl
        · rw [countOf_map_const, if_neg (Ne.symm houtcome)]
      rw [hzero]
      exact Adds.of_eq rfl
  · by_cases hanchors : (anchors messages session).isEmpty = true
    · simp only [if_neg hall, if_pos hanchors] at hflatten ⊢
      refine ⟨?_, by simp, fun outcome => ?_, scanned_count _ _ _⟩
      · rw [selectedOf_map_const, if_neg (by decide)]
        simp
      · have hcount : (if outcome = .selected then 0 else countOf outcome
            (session.map (·, Outcome.silentSession))) =
              if Outcome.silentSession = outcome then session.length else 0 := by
          rw [countOf_map_const]
          cases outcome <;> rfl
        rw [hcount]
        exact Adds.count _ _
    · simp only [if_neg hall, if_neg hanchors] at hflatten ⊢
      refine ⟨by rw [hflatten], rfl, fun outcome => ?_, scanned_count _ _ _⟩
      have hsub := @sessionOutcomes_fst rules messages
        (sessionBounds rules.policy conversation.kind) session
      simp only [sessionOutcomes, if_neg hall, if_neg hanchors] at hsub
      rw [hflatten]
      set outcomes := session.zipIdx.map fun entry => (entry.1,
        if Near (anchors messages session) (sessionBounds rules.policy conversation.kind).contextBefore
          (sessionBounds rules.policy conversation.kind).contextAfter entry.2
        then Outcome.selected else .contextBound) with houtcomes
      have hselected : (selectedOf outcomes).Sublist session := by
        have hfilter : (selectedOf outcomes).Sublist (outcomes.map Prod.fst) :=
          List.filter_sublist.map _
        rwa [hsub] at hfilter
      -- the part of the session among the selected is as long as what the session selects
      have hcard : (session.filter fun index => index ∈
          selection.selectedInMonth ∪ (selectedOf outcomes).toFinset).length =
            countOf .selected outcomes := by
        rw [← length_selectedOf]
        apply List.Perm.length_eq
        rw [List.perm_ext_iff_of_nodup (hnodup.filter _) (hnodup.sublist hselected)]
        intro index
        simp only [List.mem_filter, Finset.mem_union, List.mem_toFinset, decide_eq_true_eq]
        constructor
        · rintro ⟨hmem, hbefore | hmem'⟩
          · exact absurd hbefore (hfresh index hmem)
          · exact hmem'
        · intro hmem
          exact ⟨hselected.subset hmem, .inr hmem⟩
      have htotal := @length_eq_selected_add messages session
        (sessionBounds rules.policy conversation.kind).contextBefore
        (sessionBounds rules.policy conversation.kind).contextAfter (anchors messages session)
      rw [← houtcomes] at htotal
      have hcount : (if outcome = .selected then 0 else countOf outcome outcomes) =
          if Outcome.contextBound = outcome then session.length - countOf .selected outcomes else 0 := by
        have hother : ∀ outcome, outcome ≠ .selected → outcome ≠ .contextBound →
            countOf outcome outcomes = 0 := by
          intro outcome hne hne'
          rw [countOf, List.countP_eq_zero, houtcomes]
          intro entry hentry
          obtain ⟨entry', -, rfl⟩ := List.mem_map.mp hentry
          dsimp only
          split_ifs
          · simpa using hne.symm
          · simpa using hne'.symm
        by_cases hselect : outcome = .selected
        · subst hselect
          rfl
        · by_cases hcontext : outcome = .contextBound
          · subst hcontext
            rw [if_neg (by decide), if_pos rfl]
            omega
          · rw [if_neg hselect, if_neg (Ne.symm hcontext), hother outcome hselect hcontext]
      rw [hcount]
      simp only [hcard]
      exact Adds.count _ _

/-- Over all sessions of a month. -/
theorem selectSessions_chooses (sessions : List (List (Index messages)))
    (selection : MonthSelection messages) (hnodup : sessions.flatten.Nodup)
    (hfresh : ∀ index ∈ sessions.flatten, index ∉ selection.selectedInMonth) :
    Chooses conversation month
      (sessions.flatMap
        (rules.sessionParts messages (sessionBounds rules.policy conversation.kind)))
      (sessions.flatMap
        (rules.sessionOutcomes messages (sessionBounds rules.policy conversation.kind)))
      selection (sessions.foldl (rules.selectSession messages conversation month) selection) := by
  induction sessions generalizing selection with
  | nil => exact Chooses.refl selection
  | cons session sessions ih =>
    rw [List.flatten_cons] at hnodup hfresh
    rw [List.nodup_append] at hnodup
    have hstep := @selectSession_chooses rules messages conversation month session selection hnodup.1
      fun index hindex => hfresh index (List.mem_append_left _ hindex)
    rw [List.flatMap_cons, List.flatMap_cons, List.foldl_cons]
    refine hstep.trans (ih _ hnodup.2.1 fun index hindex => ?_)
    rw [hstep.selected, Finset.mem_union, List.mem_toFinset, not_or]
    refine ⟨hfresh index (List.mem_append_right _ hindex), fun hselected => ?_⟩
    have hfst : index ∈ (rules.sessionOutcomes messages
        (sessionBounds rules.policy conversation.kind) session).map Prod.fst :=
      (List.filter_sublist.map _).subset hselected
    rw [sessionOutcomes_fst] at hfst
    exact hnodup.2.2 index hfst index hindex rfl

/-! Months -/

/-- A step counts outcomes and failures and drafts episodes. -/
structure Records (outcomes : List Outcome) (failures : ℕ) (drafts : List EpisodeDraft)
    (earlier later : Selection) : Prop where
  counts : ∀ outcome, Adds outcome earlier.coverage later.coverage
    (outcomes.count outcome + if outcome = .outsideCalendar then failures else 0)
  scanned : later.coverage.scannedMessageCount = earlier.coverage.scannedMessageCount
  drafts : later.episodeDrafts = earlier.episodeDrafts ++ drafts

theorem Records.refl (selection : Selection) : Records [] 0 [] selection selection := by
  refine ⟨fun outcome => ?_, rfl, (List.append_nil _).symm⟩
  rw [List.count_nil, ite_self, Nat.add_zero]
  exact Adds.of_eq rfl

theorem Records.trans {outcomes outcomes' : List Outcome} {failures failures' : ℕ}
    {drafts drafts' : List EpisodeDraft} {first second third : Selection}
    (h : Records outcomes failures drafts first second)
    (h' : Records outcomes' failures' drafts' second third) :
    Records (outcomes ++ outcomes') (failures + failures') (drafts ++ drafts') first third := by
  refine ⟨fun outcome => ?_, h'.scanned.trans h.scanned, ?_⟩
  · have hsum : (outcomes ++ outcomes').count outcome +
        (if outcome = .outsideCalendar then failures + failures' else 0) =
          (outcomes.count outcome + if outcome = .outsideCalendar then failures else 0) +
            (outcomes'.count outcome + if outcome = .outsideCalendar then failures' else 0) := by
      rw [List.count_append]
      split_ifs <;> omega
    rw [hsum]
    exact (h.counts outcome).trans (h'.counts outcome)
  · rw [h'.drafts, h.drafts, List.append_assoc]

/-- The parts of a month that become episodes. -/
def monthParts (rules : SelectionRules) (messages : List CorpusMessageMetadata)
    (bounds : SessionBounds) (active : Bool) (indices : List (Index messages)) :
    List (List (Index messages)) :=
  if active then
    (splitSessions messages indices bounds.gapSeconds).flatMap (rules.sessionParts messages bounds)
  else []

theorem countOf_eq_count {ι : Type} (outcome : Outcome) (outcomes : List (ι × Outcome)) :
    countOf outcome outcomes = (outcomes.map Prod.snd).count outcome := by
  rw [countOf, List.count, List.countP_map]
  congr 1

theorem monthOutcomes_fst {active : Bool} {indices : List (Index messages)} :
    (rules.monthOutcomes messages bounds active indices).map Prod.fst = indices := by
  cases active with
  | false => simp [monthOutcomes, Function.comp_def]
  | true =>
    have hsessions := splitSessions_flatten indices bounds.gapSeconds
    rw [monthOutcomes, if_pos rfl, List.map_flatMap]
    simp only [sessionOutcomes_fst]
    rw [List.flatMap_id', hsessions]

theorem monthParts_flatten {active : Bool} {indices : List (Index messages)} :
    (rules.monthParts messages bounds active indices).flatten =
      selectedOf (rules.monthOutcomes messages bounds active indices) := by
  cases active with
  | false =>
    rw [monthOutcomes, if_neg Bool.false_ne_true, selectedOf_map_const, if_neg (by decide)]
    rfl
  | true =>
    rw [monthParts, monthOutcomes, if_pos rfl, if_pos rfl, selectedOf_flatMap,
      ← List.flatMap_id, List.flatMap_assoc]
    simp only [← sessionParts_flatten, List.flatMap_id]

theorem selectMonth_records (eligible : Bool) (selection : Selection)
    {indices : List (Index messages)} (hnodup : indices.Nodup) :
    Records
      ((rules.monthOutcomes messages (sessionBounds rules.policy conversation.kind)
        (rules.activeMonth messages indices && eligible) indices).map Prod.snd) 0
      ((rules.monthParts messages (sessionBounds rules.policy conversation.kind)
        (rules.activeMonth messages indices && eligible) indices).map
          (draft messages conversation month))
      selection (rules.selectMonth messages conversation eligible selection (month, indices)) := by
  cases hactive : rules.activeMonth messages indices && eligible with
  | false =>
    simp only [selectMonth, hactive, Bool.false_eq_true, if_false]
    refine ⟨fun outcome => ?_, ?_, (List.append_nil _).symm⟩
    · rw [ite_self, Nat.add_zero, ← countOf_eq_count, monthOutcomes, if_neg Bool.false_ne_true,
        countOf_map_const]
      have hmonth : Adds outcome selection.coverage (selection.coverage.countMonth false) 0 :=
        Adds.of_eq (counter_countMonth _ _ _)
      have hcount := hmonth.trans (Adds.count .inactiveMonth indices.length)
      rwa [Nat.zero_add] at hcount
    · exact scanned_count _ _ _
  | true =>
    simp only [selectMonth, hactive, if_true]
    have hflatten := splitSessions_flatten indices
      (sessionBounds rules.policy conversation.kind).gapSeconds
    have hchosen := @selectSessions_chooses rules messages conversation month
      (splitSessions messages indices
        (sessionBounds rules.policy conversation.kind).gapSeconds)
      ⟨selection.coverage.countMonth true, ∅, selection.episodeDrafts⟩ (by rw [hflatten]; exact hnodup)
      fun _ _ => Finset.notMem_empty _
    refine ⟨fun outcome => ?_, ?_, ?_⟩
    · rw [ite_self, Nat.add_zero, ← countOf_eq_count, monthOutcomes, if_pos rfl]
      set outcomes := (splitSessions messages indices
        (sessionBounds rules.policy conversation.kind).gapSeconds).flatMap
          (rules.sessionOutcomes messages (sessionBounds rules.policy conversation.kind)) with hdef
      have hmonth : Adds outcome selection.coverage (selection.coverage.countMonth true) 0 :=
        Adds.of_eq (counter_countMonth _ _ _)
      have hselected : (selectedOf outcomes).Nodup := by
        have hsub : (selectedOf outcomes).Sublist (outcomes.map Prod.fst) :=
          List.filter_sublist.map _
        have hfst := @monthOutcomes_fst rules messages
          (sessionBounds rules.policy conversation.kind) true indices
        rw [monthOutcomes, if_pos rfl, ← hdef] at hfst
        rw [hfst] at hsub
        exact hnodup.sublist hsub
      have hcard : (splitSessions messages indices
          (sessionBounds rules.policy conversation.kind).gapSeconds |>.foldl
            (rules.selectSession messages conversation month)
            ⟨selection.coverage.countMonth true, ∅, selection.episodeDrafts⟩).selectedInMonth.card =
              countOf .selected outcomes := by
        rw [hchosen.selected, Finset.empty_union, List.toFinset_card_of_nodup hselected,
          length_selectedOf]
      have hadds := (hmonth.trans (hchosen.counts outcome)).trans
        (Adds.count .selected (countOf .selected outcomes))
      rw [hcard]
      have hsum : 0 + (if outcome = .selected then 0 else countOf outcome outcomes) +
          (if Outcome.selected = outcome then countOf .selected outcomes else 0) =
            countOf outcome outcomes := by
        by_cases hselect : outcome = .selected
        · subst hselect
          simp
        · rw [if_neg hselect, if_neg (Ne.symm hselect)]
          omega
      rwa [hsum] at hadds
    · rw [scanned_count]
      exact hchosen.scanned
    · rw [hchosen.drafts, monthParts, if_pos rfl]

/-- Over all months of a conversation. -/
theorem selectMonths_records (eligible : Bool)
    (months : List (MonthKey × List (Index messages))) (selection : Selection)
    (hnodup : ∀ entry ∈ months, entry.2.Nodup) :
    Records
      ((months.flatMap fun entry => rules.monthOutcomes messages
        (sessionBounds rules.policy conversation.kind)
        (rules.activeMonth messages entry.2 && eligible) entry.2).map Prod.snd) 0
      (months.flatMap fun entry => (rules.monthParts messages
        (sessionBounds rules.policy conversation.kind)
        (rules.activeMonth messages entry.2 && eligible) entry.2).map
          (draft messages conversation entry.1))
      selection (months.foldl (rules.selectMonth messages conversation eligible) selection) := by
  induction months generalizing selection with
  | nil => exact Records.refl selection
  | cons entry months ih =>
    rw [List.forall_mem_cons] at hnodup
    have hstep := @selectMonth_records rules messages conversation entry.1 eligible selection _
      hnodup.1
    rw [List.flatMap_cons, List.flatMap_cons, List.map_append, List.foldl_cons]
    exact hstep.trans (ih _ hnodup.2)

end SelectionRules

end GreenBubbles.Memory
