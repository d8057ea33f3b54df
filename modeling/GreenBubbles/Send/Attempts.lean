import GreenBubbles.Send.Panel

/-! # What a report says of Return

Every run ends in a report. Where no file panel was staged its `attempted` says
whether a press of Return was made and did not throw; the control plane then
parks the entry. A press that throws, or one that confirmed a panel, is lost.
-/
namespace GreenBubbles.Send.MechanicalSendSkill

open Library.Scripts
open Outbox (SendFailureCode)

variable (skill : MechanicalSendSkill) (capability : ActionCapabilityEnvelope)

/-- What every report of a run carries. -/
structure Reports (outcome : HelperSendOutcome) : Prop where
  formatVersion : outcome.formatVersion = sendContractVersion
  capabilityId : outcome.capabilityId = capability.capabilityId
  bindingSha256 : outcome.capabilityBindingSha256 = capability.bindingSha256
  helperVersion : outcome.helperVersion = skill.helperVersion
  engineVersion : outcome.engineVersion = skill.engineVersion
  profileId : outcome.calibrationProfileId = skill.profile.profileId
  confirmation : outcome.attempted = false → outcome.visualConfirmation = .notAttempted
  permitted : outcome.attempted = true → capability.permitSend = true

/-- What the control plane asks of a report besides the capability it is for. -/
structure Accepted : Prop where
  profileId : skill.profile.profileId = capability.calibrationProfileId
  helperVersion : skill.helperVersion ≠ ""
  engineVersion : skill.engineVersion ≠ ""
  confidence : skill.profile.selftest.minimumTitleConfidencePartsPerMillion ≤ 1000000

/-- A report that ends a run from a state. -/
structure Ends (attempted : Bool) (report : HelperReport) (state : SkillState) : Prop where
  reports : Reports skill capability report.outcome
  attempted : report.outcome.attempted = (attempted && capability.permitSend)
  title : report.outcome.titleConfidencePartsPerMillion =
    state.evidence.titleConfidencePartsPerMillion

/-- No press of Return that was made threw. -/
def Returned (history : SkillHistory) : Prop :=
  ∀ answer, ⟨.perform (.press .returnKey), answer⟩ ∈ history → answer = .ok ()

/-- A press of Return is counted as an attempt, or the report is refused; the entry is parked. -/
def Accounted (report : HelperReport) (history : SkillHistory) : Prop :=
  Pressed history →
    (report.outcome.attempted = true ∨ report.outcome.validateAgainst capability ≠ .ok ()) ∧
    (settleDispatch capability (.ok report.outcome)).outcome = .awaitingReconciliation

section Settling

variable {skill capability} {outcome : HelperSendOutcome}

theorem settle_attempted (hpermit : capability.permitSend = true)
    (h : outcome.attempted = true ∨ outcome.validateAgainst capability ≠ .ok ()) :
    (settleDispatch capability (.ok outcome)).outcome = .awaitingReconciliation := by
  cases hvalid : outcome.validateAgainst capability with
  | error failure => simp [settleDispatch, hvalid, unanswered, hpermit]
  | ok done =>
    rcases h with hattempted | hrefused
    · simp [settleDispatch, hvalid, hattempted]
    · exact absurd hvalid hrefused

theorem settle_unattempted (hattempted : outcome.attempted = false)
    (h : capability.permitSend = false ∨ outcome.validateAgainst capability = .ok ()) :
    (settleDispatch capability (.ok outcome)).outcome ≠ .awaitingReconciliation := by
  cases hvalid : outcome.validateAgainst capability with
  | error failure =>
    rcases h with hpermit | haccepted
    · simp [settleDispatch, hvalid, unanswered, hpermit]
    · rw [hvalid] at haccepted
      cases haccepted
  | ok done =>
    simp only [settleDispatch, hvalid, hattempted]
    cases outcome.failure.isSome <;> simp

theorem Reports.accepted (h : Reports skill capability outcome)
    (haccepted : Accepted skill capability)
    (htitle : outcome.titleConfidencePartsPerMillion =
      skill.profile.selftest.minimumTitleConfidencePartsPerMillion)
    (hattempted : outcome.attempted = false) (hfailure : outcome.failure.isSome = true) :
    outcome.validateAgainst capability = .ok () := by
  have hnone : outcome.failure.isNone = false := by
    rw [← Option.not_isSome, hfailure]
    rfl
  have hconfidence : ¬ 1000000 < skill.profile.selftest.minimumTitleConfidencePartsPerMillion :=
    Nat.not_lt.mpr haccepted.confidence
  simp [HelperSendOutcome.validateAgainst, h.formatVersion, h.capabilityId, h.bindingSha256,
    h.helperVersion, h.engineVersion, h.profileId, h.confirmation hattempted, haccepted.profileId,
    haccepted.helperVersion, haccepted.engineVersion, htitle, hattempted, hnone, hconfidence]

theorem Reports.refused (h : Reports skill capability outcome)
    (hrefused : ¬ Accepted skill capability)
    (htitle : skill.profile.selftest.minimumTitleConfidencePartsPerMillion ≤
      outcome.titleConfidencePartsPerMillion) : outcome.validateAgainst capability ≠ .ok () := by
  intro hvalid
  rw [HelperSendOutcome.validateAgainst] at hvalid
  split_ifs at hvalid with hheader
  simp only [Bool.or_eq_true, bne_iff_ne, beq_iff_eq, decide_eq_true_eq, not_or, not_not,
    not_lt] at hheader
  rcases hheader with ⟨⟨⟨⟨-, hprofile⟩, hhelper⟩, hengine⟩, hconfidence⟩
  rw [h.profileId] at hprofile
  rw [h.helperVersion] at hhelper
  rw [h.engineVersion] at hengine
  exact hrefused ⟨hprofile, hhelper, hengine, htitle.trans hconfidence⟩

end Settling

section Endings

variable {skill capability} {environment : Environment SkillAnswer}
  {world : SkillWorld}

theorem outcome_ends {stage : SendStage} {attempted : Bool}
    {confirmation : Outbox.VisualConfirmation} {failure : Option SendFailureCode} :
    wp environment (skill.outcome capability stage attempted confirmation failure)
      (fun report after => Ends skill capability attempted report after.locals) (fun _ _ => True)
      world := by
  have hconfirmation : (attempted && capability.permitSend) = false →
      (if (attempted && capability.permitSend) = true then confirmation else .notAttempted) =
        Outbox.VisualConfirmation.notAttempted := by
    intro hunattempted
    rw [hunattempted]
    rfl
  have hpermitted : (attempted && capability.permitSend) = true → capability.permitSend = true :=
    fun hattempted => ((Bool.and_eq_true _ _).mp hattempted).2
  exact ⟨⟨rfl, rfl, rfl, rfl, rfl, rfl, hconfirmation, hpermitted⟩, rfl, rfl⟩

theorem measured_ends {started : ℕ} {stage : SendStage} {attempted : Bool}
    {confirmation : Outbox.VisualConfirmation} {failure : Option SendFailureCode} :
    wp environment (do
        measure started
        skill.outcome capability stage attempted confirmation failure)
      (fun report after => Ends skill capability attempted report after.locals) (fun _ _ => True)
      world := by
  apply wp_skip
  intro _ _
  exact outcome_ends

theorem finishDryRun_ends {started : ℕ} {frame : WindowFrame} :
    wp environment (skill.finishDryRun capability started frame)
      (fun report after => Ends skill capability false report after.locals) (fun _ _ => True)
      world := by
  apply wp_skip
  intro _ _
  exact measured_ends

theorem sendVerify_ends {started : ℕ} {frame : WindowFrame} :
    wp environment (skill.sendVerify capability started frame)
      (fun report after => Ends skill capability true report after.locals) (fun _ _ => True)
      world := by
  apply wp_skip
  intro _ _
  apply wp_skip
  intro _ _
  apply wp_skip
  intro _ _
  apply wp_skip
  intro _ _
  apply wp_skip
  intro _ _
  apply wp_skip
  intro _ _
  apply wp_skip
  intro _ _
  apply wp_skip
  intro _ _
  exact measured_ends

theorem confirmAndVerify_ends {started : ℕ} {frame : WindowFrame} :
    wp environment (skill.confirmAndVerify capability started frame)
      (fun report after => Ends skill capability true report after.locals) (fun _ _ => True)
      world := by
  unfold confirmAndVerify
  split
  · split_ifs
    · apply wp_skip
      intro _ _
      apply wp_skip
      intro sheet _
      split_ifs
      · apply wp_skip
        intro _ _
        apply wp_skip
        intro _ _
        apply wp_skip
        intro _ _
        exact sendVerify_ends
      · apply wp_skip
        intro _ _
        exact measured_ends
    · exact sendVerify_ends
  · exact sendVerify_ends

/-- A refusal reports the attempt its state knows of, with a failure. -/
theorem refuse_ends {started : ℕ} {failure : SendFailure} :
    wp environment (skill.refuse capability started failure)
      (fun report after => Ends skill capability world.locals.attempted report world.locals ∧
        report.outcome.failure.isSome = true ∧ Added Quiet world.history after.history)
      (fun _ _ => False) world := by
  have hends : wp environment (skill.refuse capability started failure)
      (fun report _ => Ends skill capability world.locals.attempted report world.locals ∧
        report.outcome.failure.isSome = true) (fun _ _ => False) world := by
    have hconfirmation : (world.locals.attempted && capability.permitSend) = false →
        (if (world.locals.attempted && capability.permitSend) = true then
          (if world.locals.attempted = true then Outbox.VisualConfirmation.unconfirmed
            else .notAttempted) else .notAttempted) = Outbox.VisualConfirmation.notAttempted := by
      intro hunattempted
      rw [hunattempted]
      rfl
    have hpermitted : (world.locals.attempted && capability.permitSend) = true →
        capability.permitSend = true :=
      fun hattempted => ((Bool.and_eq_true _ _).mp hattempted).2
    exact ⟨⟨⟨rfl, rfl, rfl, rfl, rfl, rfl, hconfirmation, hpermitted⟩, rfl, rfl⟩, rfl⟩
  have hcalls : Calls Quiet remembered (skill.refuse capability started failure) :=
    refuse_calls (fun _ h => h) skill capability
  apply wp_mono (wp_and hends hcalls.wp_of)
  · rintro report after - ⟨⟨hreport, hfailure⟩, hadded, -⟩
    exact ⟨hreport, hfailure, hadded⟩
  · rintro _ _ - ⟨hfalse, -⟩
    exact hfalse

theorem send_ends {started : ℕ} {frame : WindowFrame} :
    wp environment (skill.send capability started frame)
      (fun report after => Ends skill capability true report after.locals) (fun _ _ => True)
      world := by
  apply wp_skip
  intro _ _
  apply wp_skip
  intro _ _
  apply wp_skip
  intro _ _
  apply wp_skip
  intro _ _
  apply wp_skip
  intro _ _
  exact confirmAndVerify_ends

end Endings

section Titles

variable {skill capability} {environment : Environment SkillAnswer}
  {world : SkillWorld}

def Unreturning (call : SkillCall) : Prop := call.isReturn = false

theorem unreturning_of_quiet (call : SkillCall) (h : Quiet call) : Unreturning call :=
  SkillCall.isReturn_of_quiet h

theorem unpressed_added {first last : SkillHistory} (h : ¬ Pressed first)
    (hadded : Added Unreturning first last) : ¬ Pressed last := by
  rintro ⟨event, hevent, hreturn⟩
  rcases hadded.mem hevent with hquiet | hmem
  · rw [hquiet] at hreturn
    cases hreturn
  · exact h ⟨event, hmem, hreturn⟩

/-- The title was read well enough. -/
def Read (skill : MechanicalSendSkill) (state : SkillState) : Prop :=
  skill.profile.selftest.minimumTitleConfidencePartsPerMillion ≤
    state.evidence.titleConfidencePartsPerMillion

def title (state : SkillState) : ℕ := state.evidence.titleConfidencePartsPerMillion

theorem title_of_remembered {β : Type} {S : SkillCall → Prop} {script : Skill β}
    (h : Calls S remembered script) : Calls S title script :=
  h.comp fun kept : Bool × String × ℕ => kept.2.2

theorem attempted_of_remembered {β : Type} {S : SkillCall → Prop} {script : Skill β}
    (h : Calls S remembered script) : Calls S SkillState.attempted script :=
  h.comp fun kept : Bool × String × ℕ => kept.1

theorem recipientVerify_reads {frame : WindowFrame} :
    wp environment (skill.recipientVerify capability frame) (fun _ after => Read skill after.locals)
      (fun _ _ => True) world := by
  apply wp_skip
  intro _ _
  apply wp_skip
  intro _ _
  apply wp_skip
  intro text _
  rw [wp_bind, record, wp_modify, check]
  split_ifs with hpasses
  · rw [titlePasses, Bool.and_eq_true, decide_eq_true_eq] at hpasses
    exact hpasses.2
  · trivial

theorem recipientVerify_calls {frame : WindowFrame} :
    Calls Unreturning SkillState.attempted (skill.recipientVerify capability frame) := by
  apply (attempted_of_remembered enter_calls).bind
  intro _
  apply (attempted_of_remembered (yieldToHuman_calls unreturning_of_quiet skill (by simp))).bind
  intro _
  apply (attempted_of_remembered (recognize_calls unreturning_of_quiet skill)).bind
  intro text
  apply Calls.bind (.modify (by intro _; rfl))
  intro _
  exact attempted_of_remembered check_calls

theorem send_calls {started : ℕ} {frame : WindowFrame} :
    Calls (fun _ => True) title (skill.send capability started frame) := by
  have hany : ∀ call, Quiet call → (fun _ : SkillCall => True) call := fun _ _ => trivial
  have hclear : Calls (fun _ => True) remembered (skill.clearCompose frame) :=
    clearCompose_calls hany skill trivial trivial trivial
  apply (title_of_remembered enter_calls).bind
  intro _
  apply (title_of_remembered (yieldToHuman_calls hany skill (by simpa using hclear))).bind
  intro _
  apply (title_of_remembered authorize_calls).bind
  intro _
  apply (title_of_remembered (perform_calls trivial)).bind
  intro _
  apply Calls.bind (.modify (by intro _; rfl))
  intro _
  exact title_of_remembered (confirmAndVerify_calls hany skill capability trivial)

theorem finishDryRun_calls {S : SkillCall → Prop} (hS : ∀ call, Unreturning call → S call)
    {started : ℕ} {frame : WindowFrame} :
    Calls S remembered (skill.finishDryRun capability started frame) := by
  have hquiet := of_quiet hS
  apply (clearingCompose_calls hS skill).bind
  intro _
  apply (measure_calls hquiet).bind
  intro _
  exact outcome_calls hquiet skill capability

/-- Nothing was pressed yet where a script that cannot press hands over. -/
theorem unpressed_bind {β γ τ : Type} {view : SkillState → τ} {script : Skill β}
    {next : β → Skill γ} {Q : γ → SkillWorld → Prop} {E : SendFailure → SkillWorld → Prop}
    (hcalls : Calls Unreturning view script) (hworld : ¬ Pressed world.history)
    (hthrow : ∀ failure after, ¬ Pressed after.history → view after.locals = view world.locals →
      E failure after)
    (hnext : ∀ value after, ¬ Pressed after.history → view after.locals = view world.locals →
      wp environment (next value) Q E after) :
    wp environment (script >>= next) Q E world := by
  rw [wp_bind]
  apply wp_mono hcalls.wp_of
  · rintro value after - ⟨hadded, hkept⟩
    exact hnext value after (unpressed_added hworld hadded) hkept
  · rintro failure after - ⟨hadded, hkept⟩
    exact hthrow failure after (unpressed_added hworld hadded) hkept

/-- No Return is pressed before the title was read well enough. -/
theorem prepare_reads {started : ℕ} (h : ¬ Pressed world.history) :
    wp environment (skill.prepare capability started) (fun _ after => Read skill after.locals)
      (fun _ after => Pressed after.history → Read skill after.locals) world := by
  have hunread : ∀ after : SkillWorld, ¬ Pressed after.history →
      Pressed after.history → Read skill after.locals :=
    fun _ hafter hpressed => absurd hpressed hafter
  apply unpressed_bind (precheck_calls skill capability) h fun _ after hafter _ =>
    hunread after hafter
  intro _ _ h _
  apply unpressed_bind (calibrate_calls unreturning_of_quiet skill) h fun _ after hafter _ =>
    hunread after hafter
  intro frame _ h _
  apply unpressed_bind (address_calls unreturning_of_quiet skill capability rfl rfl rfl rfl) h
    fun _ after hafter _ => hunread after hafter
  intro _ addressed h _
  rw [wp_bind]
  apply wp_mono (wp_and recipientVerify_reads recipientVerify_calls.wp_of)
  · rintro _ verified - ⟨hread, -⟩
    have hcompose : Calls (fun _ => True) title (skill.compose capability frame) :=
      (compose_calls (fun _ _ => trivial) skill capability fun _ _ _ _ => trivial).comp Prod.snd
    have hcontent : Calls (fun _ => True) title (skill.contentVerify capability frame) :=
      title_of_remembered (contentVerify_calls (fun _ _ => trivial) skill capability)
    have hcalls : Calls (fun _ => True) title (do
        skill.compose capability frame
        skill.contentVerify capability frame
        pure frame) := hcompose.bind fun _ => hcontent.bind fun _ => .pure
    have hkept : ∀ after : SkillWorld,
        title after.locals = title verified.locals → Read skill after.locals := by
      intro after hafter
      rw [Read]
      exact hread.trans hafter.ge
    apply wp_mono hcalls.wp_of
    · rintro _ after - ⟨-, hafter⟩
      exact hkept after hafter
    · rintro _ after - ⟨-, hafter⟩ _
      exact hkept after hafter
  · rintro _ after - ⟨-, hadded, -⟩ hpressed
    exact absurd hpressed (unpressed_added h hadded)

theorem attempt_reads {started : ℕ} (h : ¬ Pressed world.history) :
    wp environment (skill.attempt capability started)
      (fun report _ => Reports skill capability report.outcome ∧
        skill.profile.selftest.minimumTitleConfidencePartsPerMillion ≤
          report.outcome.titleConfidencePartsPerMillion)
      (fun _ after => Pressed after.history → Read skill after.locals) world := by
  rw [attempt, wp_bind]
  apply wp_mono (prepare_reads h)
  · rintro frame prepared - hread
    have hrest : ∀ {attempted : Bool} {script : Skill HelperReport},
        Calls (fun _ => True) title script →
        wp environment script
          (fun report after => Ends skill capability attempted report after.locals)
          (fun _ _ => True) prepared →
        wp environment script (fun report after => Reports skill capability report.outcome ∧
            skill.profile.selftest.minimumTitleConfidencePartsPerMillion ≤
              report.outcome.titleConfidencePartsPerMillion)
          (fun _ after => Pressed after.history → Read skill after.locals) prepared := by
      intro attempted script hcalls hends
      apply wp_mono (wp_and hends hcalls.wp_of)
      · rintro report after - ⟨hreport, -, hafter⟩
        refine ⟨hreport.reports, ?_⟩
        rw [hreport.title]
        exact hread.trans hafter.ge
      · rintro _ after - ⟨-, -, hafter⟩ _
        exact hread.trans hafter.ge
    split_ifs
    · exact hrest send_calls send_ends
    · exact hrest (title_of_remembered (finishDryRun_calls fun _ _ => trivial)) finishDryRun_ends
  · intro _ _ _ hafter
    exact hafter

/-- A run that presses Return reports the title it read. -/
theorem execute_reads :
    wp environment (skill.execute capability)
      (fun report after => Reports skill capability report.outcome ∧ (Pressed after.history →
        skill.profile.selftest.minimumTitleConfidencePartsPerMillion ≤
          report.outcome.titleConfidencePartsPerMillion))
      (fun _ _ => False) ⟨.initial, []⟩ := by
  rw [execute, wp_bind, wp_call, wp_recover]
  have hclock : ¬ Pressed [⟨.clock, environment [] .clock⟩] := by
    rintro ⟨event, hevent, hreturn⟩
    rw [List.mem_singleton.mp hevent] at hreturn
    cases hreturn
  apply wp_mono (attempt_reads hclock)
  · rintro report after - ⟨hreports, hread⟩
    exact ⟨hreports, fun _ => hread⟩
  · intro failure failed _ hread
    apply wp_mono refuse_ends
    · rintro report _ - ⟨hends, -, hadded⟩
      refine ⟨hends.reports, fun hpressed => ?_⟩
      rw [hends.title]
      apply hread
      by_contra hunpressed
      apply unpressed_added hunpressed _ hpressed
      rcases hadded with ⟨added, hadded, hquiet⟩
      exact ⟨added, hadded, fun event hevent => SkillCall.isReturn_of_quiet (hquiet event hevent)⟩
    · intro _ _ _ hfalse
      exact hfalse

end Titles

section Fates

variable {skill capability} {environment : Environment SkillAnswer}
  {world : SkillWorld}

/-- Counted exactly when Return was pressed and no press threw. -/
def Counted (attempted : Bool) (history : SkillHistory) : Prop :=
  attempted = true ↔ Pressed history ∧ Returned history

theorem counted_unpressed {history : SkillHistory} (h : ¬ Pressed history) :
    Counted false history :=
  ⟨nofun, fun hboth => absurd hboth.1 h⟩

theorem returned_added {first last : SkillHistory} (hadded : Added Unreturning first last) :
    Returned last ↔ Returned first := by
  constructor
  · intro h answer hanswer
    rcases hadded with ⟨added, rfl, -⟩
    exact h answer (List.mem_append_right _ hanswer)
  · intro h answer hanswer
    rcases hadded.mem hanswer with hquiet | hmem
    · cases hquiet
    · exact h answer hmem

theorem pressed_added {first last : SkillHistory} (hadded : Added Unreturning first last) :
    Pressed last ↔ Pressed first := by
  constructor
  · intro h
    by_contra hfirst
    exact unpressed_added hfirst hadded h
  · rcases hadded with ⟨added, rfl, -⟩
    exact Pressed.mono _ _ (List.suffix_append _ _)

theorem Counted.added {attempted : Bool} {first last : SkillHistory} (h : Counted attempted first)
    (hadded : Added Unreturning first last) : Counted attempted last := by
  rw [Counted, pressed_added hadded, returned_added hadded]
  exact h

/-- Without a file panel nothing before the send stage presses Return. -/
theorem prepare_calls {started : ℕ} (hpanel : ¬ StagesThroughPanel skill capability) :
    Calls Unreturning SkillState.attempted (skill.prepare capability started) := by
  apply (attempted_of_remembered (precheck_calls skill capability)).bind_of
    (fun environment world => wp_mono precheck_proves (fun _ _ _ hproved => hproved.1)
      fun _ _ _ _ => trivial)
  rintro _ ⟨hvalid, hprofile, hauthorized⟩
  apply (attempted_of_remembered (calibrate_calls unreturning_of_quiet skill)).bind
  intro frame
  apply (attempted_of_remembered
    (address_calls unreturning_of_quiet skill capability rfl rfl rfl rfl)).bind_of
    (fun environment world => address_echoes)
  intro _ hechoes
  apply recipientVerify_calls.bind
  intro _
  have hcompose : Calls Unreturning noted (skill.compose capability frame) := by
    apply compose_calls (fun _ h => h) skill capability
    intro attachments hattached hattachments hrefuses
    exact absurd ⟨⟨started, hvalid⟩, hprofile, hauthorized, hechoes, hattached,
      ⟨attachments, hattachments, hrefuses⟩⟩ hpanel
  apply (hcompose.comp Prod.fst).bind
  intro _
  apply (attempted_of_remembered (contentVerify_calls (fun _ h => h) skill capability)).bind
  intro _
  exact .pure

theorem unpressed_returned {history : SkillHistory} (h : ¬ Pressed history) : Returned history :=
  fun _ hanswer => absurd ⟨_, hanswer, rfl⟩ h

/-- The send stage counts its press, unless the press throws. -/
theorem send_counted {started : ℕ} {frame : WindowFrame} (hpermit : capability.permitSend = true)
    (hunpressed : ¬ Pressed world.history) (hattempted : world.locals.attempted = false) :
    wp environment (skill.send capability started frame)
      (fun report after => Counted report.outcome.attempted after.history)
      (fun _ after => Counted after.locals.attempted after.history) world := by
  have huncounted : ∀ after : SkillWorld, ¬ Pressed after.history →
      after.locals.attempted = false → Counted after.locals.attempted after.history := by
    intro after hafter hstate
    rw [hstate]
    exact counted_unpressed hafter
  apply unpressed_bind (attempted_of_remembered enter_calls) hunpressed
    fun _ after hafter hkept => huncounted after hafter (hkept.trans hattempted)
  intro _ entered hunpressed hkept
  replace hattempted := hkept.trans hattempted
  have hclear : Calls Unreturning remembered (skill.clearCompose frame) :=
    clearingCompose_calls (fun _ h => h) skill
  apply unpressed_bind (attempted_of_remembered
      (yieldToHuman_calls unreturning_of_quiet skill (by simpa using hclear))) hunpressed
    fun _ after hafter hkept => huncounted after hafter (hkept.trans hattempted)
  intro _ yielded hunpressed hkept
  replace hattempted := hkept.trans hattempted
  apply unpressed_bind (attempted_of_remembered authorize_calls) hunpressed
    fun _ after hafter hkept => huncounted after hafter (hkept.trans hattempted)
  intro _ ready hunpressed hkept
  replace hattempted := hkept.trans hattempted
  rw [wp_bind]
  apply wp_perform
  · intro value
    have hcounted : Counted true (performed (.press .returnKey) value :: ready.history) := by
      refine ⟨fun _ => ⟨⟨_, List.mem_cons_self, rfl⟩, ?_⟩, fun _ => rfl⟩
      intro answer hanswer
      rcases List.mem_cons.mp hanswer with hsame | hmem
      · cases hsame
        rfl
      · exact unpressed_returned hunpressed answer hmem
    have hcalls : Calls Unreturning remembered (skill.confirmAndVerify capability started frame) :=
      confirmAndVerify_calls unreturning_of_quiet skill capability rfl
    rw [afterReturn, wp_bind, wp_modify]
    apply wp_mono (wp_and confirmAndVerify_ends (attempted_of_remembered hcalls).wp_of)
    · rintro report after - ⟨hends, hadded, -⟩
      rw [hends.attempted, hpermit]
      exact hcounted.added hadded
    · rintro _ after - ⟨-, hadded, hafter⟩
      rw [hafter]
      exact hcounted.added hadded
  · intro failure
    change Counted ready.locals.attempted _
    rw [hattempted]
    refine ⟨fun hfalse => absurd hfalse Bool.false_ne_true, fun hboth => ?_⟩
    have hthrown := hboth.2 (.error failure) List.mem_cons_self
    cases hthrown

theorem attempt_counted {started : ℕ} (hpanel : ¬ StagesThroughPanel skill capability)
    (hunpressed : ¬ Pressed world.history) (hattempted : world.locals.attempted = false) :
    wp environment (skill.attempt capability started)
      (fun report after => Counted report.outcome.attempted after.history)
      (fun _ after => Counted after.locals.attempted after.history ∧
        (after.locals.attempted = true → capability.permitSend = true)) world := by
  rw [attempt, wp_bind]
  apply wp_mono (prepare_calls hpanel).wp_of
  · rintro frame prepared - ⟨hadded, hkept⟩
    have hready := unpressed_added hunpressed hadded
    split_ifs with hpermit
    · apply wp_mono (send_counted hpermit hready (hkept.trans hattempted))
      · intro _ _ _ hafter
        exact hafter
      · intro _ _ _ hafter
        exact ⟨hafter, fun _ => hpermit⟩
    · have hcalls : Calls Unreturning remembered (skill.finishDryRun capability started frame) :=
        finishDryRun_calls fun _ h => h
      apply wp_mono (wp_and finishDryRun_ends (attempted_of_remembered hcalls).wp_of)
      · rintro report after - ⟨hends, hafter, -⟩
        rw [hends.attempted, Bool.false_and]
        exact counted_unpressed (unpressed_added hready hafter)
      · rintro _ after - ⟨-, hafter, hsame⟩
        have hunattempted := (hsame.trans hkept).trans hattempted
        rw [hunattempted]
        exact ⟨counted_unpressed (unpressed_added hready hafter),
          fun hfalse => absurd hfalse Bool.false_ne_true⟩
  · rintro _ after - ⟨hadded, hkept⟩
    rw [hkept, hattempted]
    exact ⟨counted_unpressed (unpressed_added hunpressed hadded),
      fun hfalse => absurd hfalse Bool.false_ne_true⟩

/-- Without a file panel a run's report counts its press, unless the press threw. -/
theorem execute_counted (hpanel : ¬ StagesThroughPanel skill capability) :
    wp environment (skill.execute capability)
      (fun report after => Counted report.outcome.attempted after.history) (fun _ _ => False)
      ⟨.initial, []⟩ := by
  rw [execute, wp_bind, wp_call, wp_recover]
  have hclock : ¬ Pressed [⟨.clock, environment [] .clock⟩] := by
    rintro ⟨event, hevent, hreturn⟩
    rw [List.mem_singleton.mp hevent] at hreturn
    cases hreturn
  apply wp_mono (attempt_counted hpanel hclock rfl)
  · intro _ _ _ hafter
    exact hafter
  · rintro failure failed - ⟨hcounted, hpermitted⟩
    apply wp_mono refuse_ends
    · rintro report after - ⟨hends, -, added, hadded, hquiet⟩
      have hsame : (failed.locals.attempted && capability.permitSend) =
          failed.locals.attempted := by
        cases hattempted : failed.locals.attempted with
        | false => rfl
        | true => rw [hpermitted hattempted, Bool.and_self]
      rw [hends.attempted, hsame]
      exact hcounted.added ⟨added, hadded, fun event hevent =>
        SkillCall.isReturn_of_quiet (hquiet event hevent)⟩
    · intro _ _ _ hfalse
      exact hfalse

/-- Without a file panel a run whose presses did not throw is accounted for. -/
theorem execute_accounted (hpanel : ¬ StagesThroughPanel skill capability) :
    wp environment (skill.execute capability)
      (fun report after => (report.outcome.attempted = true ↔
        Pressed after.history ∧ Returned after.history) ∧
        (Returned after.history → Accounted capability report after.history))
      (fun _ _ => False) ⟨.initial, []⟩ := by
  apply wp_mono (wp_and (execute_counted hpanel) execute_reads)
  · rintro report after - ⟨hcounted, hreports, -⟩
    refine ⟨hcounted, fun hreturned hpressed => ?_⟩
    have hattempted := hcounted.mpr ⟨hpressed, hreturned⟩
    exact ⟨.inl hattempted, settle_attempted (hreports.permitted hattempted) (.inl hattempted)⟩
  · rintro _ _ - ⟨hfalse, -⟩
    exact hfalse

/-- A panel of a run that may not send, or whose reports the control plane takes, is closed
as if Return had not been pressed. -/
theorem helpful_unaccounted {now : ℕ} {echo : String} (hpanel : StagesThroughPanel skill capability)
    (hcloses : capability.permitSend = false ∨ Accepted skill capability)
    (hvalid : capability.helperValidate skill.swift now = .ok ())
    (hecho : capability.addressingMode.typesBeforeRecipientGate = true →
      skill.swift.echoes echo capability.searchKey = true) :
    wp (skill.helpful capability now echo) (skill.execute capability)
      (fun report after => Pressed after.history ∧ report.outcome.attempted = false ∧
        ∃ kind, (settleDispatch capability (.ok report.outcome)).outcome = .completed kind)
      (fun _ _ => False) ⟨.initial, []⟩ := by
  apply wp_mono (wp_and (helpful_execute hpanel hvalid hecho) execute_reads)
  · rintro report after - ⟨⟨hpressed, hattempted, hfailure, htitle⟩, hreports, -⟩
    refine ⟨hpressed, hattempted, ?_⟩
    have hparked : (settleDispatch capability (.ok report.outcome)).outcome ≠
        .awaitingReconciliation := by
      apply settle_unattempted hattempted
      apply hcloses.imp_right
      intro haccepted
      exact hreports.accepted haccepted htitle hattempted hfailure
    cases hsettled : (settleDispatch capability (.ok report.outcome)).outcome with
    | awaitingReconciliation => exact absurd hsettled hparked
    | completed kind => exact ⟨kind, rfl⟩
  · rintro _ _ - ⟨hfalse, -⟩
    exact hfalse

end Fates

/-- With an effector whose Return never throws, every run is accounted for exactly when
none can confirm a file panel whose report would be taken. Whatever the effector does, a run
without a panel reports an attempt when Return was pressed and no press threw. -/
theorem attempts_accounted (skill : MechanicalSendSkill) (capability : ActionCapabilityEnvelope) :
    ((∀ environment : Environment SkillAnswer,
        (∀ history, environment history (.perform (.press .returnKey)) = .ok ()) →
        wp environment (skill.execute capability)
          (fun report after => Accounted capability report after.history) (fun _ _ => False)
          ⟨.initial, []⟩) ↔
      ¬ (StagesThroughPanel skill capability ∧
        (capability.permitSend = false ∨ Accepted skill capability))) ∧
    (¬ StagesThroughPanel skill capability → ∀ environment,
      wp environment (skill.execute capability)
        (fun report after => (report.outcome.attempted = true ↔
          Pressed after.history ∧ Returned after.history) ∧
          (Returned after.history → Accounted capability report after.history))
        (fun _ _ => False) ⟨.initial, []⟩) := by
  refine ⟨⟨?_, ?_⟩, fun hpanel environment => execute_accounted hpanel⟩
  · rintro haccounted ⟨hpanel, hcloses⟩
    rcases hpanel.validates with ⟨now, hvalid⟩
    rcases hpanel.echoed with ⟨echo, hecho⟩
    have hboth := wp_and (haccounted (skill.helpful capability now echo) fun _ => rfl)
      (helpful_unaccounted hpanel hcloses hvalid hecho)
    rw [wp] at hboth
    split at hboth
    · rcases hboth.2.2.2 with ⟨kind, hkind⟩
      have hparked := (hboth.1 hboth.2.1).2
      rw [hkind] at hparked
      cases hparked
    · exact hboth.1
  · intro hclosed environment hreturns
    by_cases hpanel : StagesThroughPanel skill capability
    · have hrefused : capability.permitSend = true ∧ ¬ Accepted skill capability := by
        rw [not_and, not_or, Bool.not_eq_false] at hclosed
        exact hclosed hpanel
      apply wp_mono execute_reads
      · rintro report after - ⟨hreports, hread⟩ hpressed
        have hunvalid := hreports.refused hrefused.2 (hread hpressed)
        exact ⟨.inr hunvalid, settle_attempted hrefused.1 (.inr hunvalid)⟩
      · intro _ _ _ hfalse
        exact hfalse
    · apply wp_mono (execute_accounted hpanel)
      · rintro report after hgrown ⟨-, haccounted⟩
        apply haccounted
        intro answer hanswer
        rcases List.append_of_mem hanswer with ⟨later, earlier, hsplit⟩
        rw [← hreturns earlier]
        exact hgrown.answered later _ earlier hsplit
      · intro _ _ _ hfalse
        exact hfalse

/-- The sample's dry run presses Return, reports that it did not and is closed as failed. -/
theorem sampleImage_unaccounted : ∃ environment : Environment SkillAnswer,
    (∀ history, environment history (.perform (.press .returnKey)) = .ok ()) ∧
    wp environment (sampleSkill.execute sampleImage)
      (fun report after => Pressed after.history ∧ report.outcome.attempted = false ∧
        ∃ kind, (settleDispatch sampleImage (.ok report.outcome)).outcome = .completed kind)
      (fun _ _ => False) ⟨.initial, []⟩ := by
  have hecho : sampleImage.addressingMode.typesBeforeRecipientGate = true →
      sampleSkill.swift.echoes "" sampleImage.searchKey = true := nofun
  exact ⟨sampleSkill.helpful sampleImage 5 "", fun _ => rfl,
    @helpful_unaccounted sampleSkill sampleImage _ _ sampleImage_panel (.inl rfl)
      sampleImage_validates hecho⟩

end GreenBubbles.Send.MechanicalSendSkill
