import GreenBubbles.Send.Attempts

/-! # One press of Return, one accepted report

Where no file panel is staged a run presses Return once at most. Its report is
what the control plane accepts, if the profile has the name the capability
carries and perception reads no confidence above a million.
-/
namespace GreenBubbles.Send.MechanicalSendSkill

open Library.Scripts
open Outbox (SendFailureCode VisualConfirmation)

variable {skill : MechanicalSendSkill} {capability : ActionCapabilityEnvelope}
  {environment : Environment SkillAnswer} {world : SkillWorld}

/-- How often Return was pressed, whatever the effector said of it. -/
def returns (history : SkillHistory) : ℕ := history.countP fun event => event.1.isReturn

theorem returns_unpressed {history : SkillHistory} (h : ¬ Pressed history) :
    returns history = 0 := by
  rw [returns, List.countP_eq_zero]
  exact fun event hevent hreturn => h ⟨event, hevent, hreturn⟩

theorem returns_pressed {history : SkillHistory} (h : Pressed history) : 0 < returns history :=
  List.countP_pos_iff.mpr h

theorem returns_added {first last : SkillHistory} (h : Added Unreturning first last) :
    returns last = returns first := by
  rcases h with ⟨added, rfl, hadded⟩
  have hzero : added.countP (fun event => event.1.isReturn) = 0 := by
    rw [List.countP_eq_zero]
    intro event hevent hreturn
    have hnone : event.1.isReturn = false := hadded event hevent
    rw [hnone] at hreturn
    cases hreturn
  rw [returns, List.countP_append, hzero, Nat.zero_add, returns]

/-- After the press of Return nothing presses it again. -/
theorem send_returns {started : ℕ} {frame : WindowFrame} (hunpressed : ¬ Pressed world.history) :
    wp environment (skill.send capability started frame)
      (fun _ after => returns after.history ≤ 1) (fun _ after => returns after.history ≤ 1)
      world := by
  have hnone : ∀ after : SkillWorld, ¬ Pressed after.history → returns after.history ≤ 1 := by
    intro after hafter
    rw [returns_unpressed hafter]
    exact Nat.zero_le 1
  apply unpressed_bind (attempted_of_remembered enter_calls) hunpressed
    fun _ after hafter _ => hnone after hafter
  intro _ entered hunpressed _
  have hclear : Calls Unreturning remembered (skill.clearCompose frame) :=
    clearingCompose_calls (fun _ h => h) skill
  apply unpressed_bind (attempted_of_remembered
      (yieldToHuman_calls unreturning_of_quiet skill (by simpa using hclear))) hunpressed
    fun _ after hafter _ => hnone after hafter
  intro _ yielded hunpressed _
  apply unpressed_bind (attempted_of_remembered authorize_calls) hunpressed
    fun _ after hafter _ => hnone after hafter
  intro _ ready hunpressed _
  have hpress : ∀ event : ScriptEvent SkillAnswer, returns (event :: ready.history) ≤ 1 := by
    intro event
    have hready := returns_unpressed hunpressed
    rw [returns] at hready
    rw [returns, List.countP_cons, hready]
    split_ifs <;> omega
  have hcalls : Calls Unreturning remembered (skill.confirmAndVerify capability started frame) :=
    confirmAndVerify_calls unreturning_of_quiet skill capability rfl
  rw [wp_bind]
  apply wp_perform
  · intro value
    rw [afterReturn, wp_bind, wp_modify]
    apply wp_mono hcalls.wp_of
    · rintro _ after - ⟨hadded, -⟩
      rw [returns_added hadded]
      exact hpress _
    · rintro _ after - ⟨hadded, -⟩
      rw [returns_added hadded]
      exact hpress _
  · intro failure
    exact hpress _

theorem attempt_returns {started : ℕ} (hpanel : ¬ StagesThroughPanel skill capability)
    (hunpressed : ¬ Pressed world.history) :
    wp environment (skill.attempt capability started)
      (fun _ after => returns after.history ≤ 1) (fun _ after => returns after.history ≤ 1)
      world := by
  have hnone : ∀ after : SkillWorld, Added Unreturning world.history after.history →
      returns after.history ≤ 1 := by
    intro after hadded
    rw [returns_added hadded, returns_unpressed hunpressed]
    exact Nat.zero_le 1
  rw [attempt, wp_bind]
  apply wp_mono (prepare_calls hpanel).wp_of
  · rintro frame prepared - ⟨hadded, -⟩
    have hready := unpressed_added hunpressed hadded
    split_ifs
    · exact send_returns hready
    · have hcalls : Calls Unreturning remembered (skill.finishDryRun capability started frame) :=
        finishDryRun_calls fun _ h => h
      apply wp_mono hcalls.wp_of
      · rintro _ after - ⟨hafter, -⟩
        exact hnone after (hadded.trans hafter)
      · rintro _ after - ⟨hafter, -⟩
        exact hnone after (hadded.trans hafter)
  · rintro _ after - ⟨hadded, -⟩
    exact hnone after hadded

/-- Without a file panel a run presses Return once at most. -/
theorem execute_returns (hpanel : ¬ StagesThroughPanel skill capability) :
    wp environment (skill.execute capability) (fun _ after => returns after.history ≤ 1)
      (fun _ _ => False) ⟨.initial, []⟩ := by
  rw [execute, wp_bind, wp_call, wp_recover]
  have hclock : ¬ Pressed [⟨.clock, environment [] .clock⟩] := by
    rintro ⟨event, hevent, hreturn⟩
    rw [List.mem_singleton.mp hevent] at hreturn
    cases hreturn
  apply wp_mono (attempt_returns hpanel hclock)
  · intro _ _ _ hafter
    exact hafter
  · rintro failure failed - hfailed
    apply wp_mono refuse_ends
    · rintro report after - ⟨-, -, added, hadded, hquiet⟩
      have hunreturning : Added Unreturning failed.history after.history :=
        ⟨added, hadded, fun event hevent => SkillCall.isReturn_of_quiet (hquiet event hevent)⟩
      rw [returns_added hunreturning]
      exact hfailed
    · intro _ _ _ hfalse
      exact hfalse

/-! What a report says of itself -/

/-- A press is seen confirmed or not; without one the run failed or stopped before it. -/
structure Consistent (outcome : HelperSendOutcome) : Prop where
  confirmed : outcome.attempted = true → outcome.visualConfirmation ≠ .notAttempted
  stopped : outcome.attempted = false → outcome.failure = none → outcome.stageReached = .contentVerify

theorem outcome_consistent {stage : SendStage} {attempted : Bool}
    {confirmation : VisualConfirmation} {failure : Option SendFailureCode}
    (hconfirmed : attempted = true → confirmation ≠ .notAttempted)
    (hstopped : (attempted && capability.permitSend) = false → failure = none →
      stage = .contentVerify) :
    wp environment (skill.outcome capability stage attempted confirmation failure)
      (fun report _ => Consistent report.outcome) (fun _ _ => True) world := by
  refine ⟨fun hattempted => ?_, hstopped⟩
  have hboth : (attempted && capability.permitSend) = true := hattempted
  have hvisual : (if (attempted && capability.permitSend) = true then confirmation
      else VisualConfirmation.notAttempted) = confirmation := if_pos hboth
  exact hvisual.trans_ne (hconfirmed ((Bool.and_eq_true _ _).mp hboth).1)

theorem finishDryRun_consistent {started : ℕ} {frame : WindowFrame} :
    wp environment (skill.finishDryRun capability started frame)
      (fun report _ => Consistent report.outcome) (fun _ _ => True) world := by
  apply wp_skip
  intro _ _
  apply wp_skip
  intro _ _
  exact outcome_consistent (fun hfalse => absurd hfalse Bool.false_ne_true) fun _ _ => rfl

theorem sendVerify_consistent {started : ℕ} {frame : WindowFrame}
    (hpermit : capability.permitSend = true) :
    wp environment (skill.sendVerify capability started frame)
      (fun report _ => Consistent report.outcome) (fun _ _ => True) world := by
  have hsent : (true && capability.permitSend) = false → ∀ failure : Option SendFailureCode,
      failure = none → SendStage.sendVerify = .contentVerify := by
    intro hfalse
    rw [hpermit] at hfalse
    cases hfalse
  apply wp_skip
  intro _ _
  apply wp_skip
  intro _ _
  apply wp_skip
  intro _ _
  apply wp_skip
  intro _ _
  apply wp_skip
  intro _ _
  apply wp_skip
  intro _ _
  apply wp_skip
  intro _ _
  apply wp_skip
  intro _ _
  apply wp_skip
  intro _ _
  apply outcome_consistent
  · intro _
    split_ifs <;> exact nofun
  · exact fun hfalse => hsent hfalse _

theorem confirmAndVerify_consistent {started : ℕ} {frame : WindowFrame}
    (hpermit : capability.permitSend = true) :
    wp environment (skill.confirmAndVerify capability started frame)
      (fun report _ => Consistent report.outcome) (fun _ _ => True) world := by
  unfold confirmAndVerify
  split
  · split_ifs
    · apply wp_skip
      intro _ _
      apply wp_skip
      intro sheet _
      split_ifs
      · apply wp_skip
        intro _ _
        apply wp_skip
        intro _ _
        apply wp_skip
        intro _ _
        exact sendVerify_consistent hpermit
      · apply wp_skip
        intro _ _
        apply wp_skip
        intro _ _
        exact outcome_consistent (fun _ => nofun) fun _ => nofun
    · exact sendVerify_consistent hpermit
  · exact sendVerify_consistent hpermit

theorem attempt_consistent {started : ℕ} :
    wp environment (skill.attempt capability started)
      (fun report _ => Consistent report.outcome) (fun _ _ => True) world := by
  apply wp_skip
  intro frame _
  split_ifs with hpermit
  · apply wp_skip
    intro _ _
    apply wp_skip
    intro _ _
    apply wp_skip
    intro _ _
    apply wp_skip
    intro _ _
    apply wp_skip
    intro _ _
    exact confirmAndVerify_consistent hpermit
  · exact finishDryRun_consistent

theorem refuse_consistent {started : ℕ} {failure : SendFailure} :
    wp environment (skill.refuse capability started failure)
      (fun report _ => Consistent report.outcome) (fun _ _ => True) world := by
  apply wp_skip
  intro _ _
  apply wp_skip
  intro _ _
  apply wp_skip
  intro state _
  apply outcome_consistent
  · intro hattempted
    rw [if_pos hattempted]
    exact nofun
  · exact fun _ => nofun

theorem execute_consistent :
    wp environment (skill.execute capability) (fun report _ => Consistent report.outcome)
      (fun _ _ => True) ⟨.initial, []⟩ := by
  rw [execute, wp_bind, wp_call, wp_recover]
  apply wp_mono attempt_consistent
  · intro _ _ _ hreport
    exact hreport
  · intro failure failed _ _
    exact refuse_consistent

/-! The confidence of a report -/

/-- Perception gives a confidence in parts per million. -/
def Perceives (environment : Environment SkillAnswer) : Prop :=
  ∀ history region frame text,
    environment history (.perform (.recognizeText region frame)) = .ok text →
      text.confidencePartsPerMillion ≤ partsPerMillion

/-- However a script ends, the title's confidence is in parts per million. -/
def StaysBounded {β : Type} (environment : Environment SkillAnswer) (script : Skill β) : Prop :=
  ∀ world : SkillWorld, title world.locals ≤ partsPerMillion →
    wp environment script (fun _ after => title after.locals ≤ partsPerMillion)
      (fun _ after => title after.locals ≤ partsPerMillion) world

theorem staysBounded_bind {β γ : Type} {script : Skill γ} {next : γ → Skill β}
    (h : StaysBounded environment script) (hnext : ∀ value, StaysBounded environment (next value)) :
    StaysBounded environment (script >>= next) := by
  intro world hworld
  rw [wp_bind]
  apply wp_mono (h world hworld)
  · intro value after _ hafter
    exact hnext value after hafter
  · intro _ _ _ hafter
    exact hafter

theorem staysBounded_of_calls {β : Type} {S : SkillCall → Prop} {script : Skill β}
    (h : Calls S title script) : StaysBounded environment script := by
  intro world hworld
  apply wp_mono h.wp_of
  · rintro _ after - ⟨-, hkept⟩
    exact hkept.trans_le hworld
  · rintro _ after - ⟨-, hkept⟩
    exact hkept.trans_le hworld

theorem recipientVerify_bounded (hperceives : Perceives environment) {frame : WindowFrame} :
    StaysBounded environment (skill.recipientVerify capability frame) := by
  apply staysBounded_bind (@staysBounded_of_calls _ _ (fun _ => True) _
    (title_of_remembered enter_calls))
  intro _
  apply staysBounded_bind (staysBounded_of_calls (title_of_remembered
    (yieldToHuman_calls unreturning_of_quiet skill (by simp))))
  intro _ world hworld
  rw [wp_bind, recognize, wp_bind]
  apply wp_mono (title_of_remembered (authorize_calls (S := fun _ => True))).wp_of
  · rintro _ ready - ⟨-, hkept⟩
    rw [perform, wp_bind, wp_call, wp_ofExcept]
    constructor
    · intro text htext
      have hconfidence := hperceives _ _ _ _ htext
      rw [wp_bind, record, wp_modify, check]
      split_ifs
      · exact hconfidence
      · exact hconfidence
    · intro _ _
      exact hkept.trans_le hworld
  · rintro _ after - ⟨-, hkept⟩
    exact hkept.trans_le hworld

theorem attempt_bounded (hperceives : Perceives environment) {started : ℕ} :
    StaysBounded environment (skill.attempt capability started) := by
  have hcompose : ∀ frame, Calls (fun _ => True) title (skill.compose capability frame) :=
    fun frame =>
      (compose_calls (fun _ _ => trivial) skill capability fun _ _ _ _ => trivial).comp Prod.snd
  have hcontent : ∀ frame, Calls (fun _ => True) title (skill.contentVerify capability frame) :=
    fun frame => title_of_remembered (contentVerify_calls (fun _ _ => trivial) skill capability)
  apply staysBounded_bind
  · apply staysBounded_bind (@staysBounded_of_calls _ _ (fun _ => True) _
      (title_of_remembered (precheck_calls skill capability)))
    intro _
    apply staysBounded_bind (@staysBounded_of_calls _ _ (fun _ => True) _
      (title_of_remembered (calibrate_calls (fun _ _ => trivial) skill)))
    intro frame
    apply staysBounded_bind (@staysBounded_of_calls _ _ (fun _ => True) _ (title_of_remembered
      (address_calls (fun _ _ => trivial) skill capability trivial trivial trivial trivial)))
    intro _
    apply staysBounded_bind (recipientVerify_bounded hperceives)
    intro _
    apply staysBounded_bind (staysBounded_of_calls (hcompose frame))
    intro _
    apply staysBounded_bind (staysBounded_of_calls (hcontent frame))
    intro _
    exact @staysBounded_of_calls _ _ (fun _ => True) _ .pure
  · intro frame
    split_ifs
    · exact staysBounded_of_calls send_calls
    · exact @staysBounded_of_calls _ _ (fun _ => True) _
        (title_of_remembered (finishDryRun_calls fun _ _ => trivial))

/-- A report of an attempt carries the title its state holds. -/
theorem attempt_title {started : ℕ} :
    wp environment (skill.attempt capability started)
      (fun report after => report.outcome.titleConfidencePartsPerMillion = title after.locals)
      (fun _ _ => True) world := by
  apply wp_skip
  intro frame _
  split_ifs
  · apply wp_mono send_ends
    · intro _ _ _ hends
      exact hends.title
    · intro _ _ _ _
      trivial
  · apply wp_mono finishDryRun_ends
    · intro _ _ _ hends
      exact hends.title
    · intro _ _ _ _
      trivial

theorem execute_bounded (hperceives : Perceives environment) :
    wp environment (skill.execute capability)
      (fun report _ => report.outcome.titleConfidencePartsPerMillion ≤ partsPerMillion)
      (fun _ _ => False) ⟨.initial, []⟩ := by
  have hinitial : title SkillState.initial ≤ partsPerMillion := Nat.zero_le _
  rw [execute, wp_bind, wp_call, wp_recover]
  apply wp_mono (wp_and (attempt_bounded hperceives _ hinitial) attempt_title)
  · rintro report after - ⟨hafter, htitle⟩
    exact htitle.trans_le hafter
  · rintro failure failed - ⟨hfailed, -⟩
    apply wp_mono refuse_ends
    · rintro report _ - ⟨hends, -⟩
      exact hends.title.trans_le hfailed
    · intro _ _ _ hfalse
      exact hfalse

/-- A report that names the profile as the capability does is accepted. -/
theorem Reports.validates {outcome : HelperSendOutcome} (h : Reports skill capability outcome)
    (hprofile : skill.profile.profileId = capability.calibrationProfileId)
    (hhelper : skill.helperVersion ≠ "") (hengine : skill.engineVersion ≠ "")
    (hconsistent : Consistent outcome)
    (hbounded : outcome.titleConfidencePartsPerMillion ≤ partsPerMillion) :
    outcome.validateAgainst capability = .ok () := by
  have hconfidence : ¬ 1000000 < outcome.titleConfidencePartsPerMillion := Nat.not_lt.mpr hbounded
  cases hattempted : outcome.attempted with
  | false =>
    have hstopped := hconsistent.stopped hattempted
    cases hfailure : outcome.failure with
    | none =>
      simp [HelperSendOutcome.validateAgainst, h.formatVersion, h.capabilityId, h.bindingSha256,
        h.helperVersion, h.engineVersion, h.profileId, h.confirmation hattempted, hprofile, hhelper,
        hengine, hconfidence, hattempted, hfailure, hstopped hfailure]
    | some code =>
      simp [HelperSendOutcome.validateAgainst, h.formatVersion, h.capabilityId, h.bindingSha256,
        h.helperVersion, h.engineVersion, h.profileId, h.confirmation hattempted, hprofile, hhelper,
        hengine, hconfidence, hattempted, hfailure]
  | true =>
    simp [HelperSendOutcome.validateAgainst, h.formatVersion, h.capabilityId, h.bindingSha256,
      h.helperVersion, h.engineVersion, h.profileId, hconsistent.confirmed hattempted, hprofile,
      hhelper, hengine, hconfidence, hattempted, h.permitted hattempted]

/-- What the control plane can rely on of a run without a file panel. -/
theorem execute_answers (hpanel : ¬ StagesThroughPanel skill capability)
    (hperceives : Perceives environment)
    (hprofile : skill.profile.profileId = capability.calibrationProfileId)
    (hhelper : skill.helperVersion ≠ "") (hengine : skill.engineVersion ≠ "") :
    wp environment (skill.execute capability)
      (fun report after => returns after.history ≤ 1 ∧
        (report.outcome.attempted = true → Pressed after.history) ∧
        report.outcome.validateAgainst capability = .ok ())
      (fun _ _ => False) ⟨.initial, []⟩ := by
  apply wp_mono (wp_and (wp_and (execute_returns hpanel) (execute_counted hpanel))
    (wp_and (wp_and execute_reads execute_consistent) (execute_bounded hperceives)))
  · rintro report after - ⟨⟨hreturns, hcounted⟩, ⟨⟨hreports, -⟩, hconsistent⟩, hbounded⟩
    exact ⟨hreturns, fun hattempted => (hcounted.mp hattempted).1,
      hreports.validates hprofile hhelper hengine hconsistent hbounded⟩
  · rintro _ _ - ⟨⟨hfalse, -⟩, -⟩
    exact hfalse

end GreenBubbles.Send.MechanicalSendSkill
