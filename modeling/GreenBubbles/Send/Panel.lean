import GreenBubbles.Connector.Identity
import GreenBubbles.Send.Artifacts
import GreenBubbles.Send.Discipline

/-! # Where the file panel leads

A file panel is confirmed with Return before the content gate, whether or not
Return is permitted. A client that shows what each gate asks for lets every run
that stages through the panel get there.
-/
namespace GreenBubbles.Send.MechanicalSendSkill

open Library Library.Bytes Library.Scripts
open Connector (isSha256_sample sampleSha256)

/-- Return was pressed, whatever the effector said of it. -/
def Pressed (history : SkillHistory) : Prop := ∃ event ∈ history, event.1.isReturn = true

theorem Pressed.mono (first last : SkillHistory) (hgrown : first <:+ last) (h : Pressed first) :
    Pressed last := by
  rcases h with ⟨event, hevent, hreturn⟩
  exact ⟨event, hgrown.subset hevent, hreturn⟩

variable (skill : MechanicalSendSkill) (capability : ActionCapabilityEnvelope)

/-- The recipient's title, the search key where it was typed, and an empty compose box. -/
def shown (echo : String) : Region → RecognizedRegionText
  | .search => ⟨echo, 0, 0⟩
  | .title => ⟨capability.expectedTitle,
      skill.profile.selftest.minimumTitleConfidencePartsPerMillion, 1⟩
  | _ => ⟨"", 0, 0⟩

/-- Nothing throws, but for the attachment region once Return was pressed. -/
def served (echo : String) (history : SkillHistory) :
    (action : SkillAction) → Except SendFailure action.Value
  | .windowFrame => .ok ⟨0, 0, 700, 500⟩
  | .recognizeText region _ => .ok (skill.shown capability echo region)
  | .regionFingerprint _ _ =>
    if history.any fun event => event.1.isReturn then
      .error ⟨.windowNotFound, "the target window is gone"⟩
    else .ok ""
  | .click _ _ => .ok ()
  | .press _ => .ok ()
  | .writeClipboard _ => .ok ()
  | .writeClipboardFileReference _ => .ok ()

/-- A client that helps a run along; a panel opens at every click. -/
def helpful (now : ℕ) (echo : String) : Environment SkillAnswer := fun history call =>
  match call with
  | .clock => now
  | .captureCount => 0
  | .targetWindowCount => (history.length : ℤ)
  | .restoreClipboard => ()
  | .humanActivityObserved => false
  | .settle _ => ()
  | .perform action => skill.served capability echo history action

section Steps

variable {skill capability} {now : ℕ} {echo : String} {β γ : Type}
  {world : SkillWorld}

/-- The helpful client lets a step through, with a value it can foresee. -/
def Goes (skill : MechanicalSendSkill) (capability : ActionCapabilityEnvelope) (now : ℕ)
    (echo : String) (script : Skill β) (R : β → Prop) (world : SkillWorld) : Prop :=
  wp (skill.helpful capability now echo) script (fun value _ => R value) (fun _ _ => False) world

theorem goes_perform {action : SkillAction} (value : action.Value)
    (h : skill.served capability echo world.history action = .ok value) :
    Goes skill capability now echo (perform action) (fun value' => value' = value) world := by
  have hanswer : skill.helpful capability now echo world.history (.perform action) = .ok value := h
  rw [Goes, perform, wp_bind, wp_call, wp_ofExcept, hanswer]
  constructor
  · intro value' hvalue
    exact (Except.ok.inj hvalue).symm
  · intro failure hfailure
    cases hfailure

theorem goes_bind {script : Skill γ} {next : γ → Skill β} {R : γ → Prop} {R' : β → Prop}
    (h : Goes skill capability now echo script R world)
    (hnext : ∀ value after, R value → Goes skill capability now echo (next value) R' after) :
    Goes skill capability now echo (script >>= next) R' world := by
  rw [Goes, wp_bind]
  exact wp_mono h (fun value after _ hvalue => hnext value after hvalue) fun _ _ _ hfalse => hfalse

/-- A bind that keeps in sight what was called before. -/
theorem goes_later {script : Skill γ} {next : γ → Skill β} {R : γ → Prop} {R' : β → Prop}
    (h : Goes skill capability now echo script R world)
    (hnext : ∀ value after, world.history <:+ after.history →
      Goes skill capability now echo (next value) R' after) :
    Goes skill capability now echo (script >>= next) R' world := by
  rw [Goes, wp_bind]
  exact wp_mono h (fun value after hgrown _ => hnext value after hgrown.suffix)
    fun _ _ _ hfalse => hfalse

theorem goes_pure (value : β) :
    Goes skill capability now echo (Script.ofExcept (.ok value)) (fun _ => True) world := trivial

theorem goes_check {condition : Bool} {code : Outbox.SendFailureCode} {detail : String}
    (h : condition = true) :
    Goes skill capability now echo (check condition code detail) (fun _ => True) world := by
  rw [h]
  trivial

theorem goes_enter {stage : SendStage} :
    Goes skill capability now echo (enter stage) (fun _ => True) world := trivial

theorem goes_record {change : HelperGateEvidence → HelperGateEvidence} :
    Goes skill capability now echo (record change) (fun _ => True) world := trivial

theorem goes_settle {milliseconds : ℕ} :
    Goes skill capability now echo (settle milliseconds) (fun _ => True) world := trivial

theorem goes_observed :
    Goes skill capability now echo humanActivityObserved (fun observed => observed = false) world :=
  rfl

theorem shown_passes :
    skill.titlePasses capability (skill.shown capability echo .title) = true := by
  simp [titlePasses, shown, SwiftText.matches, skill.swift.equivalent_refl]

theorem shown_empty : skill.swift.normalized (skill.shown capability echo .compose).text = "" := by
  have hshown : (skill.shown capability echo .compose).text = "" := rfl
  rw [hshown, SwiftText.normalized, skill.swift.words_empty]
  rfl

theorem goes_yield :
    Goes skill capability now echo (skill.yieldToHuman none) (fun _ => True) world := trivial

section Authorized

variable (hauthorized : ∀ tool, skill.manifest.authorize tool skill.targetBundleIdentifier = .ok ())
include hauthorized

theorem goes_authorize {tool : SendTool} :
    Goes skill capability now echo (skill.authorize tool) (fun _ => True) world := by
  rw [authorize, hauthorized]
  trivial

theorem goes_recognize {region : Region} {frame : WindowFrame} :
    Goes skill capability now echo (skill.recognize region frame)
      (fun text => text = skill.shown capability echo region) world :=
  goes_bind (goes_authorize hauthorized) fun _ _ _ => goes_perform _ rfl

theorem goes_focusAndPaste {text : String} {anchor : Anchor} {frame : WindowFrame} :
    Goes skill capability now echo (skill.focusAndPaste text anchor frame) (fun _ => True)
      world := by
  apply goes_bind goes_observed
  rintro _ _ rfl
  apply goes_bind (goes_check rfl)
  intro _ _ _
  apply goes_bind (goes_authorize hauthorized)
  intro _ _ _
  apply goes_bind (goes_perform () rfl)
  intro _ _ _
  apply goes_bind goes_settle
  intro _ _ _
  apply goes_bind (goes_authorize hauthorized)
  intro _ _ _
  apply goes_bind (goes_perform () rfl)
  intro _ _ _
  apply goes_bind (goes_authorize hauthorized)
  intro _ _ _
  apply goes_bind (goes_perform () rfl)
  intro _ _ _
  exact goes_settle

theorem goes_precheck (hvalid : capability.helperValidate skill.swift now = .ok ())
    (hprofile :
      skill.swift.equivalent capability.calibrationProfileId skill.profile.profileId = true) :
    Goes skill capability now echo (skill.precheck capability now) (fun _ => True) world := by
  have htools : ∀ (tools : List SendTool) after,
      Goes skill capability now echo (tools.forM skill.authorize) (fun _ => True) after := by
    intro tools
    induction tools with
    | nil => exact fun _ => trivial
    | cons tool tools ih =>
      intro after
      exact goes_bind (goes_authorize hauthorized) fun _ last _ => ih last
  rw [precheck, hvalid]
  apply goes_bind (goes_pure ())
  intro _ _ _
  apply goes_bind (goes_check hprofile)
  intro _ _ _
  exact htools _ _

theorem goes_calibrate :
    Goes skill capability now echo skill.calibrate (fun _ => True) world := by
  have hplausible : (⟨0, 0, 700, 500⟩ : WindowFrame).isPlausibleMainWindow = true := by
    decide
  apply goes_bind goes_enter
  intro _ _ _
  apply goes_bind (goes_authorize hauthorized)
  intro _ _ _
  apply goes_bind (goes_perform (⟨0, 0, 700, 500⟩ : WindowFrame) rfl)
  rintro _ _ rfl
  apply goes_bind goes_record
  intro _ _ _
  apply goes_bind (goes_check hplausible)
  intro _ _ _
  trivial

theorem goes_address {frame : WindowFrame}
    (hecho : capability.addressingMode.typesBeforeRecipientGate = true →
      skill.swift.echoes echo capability.searchKey = true) :
    Goes skill capability now echo (skill.address capability frame) (fun _ => True) world := by
  rw [address]
  split_ifs with htypes
  · apply goes_bind goes_enter
    intro _ _ _
    apply goes_bind goes_yield
    intro _ _ _
    apply goes_bind (goes_focusAndPaste hauthorized)
    intro _ _ _
    apply goes_bind goes_settle
    intro _ _ _
    apply goes_bind (goes_recognize hauthorized)
    rintro _ _ rfl
    apply goes_bind goes_record
    intro _ _ _
    apply goes_bind (goes_check (hecho htypes))
    intro _ _ _
    apply goes_bind goes_yield
    intro _ _ _
    apply goes_bind (goes_authorize hauthorized)
    intro _ _ _
    apply goes_bind (goes_perform () rfl)
    intro _ _ _
    trivial
  · trivial

theorem goes_recipientVerify {frame : WindowFrame} :
    Goes skill capability now echo (skill.recipientVerify capability frame) (fun _ => True)
      world := by
  apply goes_bind goes_enter
  intro _ _ _
  apply goes_bind goes_yield
  intro _ _ _
  apply goes_bind (goes_recognize hauthorized)
  rintro _ _ rfl
  apply goes_bind goes_record
  intro _ _ _
  exact goes_check shown_passes

/-- The panel is there, for the history has grown since the windows were counted. -/
theorem goes_navigatePanel {attachment : ActionAttachment} {frame : WindowFrame} :
    Goes skill capability now echo (skill.navigatePanel attachment frame) (fun _ => True)
      world := by
  apply goes_bind goes_observed
  rintro _ _ rfl
  apply goes_bind (goes_check rfl)
  intro _ counted _
  rw [Goes, wp_bind, wp_call]
  apply goes_later (goes_authorize hauthorized)
  intro _ authorized hauthorize
  apply goes_later (goes_perform () rfl)
  intro _ clicked hclick
  apply goes_later goes_settle
  intro _ settled hsettle
  rw [Goes, wp_bind, wp_call]
  have hgrown := ((hauthorize.trans hclick).trans hsettle).length_le
  have hpresented : skill.helpful capability now echo counted.history .targetWindowCount <
      skill.helpful capability now echo settled.history .targetWindowCount := by
    change (counted.history.length : ℤ) < (settled.history.length : ℤ)
    rw [List.length_cons] at hgrown
    omega
  rw [if_pos hpresented]
  apply goes_bind (goes_authorize hauthorized)
  intro _ _ _
  apply goes_bind (goes_perform () rfl)
  intro _ _ _
  apply goes_bind goes_settle
  intro _ _ _
  apply goes_bind (goes_authorize hauthorized)
  intro _ _ _
  apply goes_bind (goes_perform () rfl)
  intro _ _ _
  apply goes_bind (goes_perform () rfl)
  intro _ _ _
  exact goes_settle

end Authorized

/-- No Return was pressed yet and none is recorded. -/
def Waiting (world : SkillWorld) : Prop :=
  (world.history.any fun event => event.1.isReturn) = false ∧ world.locals.attempted = false

theorem Waiting.added {after : SkillWorld} (h : Waiting world)
    (hadded : Added (fun call => call.isReturn = false) world.history after.history)
    (hattempted : after.locals.attempted = world.locals.attempted) : Waiting after := by
  rcases h with ⟨hhistory, hworld⟩
  refine ⟨?_, hattempted.trans hworld⟩
  rw [List.any_eq_false] at hhistory ⊢
  intro event hevent
  rcases hadded.mem hevent with hreturn | hmem
  · rw [hreturn]
    exact Bool.false_ne_true
  · exact hhistory event hmem

theorem goes_waiting {script : Skill β} {R : β → Prop} (hwaiting : Waiting world)
    (h : Goes skill capability now echo script R world)
    (hcalls : Calls (fun call => call.isReturn = false) remembered script) :
    wp (skill.helpful capability now echo) script
      (fun value after => R value ∧ Waiting after ∧ noted after.locals = noted world.locals)
      (fun _ _ => False) world := by
  apply wp_mono (wp_and h (noted_of_remembered hcalls).wp_of)
  · rintro value after - ⟨hvalue, hadded, hnoted⟩
    exact ⟨hvalue, hwaiting.added hadded (congrArg Prod.fst hnoted), hnoted⟩
  · rintro _ _ - ⟨hfalse, -⟩
    exact hfalse

theorem waiting_bind {script : Skill γ} {next : γ → Skill β} {R : γ → Prop}
    {Q : β → SkillWorld → Prop} {E : SendFailure → SkillWorld → Prop}
    (hwaiting : Waiting world) (h : Goes skill capability now echo script R world)
    (hcalls : Calls (fun call => call.isReturn = false) remembered script)
    (hnext : ∀ value after, R value → Waiting after → noted after.locals = noted world.locals →
      wp (skill.helpful capability now echo) (next value) Q E after) :
    wp (skill.helpful capability now echo) (script >>= next) Q E world := by
  rw [wp_bind]
  apply wp_mono (goes_waiting hwaiting h hcalls)
  · rintro value after - ⟨hvalue, hafter, hnoted⟩
    exact hnext value after hvalue hafter hnoted
  · intro _ _ _ hfalse
    exact hfalse.elim

theorem quiet_unreturned (call : SkillCall) (h : Quiet call) : call.isReturn = false :=
  SkillCall.isReturn_of_quiet h

theorem helpful_recipientVerify {frame : WindowFrame} (hwaiting : Waiting world)
    (hauthorized :
      ∀ tool, skill.manifest.authorize tool skill.targetBundleIdentifier = .ok ()) :
    wp (skill.helpful capability now echo) (skill.recipientVerify capability frame)
      (fun _ after => Waiting after ∧ noted after.locals =
        (false, skill.profile.selftest.minimumTitleConfidencePartsPerMillion))
      (fun _ _ => False) world := by
  apply waiting_bind hwaiting goes_enter enter_calls
  intro _ _ _ hwaiting _
  apply waiting_bind hwaiting goes_yield (yieldToHuman_calls quiet_unreturned skill (by simp))
  intro _ _ _ hwaiting _
  apply waiting_bind hwaiting (goes_recognize hauthorized) (recognize_calls quiet_unreturned skill)
  rintro _ recognized rfl hwaiting _
  rw [wp_bind, record, wp_modify, shown_passes]
  exact ⟨hwaiting, congrArg (·, _) hwaiting.2⟩

section Staging

variable (hauthorized : ∀ tool, skill.manifest.authorize tool skill.targetBundleIdentifier = .ok ())
  {attachment : ActionAttachment} {attachments : CalibrationAttachments}
  (hattachments : skill.profile.attachments = some attachments)
include hattachments

theorem goes_requireAttachmentRegions :
    Goes skill capability now echo skill.requireAttachmentRegions
      (fun value => value = attachments) world := by
  rw [requireAttachmentRegions, hattachments]
  exact rfl

include hauthorized

/-- Both presses of Return that confirm the panel are made. -/
theorem helpful_panel {frame : WindowFrame} (hwaiting : Waiting world) :
    wp (skill.helpful capability now echo) (skill.stageAttachmentThroughPanel attachment frame)
      (fun _ after => Pressed after.history) (fun _ _ => False) world := by
  have hnavigate : Calls (fun call => call.isReturn = false) remembered
      (skill.navigatePanel attachment frame) := by
    apply navigatePanel_calls quiet_unreturned skill rfl rfl
    simp [SkillCall.isReturn]
  apply waiting_bind hwaiting (goes_requireAttachmentRegions hattachments)
    (requireAttachmentRegions_calls skill)
  intro _ _ _ hwaiting _
  apply waiting_bind hwaiting (goes_navigatePanel hauthorized) hnavigate
  intro _ navigated _ _ _
  have hrest : ∀ after, Goes skill capability now echo (do
      settle skill.pacing.afterSearchMilliseconds
      press .returnKey
      settle skill.pacing.afterPasteMilliseconds
      record fun evidence => { evidence with attachmentStaged := true }) (fun _ => True) after := by
    intro after
    apply goes_bind goes_settle
    intro _ _ _
    apply goes_bind (goes_perform () rfl)
    intro _ _ _
    apply goes_bind goes_settle
    intro _ _ _
    exact goes_record
  have hpressed : Pressed (performed (.press .returnKey) () :: navigated.history) :=
    ⟨_, List.mem_cons_self, rfl⟩
  have hreturn : wp (skill.helpful capability now echo) (press .returnKey)
      (fun _ after => Pressed after.history) (fun _ _ => False) navigated := hpressed
  rw [wp_bind]
  apply wp_mono hreturn
  · intro _ after _ hafter
    apply wp_mono (wp_and (hrest after) (wp_reached Pressed.mono hafter))
    · rintro _ _ - ⟨-, hlast⟩
      exact hlast
    · rintro _ _ - ⟨hfalse, -⟩
      exact hfalse
  · intro _ _ _ hfalse
    exact hfalse

theorem helpful_compose {frame : WindowFrame}
    (hattachment : capability.attachment = some attachment)
    (hrefuses : attachments.composeAcceptsPastedFile = false) (hwaiting : Waiting world) :
    wp (skill.helpful capability now echo) (skill.compose capability frame)
      (fun _ after => Pressed after.history) (fun _ _ => False) world := by
  apply waiting_bind hwaiting goes_enter enter_calls
  intro _ _ _ hwaiting _
  apply waiting_bind hwaiting (goes_recognize hauthorized) (recognize_calls quiet_unreturned skill)
  rintro _ _ rfl hwaiting _
  apply waiting_bind hwaiting (goes_check (beq_iff_eq.mpr shown_empty)) check_calls
  intro _ _ _ hwaiting _
  rw [hattachment]
  apply waiting_bind hwaiting (goes_requireAttachmentRegions hattachments)
    (requireAttachmentRegions_calls skill)
  intro _ required _ hwaiting _
  have hfingerprint : Goes skill capability now echo (skill.fingerprint .composeAttachment frame)
      (fun baseline => baseline = "") required := by
    rw [fingerprint, authorize, hauthorized]
    change Goes skill capability now echo (perform _) _ _
    apply goes_perform
    rw [served, hwaiting.1]
    rfl
  apply waiting_bind hwaiting hfingerprint (fingerprint_calls quiet_unreturned skill)
  intro baseline fingerprinted _ hwaiting _
  rw [wp_bind, wp_modify]
  have hmodified : Waiting { fingerprinted with
      locals := { fingerprinted.locals with attachmentBaseline := baseline } } := hwaiting
  apply waiting_bind hmodified (goes_requireAttachmentRegions hattachments)
    (requireAttachmentRegions_calls skill)
  rintro _ _ rfl hwaiting _
  rw [if_neg (by rw [hrefuses]; exact Bool.false_ne_true)]
  exact helpful_panel hauthorized hattachments hwaiting

/-- The content gate finds the target window gone. -/
theorem helpful_contentVerify {frame : WindowFrame}
    (hattachment : capability.attachment = some attachment) (hpressed : Pressed world.history) :
    wp (skill.helpful capability now echo) (skill.contentVerify capability frame)
      (fun _ _ => False) (fun _ _ => True) world := by
  have hgone : ∀ after : SkillWorld, Pressed after.history →
      wp (skill.helpful capability now echo) (skill.fingerprint .composeAttachment frame)
        (fun _ _ => False) (fun _ _ => True) after := by
    intro after hafter
    have hany : (after.history.any fun event => event.1.isReturn) = true :=
      List.any_eq_true.mpr hafter
    have hanswer : skill.helpful capability now echo after.history
        (.perform (.regionFingerprint .composeAttachment frame)) =
          .error ⟨.windowNotFound, "the target window is gone"⟩ := by
      change skill.served capability echo after.history
        (.regionFingerprint .composeAttachment frame) = _
      rw [served, hany]
      rfl
    rw [fingerprint, authorize, hauthorized]
    change wp _ (perform _) _ _ _
    rw [perform, wp_bind, wp_call, hanswer]
    trivial
  rw [contentVerify, wp_bind, enter, wp_modify, hattachment]
  dsimp only
  rw [contentVerifyAttachment, wp_bind]
  apply wp_mono (goes_requireAttachmentRegions hattachments)
  · intro _ required hgrown _
    rw [wp_bind]
    apply wp_mono (hgone required (Pressed.mono _ _ hgrown.suffix hpressed))
    · intro _ _ _ hfalse
      exact hfalse.elim
    · intro _ _ _ _
      trivial
  · intro _ _ _ hfalse
    exact hfalse.elim

end Staging

end Steps

section Attempt

variable {skill capability} {now : ℕ} {echo : String}

/-- Return is pressed, the attempt fails and nothing records the press. -/
theorem helpful_attempt (hpanel : StagesThroughPanel skill capability)
    (hvalid : capability.helperValidate skill.swift now = .ok ())
    (hecho : capability.addressingMode.typesBeforeRecipientGate = true →
      skill.swift.echoes echo capability.searchKey = true)
    {world : SkillWorld} (hwaiting : Waiting world) :
    wp (skill.helpful capability now echo) (skill.attempt capability now) (fun _ _ => False)
      (fun _ after => Pressed after.history ∧ noted after.locals =
        (false, skill.profile.selftest.minimumTitleConfidencePartsPerMillion)) world := by
  have hauthorized := hpanel.authorized
  rcases hpanel.panel with ⟨attachments, hattachments, hrefuses⟩
  rcases Option.isSome_iff_exists.mp hpanel.attached with ⟨attachment, hattachment⟩
  rw [attempt, wp_bind]
  apply waiting_bind hwaiting (goes_precheck hauthorized hvalid hpanel.sameProfile)
    (precheck_calls skill capability)
  intro _ _ _ hwaiting _
  apply waiting_bind hwaiting (goes_calibrate hauthorized) (calibrate_calls quiet_unreturned skill)
  intro frame _ _ hwaiting _
  apply waiting_bind hwaiting (goes_address hauthorized hecho)
    (address_calls quiet_unreturned skill capability rfl rfl rfl rfl)
  intro _ _ _ hwaiting _
  rw [wp_bind]
  apply wp_mono (helpful_recipientVerify hwaiting hauthorized)
  · rintro _ verified - ⟨hwaiting, hnoted⟩
    have hcalls : Calls (fun _ => True) noted (skill.compose capability frame) :=
      compose_calls (fun _ _ => trivial) skill capability fun _ _ _ _ => trivial
    rw [wp_bind]
    apply wp_mono (wp_and (helpful_compose hauthorized hattachments hattachment hrefuses hwaiting)
      hcalls.wp_of)
    · rintro _ composed - ⟨hpressed, -, hcomposed⟩
      have hkept : Calls (fun _ => True) noted (skill.contentVerify capability frame) :=
        noted_of_remembered (contentVerify_calls (fun _ _ => trivial) skill capability)
      rw [wp_bind]
      apply wp_mono (wp_and (helpful_contentVerify hauthorized hattachments hattachment hpressed)
        hkept.wp_of)
      · rintro _ _ - ⟨hfalse, -⟩
        exact hfalse.elim
      · rintro _ after hgrown ⟨-, -, hafter⟩
        refine ⟨Pressed.mono _ _ hgrown.suffix hpressed, ?_⟩
        rw [hafter, hcomposed, hnoted]
    · rintro _ _ - ⟨hfalse, -⟩
      exact hfalse.elim
  · intro _ _ _ hfalse
    exact hfalse.elim

/-- What a refusal reports. -/
theorem refuse_reports {environment : Environment SkillAnswer} {started : ℕ} {failure : SendFailure}
    {world : SkillWorld} :
    wp environment (skill.refuse capability started failure)
      (fun report _ =>
        report.outcome.attempted = (world.locals.attempted && capability.permitSend) ∧
        report.outcome.failure = some failure.code ∧
        report.outcome.titleConfidencePartsPerMillion =
          world.locals.evidence.titleConfidencePartsPerMillion) (fun _ _ => False) world :=
  ⟨rfl, rfl, rfl⟩

theorem helpful_execute (hpanel : StagesThroughPanel skill capability)
    (hvalid : capability.helperValidate skill.swift now = .ok ())
    (hecho : capability.addressingMode.typesBeforeRecipientGate = true →
      skill.swift.echoes echo capability.searchKey = true) :
    wp (skill.helpful capability now echo) (skill.execute capability)
      (fun report after => Pressed after.history ∧ report.outcome.attempted = false ∧
        report.outcome.failure.isSome = true ∧ report.outcome.titleConfidencePartsPerMillion =
          skill.profile.selftest.minimumTitleConfidencePartsPerMillion)
      (fun _ _ => False) ⟨.initial, []⟩ := by
  have hwaiting : Waiting ⟨SkillState.initial,
      [⟨.clock, skill.helpful capability now echo [] .clock⟩]⟩ := ⟨rfl, rfl⟩
  rw [execute, wp_bind, wp_call, wp_recover]
  apply wp_mono (helpful_attempt hpanel hvalid hecho hwaiting)
  · intro _ _ _ hfalse
    exact hfalse.elim
  · rintro failure failed - ⟨hpressed, hnoted⟩
    have hattempted : failed.locals.attempted = false := congrArg Prod.fst hnoted
    apply wp_mono (wp_and refuse_reports (wp_reached Pressed.mono hpressed))
    · rintro report after - ⟨⟨hreported, hfailure, htitle⟩, hafter⟩
      refine ⟨hafter, ?_, ?_, ?_⟩
      · rw [hreported, hattempted, Bool.false_and]
      · rw [hfailure]
        rfl
      · rw [htitle]
        exact congrArg Prod.snd hnoted
    · rintro _ _ - ⟨hfalse, -⟩
      exact hfalse

/-- The helpful client shows the same attachment region, whenever it shows one. -/
theorem helpful_unmatched {history : SkillHistory} (hattached : capability.attachment.isSome = true)
    (hgrown : Grown (skill.helpful capability now echo) [] history) :
    ¬ skill.ContentMatched capability history := by
  have hblank : ∀ frame value,
      performed (.regionFingerprint .composeAttachment frame) value ∈ history → value = "" := by
    intro frame value hmem
    rcases List.append_of_mem hmem with ⟨later, earlier, hsplit⟩
    have hanswer : Except.ok value =
        skill.served capability echo earlier (.regionFingerprint .composeAttachment frame) :=
      hgrown.answered later _ earlier hsplit
    rw [served] at hanswer
    split_ifs at hanswer
    exact Except.ok.inj hanswer
  rcases Option.isSome_iff_exists.mp hattached with ⟨attachment, hattachment⟩
  intro hmatched
  rw [ContentMatched, hattachment] at hmatched
  rcases hmatched with ⟨⟨frame, before, after, earlier, hread, hbefore, hchanged⟩, -⟩
  have hsame : after = before := by
    rw [hblank frame after (hread.subset List.mem_cons_self),
      hblank frame before (hread.subset (List.mem_cons_of_mem _ hbefore))]
  rw [hsame, skill.swift.equivalent_refl] at hchanged
  cases hchanged

/-- With the panel, Return is pressed past the content gate. -/
theorem helpful_breaks (hpanel : StagesThroughPanel skill capability)
    (hvalid : capability.helperValidate skill.swift now = .ok ())
    (hecho : capability.addressingMode.typesBeforeRecipientGate = true →
      skill.swift.echoes echo capability.searchKey = true) :
    wp (skill.helpful capability now echo) (skill.execute capability)
      (fun _ after => Pressed after.history ∧ ¬ Safe (skill.Guard capability) after.history)
      (fun _ _ => False) ⟨.initial, []⟩ := by
  apply wp_mono (helpful_execute hpanel hvalid hecho)
  · rintro _ after hgrown ⟨hpressed, -⟩
    refine ⟨hpressed, fun hsafe => ?_⟩
    rcases hpressed with ⟨event, hevent, hreturn⟩
    rcases List.append_of_mem hevent with ⟨later, earlier, hsplit⟩
    have hmatched := ((hsafe later event earlier hsplit).returns hreturn).contentMatched
    apply helpful_unmatched hpanel.attached hgrown
    apply hmatched.mono
    rw [hsplit]
    exact (List.suffix_cons event earlier).trans (List.suffix_append _ _)
  · intro _ _ _ hfalse
    exact hfalse

/-- A text the search field can show for the search key, if it is typed. -/
theorem StagesThroughPanel.echoed (h : StagesThroughPanel skill capability) :
    ∃ echo, capability.addressingMode.typesBeforeRecipientGate = true →
      skill.swift.echoes echo capability.searchKey = true := by
  by_cases htypes : capability.addressingMode.typesBeforeRecipientGate = true
  · rcases h.addressed htypes with ⟨echo, hecho⟩
    exact ⟨echo, fun _ => hecho⟩
  · exact ⟨"", fun htypes' => absurd htypes' htypes⟩

/-- Every run keeps the gates, whatever perception and effector do, exactly when no run
can stage through a file panel. -/
theorem gatesRespected_iff (skill : MechanicalSendSkill) (capability : ActionCapabilityEnvelope) :
    (∀ environment, wp environment (skill.execute capability)
      (fun _ after => skill.GatesRespected capability after.history) (fun _ _ => False)
      ⟨.initial, []⟩) ↔ ¬ StagesThroughPanel skill capability := by
  constructor
  · intro hrespects hpanel
    rcases hpanel.validates with ⟨now, hvalid⟩
    rcases hpanel.echoed with ⟨echo, hecho⟩
    have hboth := wp_and (hrespects (skill.helpful capability now echo))
      (helpful_breaks hpanel hvalid hecho)
    rw [wp] at hboth
    split at hboth
    · exact hboth.2.2 hboth.1.guarded
    · exact hboth.1
  · intro hpanel environment
    apply wp_mono (wp_and (execute_safe hpanel .initial) (execute_restored .initial))
    · rintro _ _ - ⟨hsafe, hrestored⟩
      exact ⟨hsafe, hrestored⟩
    · rintro _ _ - ⟨-, hfalse⟩
      exact hfalse

end Attempt

/-! A dry run that presses Return -/

def sampleSwift : SwiftText where
  words text := ((text.toList.splitOnP isWhiteSpace).filter (· ≠ [])).map .ofList
  equivalent left right := left == right
  contains text needle := containsText text.toList needle.toList
  hasPrefix text start := start.toList.isPrefixOf text.toList
  localizedCaseInsensitiveContains text needle :=
    containsText (text.toList.map Char.toLower) (needle.toList.map Char.toLower)
  words_empty := rfl
  equivalent_refl text := beq_self_eq_true text

/-- A profile for a client whose compose box takes no pasted file. -/
def samplePanelProfile : CalibrationProfileBody where
  schema := 1
  profileId := "profile"
  wechatBundleIdentifier := "com.tencent.xinWeChat"
  wechatMarketingVersion := "4.1.13"
  wechatBuild := "4.1.13"
  clientBuildProfileId := "client"
  macosMajor := 26
  anchors := ⟨⟨100000, 50000⟩, ⟨100000, 150000⟩, ⟨600000, 900000⟩⟩
  ocrRegions :=
    ⟨⟨0, 0, 250000, 100000⟩, ⟨300000, 0, 400000, 80000⟩, ⟨300000, 800000, 600000, 150000⟩,
      ⟨300000, 600000, 600000, 150000⟩⟩
  selftest := ⟨"caret", 900000⟩
  attachments := some
    { attachControl := ⟨400000, 780000⟩, confirmSendButton := ⟨600000, 700000⟩
      composeAttachment := ⟨300000, 800000, 600000, 150000⟩
      confirmSheet := ⟨300000, 300000, 400000, 400000⟩
      presentsConfirmationSheet := false, composeAcceptsPastedFile := false }
  issuedAtUnixSeconds := 0
  expiresAtUnixSeconds := 4000000000

def sampleSkill : MechanicalSendSkill where
  swift := sampleSwift
  profile := samplePanelProfile
  manifest := .weChatOnly
  targetBundleIdentifier := "com.tencent.xinWeChat"
  pacing := ⟨120, 80, 150, 600, 1200⟩
  helperVersion := "1"
  engineVersion := "1"

/-- An image to the open conversation, not to be sent. -/
def sampleImageUnbound : ActionCapabilityEnvelope where
  formatVersion := 1
  capabilityId := sampleSha256
  actionId := sampleSha256
  draftId := sampleSha256
  approvalId := sampleSha256
  idempotencyKey := sampleSha256
  accountId := "account"
  conversationId := "conversation"
  capability := .imageSend
  addressingMode := .currentConversation
  searchKey := ""
  expectedTitle := "Peer"
  body := ""
  bodySha256 := Sha256.hexDigest (utf8 "")
  normalizedBodySha256 := sampleSwift.normalizedSha256 ""
  clientBuildProfileId := "client"
  calibrationProfileId := "profile"
  calibrationProfileSha256 := sampleSha256
  attachment := some
    { stagingDirectory := "/staging", stagedPath := "/staging/cat.png", displayFileName := "cat.png"
      byteCount := 3, sha256 := sampleSha256, uniformTypeIdentifier := "public.png" }
  rolloutStage := .dryRun
  permitSend := false
  issuedAtUnixNanoseconds := 0
  validUntilUnixNanoseconds := 10
  bindingSha256 := ""

def sampleImage : ActionCapabilityEnvelope :=
  { sampleImageUnbound with
    bindingSha256 := (sampleImageUnbound.computedBinding).getD "" }

theorem sampleImage_binding : sampleImage.computedBinding = some sampleImage.bindingSha256 := by
  have hbytes : sampleImageUnbound.bindingBytes.isSome = true := by
    have hliteral : ∀ text ∈ ["account", "conversation", "imageSend", "currentConversation", "", "Peer",
        "client", "profile", "true", "false", "/staging", "/staging/cat.png", "cat.png",
        "public.png", "dryRun"], (0 : UInt8) ∉ utf8 text := by
      decide +kernel
    simp only [List.forall_mem_cons] at hliteral
    apply ActionCapabilityEnvelope.bindingBytes_isSome
    simp only [ActionCapabilityEnvelope.boundFields, ActionCapabilityEnvelope.attachmentFields,
      sampleImageUnbound, flagText, Connector.actionCapabilityName,
      SendAddressingMode.canonicalName, rolloutStageName, SwiftText.normalizedSha256,
      Option.isSome_some, Option.map_some, Option.getD_some, List.cons_append, List.nil_append,
      List.forall_mem_cons, hliteral, zero_notMem_decimal,
      zero_notMem_of_isSha256 (isSha256_hexDigest _), zero_notMem_of_isSha256 isSha256_sample,
      not_false_eq_true, true_and]
    simp [hliteral]
  have hunbound : sampleImage.computedBinding = sampleImageUnbound.computedBinding :=
    sampleImageUnbound.computedBinding_withBinding _
  exact hunbound.trans (ActionCapabilityEnvelope.computedBinding_getD hbytes)

theorem isSha256Hex_sample : isSha256Hex sampleSha256 = true := isSha256Hex_replicate (by decide)

theorem sampleImage_validates : sampleImage.helperValidate sampleSwift 5 = .ok () := by
  have hsample := isSha256Hex_sample
  have hbody : Sha256.hexDigest (utf8 sampleImage.body) = sampleImage.bodySha256 := by
    simp only [sampleImage, sampleImageUnbound]
  have hnormalized : sampleSwift.normalizedSha256 sampleImage.body = sampleImage.normalizedBodySha256 := by
    simp only [sampleImage, sampleImageUnbound]
  have hbodyHex : isSha256Hex sampleImage.bodySha256 = true := by
    simp only [sampleImage, sampleImageUnbound, isSha256Hex_hexDigest]
  have hnormalizedHex : isSha256Hex sampleImage.normalizedBodySha256 = true := by
    simp only [sampleImage, sampleImageUnbound, SwiftText.normalizedSha256, isSha256Hex_hexDigest]
  have hbinding := ActionCapabilityEnvelope.any_equivalent_of_computedBinding sampleSwift
    sampleImage_binding
  have hvalid : sampleImage.structurallyValid sampleSwift = true := by
    simp only [ActionCapabilityEnvelope.structurallyValid, List.all_cons, List.all_nil, hbinding,
      hbody, hnormalized, hbodyHex, hnormalizedHex, sampleSwift.equivalent_refl]
    simp only [sampleImage, sampleImageUnbound, hsample]
    decide +kernel
  simp only [ActionCapabilityEnvelope.helperValidate, hvalid]
  decide +kernel

theorem sampleImage_panel : StagesThroughPanel sampleSkill sampleImage where
  validates := ⟨5, sampleImage_validates⟩
  sameProfile := rfl
  authorized := by
    intro tool
    rw [BoundedCapabilityManifest.authorize, if_pos]
    exact ⟨by decide, SendTool.mem_allCases tool⟩
  addressed := nofun
  attached := rfl
  panel := ⟨_, rfl, rfl⟩

/-- The sample is not permitted to send, and a client can have it press Return. -/
theorem sampleImage_presses : sampleImage.permitSend = false ∧ ∃ environment,
    wp environment (sampleSkill.execute sampleImage)
      (fun _ after => Pressed after.history ∧
        ¬ sampleSkill.GatesRespected sampleImage after.history) (fun _ _ => False)
      ⟨.initial, []⟩ := by
  have hecho : sampleImage.addressingMode.typesBeforeRecipientGate = true →
      sampleSkill.swift.echoes "" sampleImage.searchKey = true := nofun
  have hvalid : sampleImage.helperValidate sampleSkill.swift 5 = .ok () := sampleImage_validates
  refine ⟨rfl, sampleSkill.helpful sampleImage 5 "", ?_⟩
  apply wp_mono (@helpful_breaks sampleSkill sampleImage _ _ sampleImage_panel hvalid hecho)
  · rintro _ _ - ⟨hpressed, hunsafe⟩
    exact ⟨hpressed, fun hrespected => hunsafe hrespected.guarded⟩
  · intro _ _ _ hfalse
    exact hfalse

end GreenBubbles.Send.MechanicalSendSkill
