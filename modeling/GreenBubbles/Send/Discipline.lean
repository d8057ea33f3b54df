import GreenBubbles.Send.Gates

/-! # The skill keeps its gates

Each step of the script, from a safe history to a safe one, with what its gate
has proved where it goes on. The file panel is the one way around them.
-/
namespace GreenBubbles.Send.MechanicalSendSkill

open Library.Scripts
open Outbox (SendFailureCode)

/-- The capability and the profile with which a run can confirm a file panel. -/
structure StagesThroughPanel (skill : MechanicalSendSkill) (capability : ActionCapabilityEnvelope) :
    Prop where
  validates : ∃ now, capability.helperValidate skill.swift now = .ok ()
  sameProfile :
    skill.swift.equivalent capability.calibrationProfileId skill.profile.profileId = true
  authorized : ∀ tool, skill.manifest.authorize tool skill.targetBundleIdentifier = .ok ()
  addressed : capability.addressingMode.typesBeforeRecipientGate = true →
    ∃ text, skill.swift.echoes text capability.searchKey = true
  attached : capability.attachment.isSome = true
  panel : ∃ attachments, skill.profile.attachments = some attachments ∧
    attachments.composeAcceptsPastedFile = false

section Steps

variable {environment : Environment SkillAnswer} {world : SkillWorld}
  {skill : MechanicalSendSkill} {capability : ActionCapabilityEnvelope}

theorem added_quiet_no_fill {first last : SkillHistory} (h : Added Quiet first last)
    (hfirst : ∀ event ∈ first, event.1.fillsCompose = false) :
    ∀ event ∈ last, event.1.fillsCompose = false := by
  intro event hevent
  rcases h.mem hevent with hquiet | hmem
  · exact SkillCall.fillsCompose_of_quiet hquiet
  · exact hfirst event hmem

theorem Added.suffix {S : SkillCall → Prop} {first last : SkillHistory} (h : Added S first last) :
    first <:+ last := by
  rcases h with ⟨added, rfl, -⟩
  exact List.suffix_append added first

/-- The click that comes first makes the compose box the place of the deletion. -/
theorem clearCompose_guarded {frame : WindowFrame}
    (hsafe : Safe (skill.Guard capability) world.history)
    (hread : skill.ComposeReadEmpty world.history)
    (hopen : capability.addressingMode.typesBeforeRecipientGate = true ∨
      skill.TitlePassed capability world.history) :
    Guarded skill capability environment (skill.clearCompose frame) (fun _ _ => True) world := by
  apply guarded_bind (guarded_authorize hsafe)
  rintro _ _ - hsafe ⟨-, rfl⟩
  apply guarded_bind (guarded_perform hsafe (guard_of_harmless ⟨rfl, rfl⟩ hopen))
  intro _ clicked hgrown hsafe hclicked
  have hfocused : ∀ history, clicked.history <:+ history → skill.ComposeFocused history :=
    fun history hsuffix => ⟨frame, _, (hclicked.1 ▸ hsuffix), hread⟩
  have hdelete : ∀ history call, clicked.history <:+ history →
      call = .perform (.press .selectAll) ∨ call = .perform (.press .delete) ∨ Quiet call →
      skill.Guard capability history call := by
    intro history call hsuffix hcall
    have hopen' := hopen.imp_right fun htitle => htitle.mono (hgrown.suffix.trans hsuffix)
    rcases hcall with rfl | rfl | hquiet
    · exact ⟨nofun, fun _ => hopen', fun _ => .inl (hfocused history hsuffix)⟩
    · exact ⟨nofun, fun _ => hopen', fun _ => .inl (hfocused history hsuffix)⟩
    · exact guard_of_quiet hquiet
  have hquiet : ∀ call, Quiet call →
      call = .perform (.press .selectAll) ∨ call = .perform (.press .delete) ∨ Quiet call :=
    fun _ hquiet => .inr (.inr hquiet)
  apply guarded_mono (guarded_of_calls _ hsafe hdelete) fun _ _ _ _ => trivial
  exact (settle_calls hquiet).bind fun _ => authorize_calls.bind fun _ =>
    (perform_calls (.inl rfl)).bind fun _ => (perform_calls (.inr (.inl rfl))).bind fun _ =>
      restoreClipboard_calls hquiet

theorem yieldToHuman_guarded (hsafe : Safe (skill.Guard capability) world.history) :
    Guarded skill capability environment (skill.yieldToHuman none)
      (fun _ after => after.history = ⟨.humanActivityObserved, false⟩ :: world.history ∧
        after.locals = world.locals) world := by
  rw [yieldToHuman, Guarded, wp_bind]
  change wp environment (if environment world.history .humanActivityObserved = true then _ else _)
    _ _ _
  have hasked : Safe (skill.Guard capability)
      (⟨.humanActivityObserved, environment world.history .humanActivityObserved⟩ ::
        world.history) := safe_cons.mpr ⟨guard_of_quiet rfl, hsafe⟩
  cases hobserved : environment world.history .humanActivityObserved with
  | false =>
    rw [hobserved] at hasked
    exact ⟨hasked, rfl, rfl⟩
  | true =>
    rw [hobserved] at hasked
    exact hasked

/-- A paste follows a click on the anchor it is for. -/
theorem focusAndPaste_guarded {text : String} {anchor : Anchor} {frame : WindowFrame}
    (hsafe : Safe (skill.Guard capability) world.history)
    (hopen : capability.addressingMode.typesBeforeRecipientGate = true ∨
      skill.TitlePassed capability world.history) :
    Guarded skill capability environment (skill.focusAndPaste text anchor frame)
      (fun _ after => performed (.click anchor frame) () ∈ after.history ∧
        remembered after.locals = remembered world.locals) world := by
  apply guarded_bind (guarded_of_quiet (.call (rfl : Quiet .humanActivityObserved)) hsafe)
  intro observed asked hgrown hsafe hasked
  apply guarded_bind (guarded_check hsafe)
  rintro _ _ - hsafe ⟨-, rfl⟩
  apply guarded_bind (guarded_authorize hsafe)
  rintro _ _ - hsafe ⟨-, rfl⟩
  have hopen' := hopen.imp_right fun htitle => htitle.mono hgrown.suffix
  apply guarded_bind (guarded_perform hsafe (guard_of_harmless ⟨rfl, rfl⟩ hopen'))
  intro _ clicked hgrown' hsafe hclicked
  have hopen'' := hopen'.imp_right fun htitle => htitle.mono hgrown'.suffix
  have hquiet := harmless_of_quiet
  apply guarded_mono (guarded_of_harmless _ hsafe hopen'')
  · intro _ after hgrown'' hafter
    constructor
    · apply hgrown''.suffix.subset
      rw [hclicked.1]
      exact List.mem_cons_self
    · rw [hafter.2, hclicked.2, hasked.2]
  · exact (settle_calls hquiet).bind fun _ => authorize_calls.bind fun _ =>
      (perform_calls ⟨rfl, rfl⟩).bind fun _ => authorize_calls.bind fun _ =>
        (perform_calls ⟨rfl, rfl⟩).bind fun _ => settle_calls hquiet

theorem authorizeAll_proves (tools : List SendTool) :
    wp environment (tools.forM skill.authorize)
      (fun _ after => (∀ tool ∈ tools,
        skill.manifest.authorize tool skill.targetBundleIdentifier = .ok ()) ∧ after = world)
      (fun _ after => after = world) world := by
  induction tools with
  | nil => exact ⟨by simp, rfl⟩
  | cons tool tools ih =>
    change wp environment (skill.authorize tool >>= fun _ => tools.forM skill.authorize) _ _ _
    rw [wp_bind, authorize, wp_ofExcept]
    constructor
    · intro _ htool
      apply wp_mono ih
      · rintro _ _ - ⟨hrest, rfl⟩
        exact ⟨List.forall_mem_cons.mpr ⟨htool, hrest⟩, rfl⟩
      · rintro _ _ - rfl
        rfl
    · intro _ _
      rfl

/-- What the checks before any call prove. -/
theorem precheck_proves {started : ℕ} :
    wp environment (skill.precheck capability started)
      (fun _ after => (capability.helperValidate skill.swift started = .ok () ∧
        skill.swift.equivalent capability.calibrationProfileId skill.profile.profileId = true ∧
        ∀ tool, skill.manifest.authorize tool skill.targetBundleIdentifier = .ok ()) ∧
        after = world) (fun _ after => after = world) world := by
  rw [precheck, wp_bind, wp_ofExcept]
  constructor
  · intro _ hvalid
    rw [wp_bind, check]
    split_ifs with hprofile
    · apply wp_mono (authorizeAll_proves SendTool.allCases)
      · rintro _ _ - ⟨hauthorized, rfl⟩
        exact ⟨⟨hvalid, hprofile, fun tool => hauthorized tool (SendTool.mem_allCases tool)⟩, rfl⟩
      · rintro _ _ - rfl
        rfl
    · rfl
  · intro _ _
    rfl

theorem precheck_guarded {started : ℕ} (hsafe : Safe (skill.Guard capability) world.history) :
    Guarded skill capability environment (skill.precheck capability started)
      (fun _ after => (capability.helperValidate skill.swift started = .ok () ∧
        skill.swift.equivalent capability.calibrationProfileId skill.profile.profileId = true ∧
        ∀ tool, skill.manifest.authorize tool skill.targetBundleIdentifier = .ok ()) ∧
        after = world) world := by
  apply wp_mono precheck_proves
  · rintro _ _ - ⟨hproved, rfl⟩
    exact ⟨hsafe, hproved, rfl⟩
  · rintro _ _ - rfl
    exact hsafe

/-- The search key was echoed, or nothing was typed. -/
theorem address_echoes {frame : WindowFrame} :
    wp environment (skill.address capability frame)
      (fun _ _ => capability.addressingMode.typesBeforeRecipientGate = true →
        ∃ text, skill.swift.echoes text capability.searchKey = true) (fun _ _ => True) world := by
  unfold address
  split_ifs with htypes
  · apply wp_skip
    intro _ _
    apply wp_skip
    intro _ _
    apply wp_skip
    intro _ _
    apply wp_skip
    intro _ _
    apply wp_skip
    intro echoed _
    apply wp_skip
    intro _ _
    rw [wp_bind, check]
    cases hechoed : skill.swift.echoes echoed.text capability.searchKey with
    | false => trivial
    | true =>
      change wp environment (_ >>= _) _ _ _
      apply wp_mono wp_true
      · intro _ _ _ _ _
        exact ⟨echoed.text, hechoed⟩
      · intro _ _ _ _
        trivial
  · intro htypes'
    exact absurd htypes' htypes

/-- An input of the addressing stage. -/
def Addresses (call : SkillCall) : Prop := Harmless call ∧ call.fillsCompose = false

theorem address_guarded {frame : WindowFrame}
    (hsafe : Safe (skill.Guard capability) world.history) :
    Guarded skill capability environment (skill.address capability frame)
      (fun _ after => Added Addresses world.history after.history ∧
        (capability.addressingMode.typesBeforeRecipientGate = true →
          ∃ text, skill.swift.echoes text capability.searchKey = true)) world := by
  have hquiet : ∀ call, Quiet call → Addresses call :=
    fun call hcall => ⟨harmless_of_quiet call hcall, SkillCall.fillsCompose_of_quiet hcall⟩
  by_cases htypes : capability.addressingMode.typesBeforeRecipientGate = true
  · have hcalls : Calls Addresses remembered (skill.address capability frame) :=
      address_calls hquiet skill capability ⟨⟨rfl, rfl⟩, rfl⟩ ⟨⟨rfl, rfl⟩, rfl⟩ ⟨⟨rfl, rfl⟩, rfl⟩
        ⟨⟨rfl, rfl⟩, rfl⟩
    have hguarded : Guarded skill capability environment (skill.address capability frame) _ world :=
      guarded_of_calls hcalls hsafe fun history call _ hcall =>
        guard_of_harmless hcall.1 (.inl htypes)
    apply wp_mono (wp_and hguarded address_echoes)
    · rintro _ after - ⟨⟨hafter, hadded, -⟩, hechoed⟩
      exact ⟨hafter, hadded, hechoed⟩
    · rintro _ _ - ⟨hafter, -⟩
      exact hafter
  · rw [address, if_neg htypes]
    exact guarded_pure hsafe ⟨.refl _, fun htypes' => absurd htypes' htypes⟩

theorem recipientVerify_guarded {frame : WindowFrame}
    (hsafe : Safe (skill.Guard capability) world.history) :
    Guarded skill capability environment (skill.recipientVerify capability frame)
      (fun _ after => Added Quiet world.history after.history ∧
        skill.TitlePassed capability after.history) world := by
  apply guarded_bind (guarded_enter hsafe)
  intro _ entered _ hsafe hentered
  apply guarded_bind (yieldToHuman_guarded hsafe)
  intro _ asked _ hsafe hasked
  apply guarded_bind (guarded_recognize hsafe)
  intro title recognized _ hsafe hrecognized
  apply guarded_bind (guarded_record hsafe)
  intro _ recorded _ hsafe hrecorded
  apply guarded_mono (guarded_check hsafe)
  rintro _ after - ⟨hpasses, rfl⟩
  have hhistory : after.history = performed (.recognizeText .title frame) title ::
      ⟨.humanActivityObserved, false⟩ :: world.history := by
    rw [hrecorded, hrecognized.1, hasked.1, hentered.1]
  have hadded : Added Quiet world.history after.history := by
    refine ⟨[performed (.recognizeText .title frame) title, ⟨.humanActivityObserved, false⟩],
      hhistory, ?_⟩
    simp [Quiet, performed, SkillCall.isInput, SkillCall.writesClipboard]
  refine ⟨hadded, frame, title, ?_, hpasses⟩
  rw [hhistory]
  exact List.mem_cons_self

theorem requireAttachmentRegions_guarded (hsafe : Safe (skill.Guard capability) world.history) :
    Guarded skill capability environment skill.requireAttachmentRegions
      (fun attachments after => skill.profile.attachments = some attachments ∧ after = world)
      world := by
  rw [requireAttachmentRegions]
  cases hattachments : skill.profile.attachments with
  | none => exact hsafe
  | some attachments => exact guarded_pure hsafe ⟨rfl, rfl⟩

/-- Staging by paste, which is all there is without a file panel. -/
theorem stageAttachment_guarded {attachment : ActionAttachment} {frame : WindowFrame}
    (hsafe : Safe (skill.Guard capability) world.history)
    (htitle : skill.TitlePassed capability world.history)
    (hpaste : ∀ attachments, skill.profile.attachments = some attachments →
      attachments.composeAcceptsPastedFile = true) :
    Guarded skill capability environment (skill.stageAttachment attachment frame)
      (fun _ after => remembered after.locals = remembered world.locals) world := by
  apply guarded_bind (requireAttachmentRegions_guarded hsafe)
  rintro attachments _ - hsafe ⟨hattachments, rfl⟩
  rw [if_pos (hpaste attachments hattachments)]
  have hquiet := harmless_of_quiet
  apply guarded_mono (guarded_of_harmless _ hsafe (.inr htitle)) fun _ _ _ hafter => hafter.2
  exact Calls.bind (.call ⟨rfl, rfl⟩) fun _ => check_calls.bind fun _ =>
    authorize_calls.bind fun _ => (perform_calls ⟨rfl, rfl⟩).bind fun _ =>
      (settle_calls hquiet).bind fun _ => authorize_calls.bind fun _ =>
        (perform_calls ⟨rfl, rfl⟩).bind fun _ => authorize_calls.bind fun _ =>
          (perform_calls ⟨rfl, rfl⟩).bind fun _ => settle_calls hquiet

/-- What the staging of a message leaves for the content gate to compare. -/
def Staged (capability : ActionCapabilityEnvelope) (frame : WindowFrame)
    (after : SkillWorld) : Prop :=
  match capability.attachment with
  | none => performed (.click .composeBox frame) () ∈ after.history
  | some _ => performed (.regionFingerprint .composeAttachment frame)
      after.locals.attachmentBaseline ∈ after.history

theorem compose_guarded {frame : WindowFrame} (hsafe : Safe (skill.Guard capability) world.history)
    (htitle : skill.TitlePassed capability world.history)
    (hfills : ∀ event ∈ world.history, event.1.fillsCompose = false)
    (hpaste : ∀ attachments, capability.attachment.isSome = true →
      skill.profile.attachments = some attachments → attachments.composeAcceptsPastedFile = true) :
    Guarded skill capability environment (skill.compose capability frame)
      (fun _ after => skill.ComposeReadEmpty after.history ∧ Staged capability frame after)
      world := by
  apply guarded_bind (guarded_enter hsafe)
  intro _ entered _ hsafe hentered
  apply guarded_bind (guarded_recognize hsafe)
  intro existing _ hgrown hsafe hrecognized
  apply guarded_bind (guarded_check hsafe)
  rintro _ recognized - hsafe ⟨hempty, rfl⟩
  have hread : skill.ComposeReadEmpty recognized.history := by
    refine ⟨frame, existing, entered.history, ?_, beq_iff_eq.mp hempty, ?_⟩
    · rw [hrecognized.1]
    · rw [hentered.1]
      exact hfills
  have htitle' : skill.TitlePassed capability recognized.history := by
    rw [← hentered.1] at htitle
    exact htitle.mono hgrown.suffix
  cases hattachment : capability.attachment with
  | none =>
    apply guarded_mono (focusAndPaste_guarded hsafe (.inr htitle'))
    intro _ after hgrown' hafter
    refine ⟨hread.mono hgrown'.suffix, ?_⟩
    simp only [Staged, hattachment]
    exact hafter.1
  | some attachment =>
    apply guarded_bind (requireAttachmentRegions_guarded hsafe)
    rintro _ _ - hsafe ⟨-, rfl⟩
    apply guarded_bind (guarded_fingerprint hsafe)
    intro baseline fingerprinted hgrown' hsafe hfingerprinted
    have hstaged : Guarded skill capability environment (skill.stageAttachment attachment frame)
        (fun _ after => remembered after.locals =
          remembered { fingerprinted.locals with attachmentBaseline := baseline })
        { fingerprinted with
          locals := { fingerprinted.locals with attachmentBaseline := baseline } } :=
      stageAttachment_guarded hsafe (htitle'.mono hgrown'.suffix)
        fun attachments hattachments => hpaste attachments (by rw [hattachment]; rfl) hattachments
    rw [Guarded, wp_bind, wp_modify]
    apply guarded_mono hstaged
    intro _ after hgrown'' hafter
    refine ⟨hread.mono (hgrown'.suffix.trans hgrown''.suffix), ?_⟩
    simp only [Staged, hattachment]
    have hbaseline : after.locals.attachmentBaseline = baseline :=
      congrArg (fun kept => kept.2.1) hafter
    apply hgrown''.suffix.subset
    rw [hbaseline]
    change _ ∈ fingerprinted.history
    rw [hfingerprinted.1]
    exact List.mem_cons_self

theorem clearComposeIfFocusProven_guarded {frame : WindowFrame} {focusProven : Bool}
    (hsafe : Safe (skill.Guard capability) world.history)
    (htitle : skill.TitlePassed capability world.history)
    (hread : skill.ComposeReadEmpty world.history) :
    Guarded skill capability environment (skill.clearComposeIfFocusProven frame focusProven)
      (fun _ _ => True) world := by
  rw [clearComposeIfFocusProven]
  split_ifs
  · exact clearCompose_guarded hsafe hread (.inr htitle)
  · exact guarded_mono (guarded_of_quiet (.call rfl) hsafe) fun _ _ _ _ => trivial

/-- A script that refuses after it cleaned up. -/
theorem guarded_refusal {β : Type} {script : Skill Unit} {failure : SendFailure}
    {Q : β → SkillWorld → Prop}
    (h : Guarded skill capability environment script (fun _ _ => True) world) :
    Guarded skill capability environment (do script; Script.throw failure) Q world := by
  apply guarded_bind h
  intro _ _ _ hsafe _
  exact guarded_throw hsafe

theorem contentVerifyAttachment_guarded {attachment : ActionAttachment} {frame : WindowFrame}
    (hsafe : Safe (skill.Guard capability) world.history)
    (htitle : skill.TitlePassed capability world.history)
    (hread : skill.ComposeReadEmpty world.history)
    (hstaged : performed (.regionFingerprint .composeAttachment frame)
      world.locals.attachmentBaseline ∈ world.history) :
    Guarded skill capability environment
      (skill.contentVerifyAttachment capability attachment frame)
      (fun _ after => skill.AttachmentMatched capability attachment after.history) world := by
  apply guarded_bind (requireAttachmentRegions_guarded hsafe)
  rintro _ required - hsafe ⟨-, rfl⟩
  apply guarded_bind (guarded_fingerprint hsafe)
  intro after fingerprinted hgrown hsafe hfingerprinted
  rw [Guarded, wp_bind, wp_get]
  apply guarded_bind (guarded_record hsafe)
  intro _ recorded _ hsafe hrecorded
  have hchange : ∀ history, recorded.history <:+ history →
      skill.swift.equivalent after fingerprinted.locals.attachmentBaseline = false →
      ∃ frame before after earlier,
        performed (.regionFingerprint .composeAttachment frame) after :: earlier <:+ history ∧
          performed (.regionFingerprint .composeAttachment frame) before ∈ earlier ∧
          skill.swift.equivalent after before = false := by
    intro history hsuffix hchanged
    refine ⟨frame, fingerprinted.locals.attachmentBaseline, after, required.history, ?_, ?_,
      hchanged⟩
    · rw [← hfingerprinted.1]
      rw [hrecorded] at hsuffix
      exact hsuffix
    · rw [hfingerprinted.2]
      exact hstaged
  have hmono : required.history <:+ recorded.history := by
    rw [hrecorded]
    exact hgrown.suffix
  by_cases himage : capability.capability = .imageSend
  · rw [if_pos himage]
    apply guarded_bind (guarded_record hsafe)
    intro _ noted hnoted hsafe _
    have hsuffix := hmono.trans hnoted.suffix
    split_ifs with hchanged
    · apply guarded_pure hsafe
      refine ⟨hchange _ hnoted.suffix ?_, fun hfile => absurd himage hfile⟩
      simpa using hchanged
    · exact guarded_refusal (clearComposeIfFocusProven_guarded hsafe (htitle.mono hsuffix)
        (hread.mono hsuffix))
  · rw [if_neg himage]
    apply guarded_bind (guarded_recognize hsafe)
    intro staged recognized hgrown' hsafe hrecognized
    apply guarded_bind (guarded_record hsafe)
    intro _ noted _ hsafe hnoted
    have hsuffix : recorded.history <:+ noted.history := by
      rw [hnoted]
      exact hgrown'.suffix
    split_ifs with hmatched
    · rw [Bool.and_eq_true] at hmatched
      apply guarded_pure hsafe
      refine ⟨hchange _ hsuffix ?_, fun _ => ⟨frame, staged, ?_, hmatched.2⟩⟩
      · simpa using hmatched.1
      · rw [hnoted, hrecognized.1]
        exact List.mem_cons_self
    · exact guarded_refusal (clearComposeIfFocusProven_guarded hsafe
        (htitle.mono (hmono.trans hsuffix)) (hread.mono (hmono.trans hsuffix)))

theorem contentVerify_guarded {frame : WindowFrame}
    (hsafe : Safe (skill.Guard capability) world.history)
    (htitle : skill.TitlePassed capability world.history)
    (hread : skill.ComposeReadEmpty world.history) (hstaged : Staged capability frame world) :
    Guarded skill capability environment (skill.contentVerify capability frame)
      (fun _ after => skill.ContentMatched capability after.history) world := by
  apply guarded_bind (guarded_enter hsafe)
  intro _ entered _ hsafe hentered
  have hbaseline : entered.locals.attachmentBaseline = world.locals.attachmentBaseline :=
    congrArg (fun kept => kept.2.1) hentered.2
  rw [← hentered.1] at htitle hread
  unfold ContentMatched
  unfold Staged at hstaged
  cases hattachment : capability.attachment with
  | some attachment =>
    simp only [hattachment] at hstaged ⊢
    rw [← hentered.1, ← hbaseline] at hstaged
    exact contentVerifyAttachment_guarded hsafe htitle hread hstaged
  | none =>
    simp only [hattachment] at hstaged ⊢
    rw [← hentered.1] at hstaged
    apply guarded_bind (guarded_recognize hsafe)
    intro composed recognized hgrown hsafe hrecognized
    apply guarded_bind (guarded_record hsafe)
    intro _ recorded _ hsafe hrecorded
    split_ifs with hmatched
    · apply guarded_pure hsafe
      refine ⟨frame, composed, entered.history, ?_, hmatched, hstaged⟩
      rw [hrecorded, hrecognized.1]
    · have hsuffix : entered.history <:+ recorded.history := by
        rw [hrecorded]
        exact hgrown.suffix
      exact guarded_refusal (clearCompose_guarded hsafe (hread.mono hsuffix)
        (.inr (htitle.mono hsuffix)))

/-- What the gates have proved when the message stands composed. -/
structure Prepared (skill : MechanicalSendSkill) (capability : ActionCapabilityEnvelope)
    (history : SkillHistory) : Prop where
  validated : skill.Validated capability history
  titlePassed : skill.TitlePassed capability history
  composeReadEmpty : skill.ComposeReadEmpty history
  contentMatched : skill.ContentMatched capability history

theorem Prepared.mono {first last : SkillHistory} (h : Prepared skill capability first)
    (hgrown : first <:+ last) : Prepared skill capability last :=
  ⟨h.validated.mono hgrown, h.titlePassed.mono hgrown, h.composeReadEmpty.mono hgrown,
    h.contentMatched.mono hgrown⟩

theorem prepare_guarded {started : ℕ} (hpanel : ¬ StagesThroughPanel skill capability)
    (hsafe : Safe (skill.Guard capability) world.history)
    (hstarted : ⟨.clock, started⟩ ∈ world.history)
    (hfills : ∀ event ∈ world.history, event.1.fillsCompose = false) :
    Guarded skill capability environment (skill.prepare capability started)
      (fun _ after => Prepared skill capability after.history) world := by
  apply guarded_bind (precheck_guarded hsafe)
  rintro _ _ - hsafe ⟨⟨hvalid, hprofile, hauthorized⟩, rfl⟩
  apply guarded_bind (guarded_of_quiet (calibrate_calls (fun _ h => h) skill) hsafe)
  intro frame calibrated hcalibrate hsafe hcalibrated
  apply guarded_bind (address_guarded hsafe)
  rintro _ addressed haddress hsafe ⟨hadded, hechoes⟩
  apply guarded_bind (recipientVerify_guarded hsafe)
  rintro _ verified hverify hsafe ⟨hadded', htitle⟩
  have hfills' : ∀ event ∈ verified.history, event.1.fillsCompose = false := by
    apply added_quiet_no_fill hadded'
    intro event hevent
    rcases hadded.mem hevent with haddresses | hmem
    · exact haddresses.2
    · exact added_quiet_no_fill hcalibrated.1 hfills event hmem
  apply guarded_bind (compose_guarded hsafe htitle hfills' _)
  · rintro _ composed hcompose hsafe ⟨hread, hstaged⟩
    apply guarded_bind (contentVerify_guarded hsafe (htitle.mono hcompose.suffix) hread hstaged)
    intro _ matched hmatch hsafe hcontent
    apply guarded_pure hsafe
    have hwhole := hcalibrate.trans (haddress.trans (hverify.trans (hcompose.trans hmatch)))
    exact ⟨⟨started, hwhole.suffix.subset hstarted, hvalid⟩,
      htitle.mono (hcompose.trans hmatch).suffix, hread.mono hmatch.suffix, hcontent⟩
  · intro attachments hattached hattachments
    by_contra hrefuses
    rw [Bool.not_eq_true] at hrefuses
    exact hpanel ⟨⟨started, hvalid⟩, hprofile, hauthorized, hechoes, hattached,
      ⟨attachments, hattachments, hrefuses⟩⟩

theorem yieldToHuman_clearing_guarded {frame : WindowFrame}
    (hsafe : Safe (skill.Guard capability) world.history)
    (htitle : skill.TitlePassed capability world.history)
    (hread : skill.ComposeReadEmpty world.history) :
    Guarded skill capability environment (skill.yieldToHuman (some frame))
      (fun _ after => after.history = ⟨.humanActivityObserved, false⟩ :: world.history ∧
        after.locals = world.locals) world := by
  rw [yieldToHuman, Guarded, wp_bind]
  change wp environment (if environment world.history .humanActivityObserved = true then _ else _)
    _ _ _
  have hasked : Safe (skill.Guard capability)
      (⟨.humanActivityObserved, environment world.history .humanActivityObserved⟩ ::
        world.history) := safe_cons.mpr ⟨guard_of_quiet rfl, hsafe⟩
  cases hobserved : environment world.history .humanActivityObserved with
  | false =>
    rw [hobserved] at hasked
    exact ⟨hasked, rfl, rfl⟩
  | true =>
    rw [hobserved] at hasked
    rw [if_pos rfl]
    apply guarded_bind (guarded_record (by exact hasked))
    intro _ recorded hgrown hsafe hrecorded
    have hsuffix : world.history <:+ recorded.history := by
      rw [hrecorded]
      exact List.suffix_cons _ _
    apply guarded_refusal
    rw [Guarded, wp_ignore]
    apply wp_mono (clearCompose_guarded hsafe (hread.mono hsuffix) (.inr (htitle.mono hsuffix)))
    · intro _ _ _ hafter
      exact ⟨hafter.1, trivial⟩
    · intro _ _ _ hafter
      exact ⟨hafter, trivial⟩

theorem afterReturn_guarded {started : ℕ} {frame : WindowFrame}
    (hsafe : Safe (skill.Guard capability) world.history)
    (htitle : skill.TitlePassed capability world.history) :
    Guarded skill capability environment (skill.afterReturn capability started frame)
      (fun _ _ => True) world := by
  rw [afterReturn, Guarded, wp_bind, wp_modify]
  have hcalls : Calls Harmless remembered (skill.confirmAndVerify capability started frame) :=
    confirmAndVerify_calls harmless_of_quiet skill capability ⟨rfl, rfl⟩
  exact guarded_mono (guarded_of_harmless hcalls hsafe (.inr htitle)) fun _ _ _ _ => trivial

theorem send_guarded {started : ℕ} {frame : WindowFrame}
    (hpermit : capability.permitSend = true)
    (hsafe : Safe (skill.Guard capability) world.history)
    (h : Prepared skill capability world.history) :
    Guarded skill capability environment (skill.send capability started frame)
      (fun _ _ => True) world := by
  apply guarded_bind (guarded_enter hsafe)
  intro _ entered hgrown hsafe hentered
  have hprepared := h.mono hgrown.suffix
  apply guarded_bind (yieldToHuman_clearing_guarded hsafe hprepared.titlePassed
    hprepared.composeReadEmpty)
  intro _ yielded hgrown' hsafe hyielded
  apply guarded_bind (guarded_authorize hsafe)
  rintro _ authorized - hsafe ⟨-, rfl⟩
  have hprepared' := hprepared.mono hgrown'.suffix
  have hidle : Idle authorized.history := ⟨[], entered.history, hyielded.1, by simp⟩
  have hreturn : skill.Guard capability authorized.history (.perform (.press .returnKey)) :=
    ⟨fun _ => ⟨hprepared'.validated, hpermit, hprepared'.titlePassed, hprepared'.composeReadEmpty,
      hprepared'.contentMatched, hidle⟩, fun _ => .inr hprepared'.titlePassed, nofun⟩
  apply guarded_bind (guarded_perform hsafe hreturn)
  intro _ pressed hgrown'' hsafe _
  exact afterReturn_guarded hsafe (hprepared'.titlePassed.mono hgrown''.suffix)

theorem finishDryRun_guarded {started : ℕ} {frame : WindowFrame}
    (hsafe : Safe (skill.Guard capability) world.history)
    (h : Prepared skill capability world.history) :
    Guarded skill capability environment (skill.finishDryRun capability started frame)
      (fun _ _ => True) world := by
  apply guarded_bind (clearCompose_guarded hsafe h.composeReadEmpty (.inr h.titlePassed))
  intro _ _ _ hsafe _
  apply guarded_mono (guarded_of_quiet _ hsafe) fun _ _ _ _ => trivial
  exact (measure_calls fun _ h => h).bind fun _ => outcome_calls (fun _ h => h) skill capability

/-- Without a file panel every call of a run is guarded. -/
theorem execute_safe (hpanel : ¬ StagesThroughPanel skill capability) (state : SkillState) :
    wp environment (skill.execute capability)
      (fun _ after => Safe (skill.Guard capability) after.history)
      (fun _ after => Safe (skill.Guard capability) after.history) ⟨state, []⟩ := by
  rw [execute, wp_bind, wp_call, wp_recover]
  have hclock : Safe (skill.Guard capability) [⟨.clock, environment [] .clock⟩] :=
    safe_cons.mpr ⟨guard_of_quiet rfl, safe_nil⟩
  have hattempt : Guarded skill capability environment
      (skill.attempt capability (environment [] .clock)) (fun _ _ => True)
      ⟨state, [⟨.clock, environment [] .clock⟩]⟩ := by
    apply guarded_bind (prepare_guarded hpanel hclock (by simp) (by simp [SkillCall.fillsCompose]))
    intro frame prepared _ hsafe hprepared
    split_ifs with hpermit
    · exact send_guarded hpermit hsafe hprepared
    · exact finishDryRun_guarded hsafe hprepared
  apply wp_mono hattempt
  · intro _ after _ hafter
    exact hafter.1
  · intro failure after _ hafter
    apply wp_mono (guarded_of_quiet (refuse_calls (fun _ h => h) skill capability) hafter)
    · intro _ last _ hlast
      exact hlast.1
    · intro _ last _ hlast
      exact hlast

theorem restored_of_quiet {β : Type} {script : Skill β} {earlier : SkillHistory}
    (hcalls : Calls Quiet remembered script)
    (h : world.history = ⟨.restoreClipboard, ()⟩ :: earlier) :
    wp environment script (fun _ after => Restored after.history) (fun _ _ => True) world := by
  have hadded := hcalls.mono fun _ => SkillCall.writesClipboard_of_quiet
  apply wp_mono hadded.wp_of
  · rintro _ after - ⟨hafter, -⟩
    rw [h] at hafter
    exact restored_of_added hafter
  · intro _ _ _ _
    trivial

theorem report_restored {started : ℕ} {stage : SendStage} {attempted : Bool}
    {confirmation : Outbox.VisualConfirmation} {failure : Option SendFailureCode}
    {earlier : SkillHistory} (h : world.history = ⟨.restoreClipboard, ()⟩ :: earlier) :
    wp environment (do
        measure started
        skill.outcome capability stage attempted confirmation failure)
      (fun _ after => Restored after.history) (fun _ _ => True) world := by
  apply restored_of_quiet _ h
  exact (measure_calls fun _ h => h).bind fun _ => outcome_calls (fun _ h => h) skill capability

theorem restore_report {started : ℕ} {stage : SendStage} {attempted : Bool}
    {confirmation : Outbox.VisualConfirmation} {failure : Option SendFailureCode} :
    wp environment (do
        restoreClipboard
        measure started
        skill.outcome capability stage attempted confirmation failure)
      (fun _ after => Restored after.history) (fun _ _ => True) world := by
  rw [wp_bind, restoreClipboard, wp_call]
  exact report_restored rfl

theorem finishDryRun_restored {started : ℕ} {frame : WindowFrame} :
    wp environment (skill.finishDryRun capability started frame)
      (fun _ after => Restored after.history) (fun _ _ => True) world := by
  have hclear : wp environment (skill.clearCompose frame)
      (fun _ after => ∃ earlier, after.history = ⟨.restoreClipboard, ()⟩ :: earlier)
      (fun _ _ => True) world := by
    apply wp_skip
    intro _ _
    apply wp_skip
    intro _ _
    apply wp_skip
    intro _ _
    apply wp_skip
    intro _ _
    apply wp_skip
    intro _ _
    apply wp_skip
    intro _ after
    exact ⟨after.history, rfl⟩
  rw [finishDryRun, wp_bind]
  apply wp_mono hclear
  · rintro _ cleared - ⟨earlier, hearlier⟩
    exact report_restored hearlier
  · intro _ _ _ _
    trivial

theorem sendVerify_restored {started : ℕ} {frame : WindowFrame} :
    wp environment (skill.sendVerify capability started frame)
      (fun _ after => Restored after.history) (fun _ _ => True) world := by
  apply wp_skip
  intro _ _
  apply wp_skip
  intro _ _
  apply wp_skip
  intro _ _
  apply wp_skip
  intro _ _
  apply wp_skip
  intro _ _
  apply wp_skip
  intro _ _
  apply wp_skip
  intro _ _
  exact restore_report

theorem confirmAndVerify_restored {started : ℕ} {frame : WindowFrame} :
    wp environment (skill.confirmAndVerify capability started frame)
      (fun _ after => Restored after.history) (fun _ _ => True) world := by
  unfold confirmAndVerify
  split
  · split_ifs
    · apply wp_skip
      intro _ _
      apply wp_skip
      intro sheet _
      split_ifs
      · apply wp_skip
        intro _ _
        apply wp_skip
        intro _ _
        apply wp_skip
        intro _ _
        exact sendVerify_restored
      · exact restore_report
    · exact sendVerify_restored
  · exact sendVerify_restored

theorem attempt_restored {started : ℕ} :
    wp environment (skill.attempt capability started)
      (fun _ after => Restored after.history) (fun _ _ => True) world := by
  apply wp_skip
  intro frame _
  split_ifs
  · apply wp_skip
    intro _ _
    apply wp_skip
    intro _ _
    apply wp_skip
    intro _ _
    apply wp_skip
    intro _ _
    apply wp_skip
    intro _ _
    exact confirmAndVerify_restored
  · exact finishDryRun_restored

/-- A refusal always ends in a report, with the clipboard given back. -/
theorem refuse_restored {started : ℕ} {failure : SendFailure} :
    wp environment (skill.refuse capability started failure)
      (fun _ after => Restored after.history) (fun _ _ => False) world := by
  apply restored_of_added
  refine ⟨[⟨.clock, environment _ .clock⟩], rfl, ?_⟩
  simp [SkillCall.writesClipboard]

theorem execute_restored (state : SkillState) :
    wp environment (skill.execute capability) (fun _ after => Restored after.history)
      (fun _ _ => False) ⟨state, []⟩ := by
  rw [execute, wp_bind, wp_call, wp_recover]
  apply wp_mono attempt_restored
  · intro _ _ _ hafter
    exact hafter
  · intro _ _ _ _
    exact refuse_restored

end Steps

end GreenBubbles.Send.MechanicalSendSkill
