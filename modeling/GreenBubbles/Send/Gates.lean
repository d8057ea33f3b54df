import GreenBubbles.Send.Skill

/-! # What the skill's gates guard

Facts about a history of calls, the calls each step of the skill makes and the
guards a run keeps: when Return, an input event or a deletion may happen.
-/
namespace GreenBubbles.Send

open Library.Scripts
open Outbox (SendFailureCode)

abbrev SkillHistory := History SkillAnswer

abbrev SkillWorld := ScriptWorld SkillAnswer SkillState

/-- A call that was made and did not throw. -/
def performed (action : SkillAction) (value : action.Value) : ScriptEvent SkillAnswer :=
  ⟨.perform action, .ok value⟩

namespace SkillCall

def isReturn : SkillCall → Bool
  | .perform (.press .returnKey) => true
  | _ => false

def isDestructive : SkillCall → Bool
  | .perform (.press .selectAll) => true
  | .perform (.press .delete) => true
  | _ => false

def writesClipboard : SkillCall → Bool
  | .perform (.writeClipboard _) => true
  | .perform (.writeClipboardFileReference _) => true
  | _ => false

/-- What reaches the client, the clipboard it pastes from included. -/
def isInput : SkillCall → Bool
  | .perform (.click _ _) => true
  | .perform (.press _) => true
  | call => call.writesClipboard

/-- What a staging of the message begins with. -/
def fillsCompose : SkillCall → Bool
  | .perform (.click .composeBox _) => true
  | .perform (.click .attachControl _) => true
  | .perform (.writeClipboardFileReference _) => true
  | _ => false

theorem writesClipboard_of_quiet {call : SkillCall} (h : call.isInput = false) :
    call.writesClipboard = false := by
  unfold isInput at h
  split at h
  · cases h
  · cases h
  · exact h

theorem isReturn_of_quiet {call : SkillCall} (h : call.isInput = false) :
    call.isReturn = false := by
  unfold isReturn
  split
  · cases h
  · rfl

theorem isDestructive_of_quiet {call : SkillCall} (h : call.isInput = false) :
    call.isDestructive = false := by
  unfold isDestructive
  split
  · cases h
  · cases h
  · rfl

theorem fillsCompose_of_quiet {call : SkillCall} (h : call.isInput = false) :
    call.fillsCompose = false := by
  unfold fillsCompose
  split
  · cases h
  · cases h
  · cases h
  · rfl

end SkillCall

/-- A call that reaches nothing. -/
def Quiet (call : SkillCall) : Prop := call.isInput = false

namespace MechanicalSendSkill

section Steps

variable {environment : Environment SkillAnswer} {world : SkillWorld}

theorem wp_perform {action : SkillAction} {Q : action.Value → SkillWorld → Prop}
    {E : SendFailure → SkillWorld → Prop}
    (hok : ∀ value, Q value { world with history := performed action value :: world.history })
    (herror : ∀ failure,
      E failure { world with history := ⟨.perform action, .error failure⟩ :: world.history }) :
    wp environment (perform action) Q E world := by
  rw [perform, wp_bind, wp_call, wp_ofExcept]
  constructor
  · intro value hvalue
    rw [hvalue]
    exact hok value
  · intro failure hfailure
    rw [hfailure]
    exact herror failure

end Steps

section Calls

variable {S : SkillCall → Prop} (hquiet : ∀ call, Quiet call → S call)

/-- What almost every step leaves alone: whether Return is recorded as pressed, how the
attachment region looked before staging, and how well the title was read. -/
def remembered (state : SkillState) : Bool × String × ℕ :=
  (state.attempted, state.attachmentBaseline, state.evidence.titleConfidencePartsPerMillion)

theorem perform_calls {action : SkillAction} (h : S (.perform action)) :
    Calls S remembered (perform action) :=
  .bind (.call h) fun _ => .ofExcept

/-- A change of the evidence that is not of the title's. -/
def KeepsTitle (change : HelperGateEvidence → HelperGateEvidence) : Prop :=
  ∀ evidence,
    (change evidence).titleConfidencePartsPerMillion = evidence.titleConfidencePartsPerMillion

theorem record_calls {change : HelperGateEvidence → HelperGateEvidence} (h : KeepsTitle change) :
    Calls S remembered (record change) := by
  apply Calls.modify
  intro state
  rw [remembered, remembered, h]

theorem enter_calls {stage : SendStage} : Calls S remembered (enter stage) := .modify fun _ => rfl

theorem check_calls {condition : Bool} {code : SendFailureCode} {detail : String} :
    Calls S remembered (check condition code detail) := .ite (fun _ => .pure) fun _ => .throw

theorem authorize_calls {skill : MechanicalSendSkill} {tool : SendTool} :
    Calls S remembered (skill.authorize tool) := .ofExcept

variable (skill : MechanicalSendSkill) (capability : ActionCapabilityEnvelope)

theorem requireAttachmentRegions_calls : Calls S remembered skill.requireAttachmentRegions := by
  unfold requireAttachmentRegions
  split
  · exact .pure
  · exact .throw

theorem precheck_calls {started : ℕ} : Calls S remembered (skill.precheck capability started) := by
  apply Calls.bind .ofExcept
  intro _
  apply check_calls.bind
  intro _
  have htools : ∀ tools : List SendTool, Calls S remembered (tools.forM skill.authorize) := by
    intro tools
    induction tools with
    | nil => exact .pure
    | cons tool tools ih => exact authorize_calls.bind fun _ => ih
  exact htools _

include hquiet

theorem settle_calls {milliseconds : ℕ} : Calls S remembered (settle milliseconds) :=
  .call (hquiet _ rfl)

theorem restoreClipboard_calls : Calls S remembered restoreClipboard := .call (hquiet _ rfl)

theorem recognize_calls {region : Region} {frame : WindowFrame} :
    Calls S remembered (skill.recognize region frame) :=
  authorize_calls.bind fun _ => perform_calls (hquiet _ rfl)

theorem fingerprint_calls {region : Region} {frame : WindowFrame} :
    Calls S remembered (skill.fingerprint region frame) :=
  authorize_calls.bind fun _ => perform_calls (hquiet _ rfl)

theorem clearCompose_calls {frame : WindowFrame}
    (hclick : S (.perform (.click .composeBox frame))) (hselect : S (.perform (.press .selectAll)))
    (hdelete : S (.perform (.press .delete))) :
    Calls S remembered (skill.clearCompose frame) :=
  authorize_calls.bind fun _ => (perform_calls hclick).bind fun _ =>
    (settle_calls hquiet).bind fun _ => authorize_calls.bind fun _ =>
      (perform_calls hselect).bind fun _ => (perform_calls hdelete).bind fun _ =>
        restoreClipboard_calls hquiet

theorem yieldToHuman_calls {clearComposeIn : Option WindowFrame}
    (hclear : ∀ frame ∈ clearComposeIn, Calls S remembered (skill.clearCompose frame)) :
    Calls S remembered (skill.yieldToHuman clearComposeIn) := by
  apply Calls.bind (.call (hquiet .humanActivityObserved rfl))
  intro observed
  apply Calls.ite
  · intro _
    apply (record_calls (by intro _; rfl)).bind
    intro _
    cases clearComposeIn with
    | none => exact Calls.pure.bind fun _ => .throw
    | some frame => exact (hclear frame rfl).ignore.bind fun _ => .throw
  · intro _
    exact .pure

theorem focusAndPaste_calls {text : String} {anchor : Anchor} {frame : WindowFrame}
    (hclick : S (.perform (.click anchor frame))) (hwrite : S (.perform (.writeClipboard text)))
    (hpaste : S (.perform (.press .paste))) :
    Calls S remembered (skill.focusAndPaste text anchor frame) :=
  Calls.bind (.call (hquiet _ rfl)) fun _ => check_calls.bind fun _ =>
    authorize_calls.bind fun _ => (perform_calls hclick).bind fun _ =>
      (settle_calls hquiet).bind fun _ => authorize_calls.bind fun _ =>
        (perform_calls hwrite).bind fun _ => authorize_calls.bind fun _ =>
          (perform_calls hpaste).bind fun _ => settle_calls hquiet

theorem navigatePanel_calls {attachment : ActionAttachment} {frame : WindowFrame}
    (hclick : S (.perform (.click .attachControl frame)))
    (hwrite : S (.perform (.writeClipboard attachment.stagedPath)))
    (hkeys : ∀ key ∈ [SendKey.goToFolder, .paste, .escape], S (.perform (.press key))) :
    Calls S remembered (skill.navigatePanel attachment frame) := by
  apply Calls.bind (.call (hquiet .humanActivityObserved rfl))
  intro observed
  apply check_calls.bind
  intro _
  apply Calls.bind (.call (hquiet .targetWindowCount rfl))
  intro windowsBefore
  apply authorize_calls.bind
  intro _
  apply (perform_calls hclick).bind
  intro _
  apply (settle_calls hquiet).bind
  intro _
  apply Calls.bind (.call (hquiet .targetWindowCount rfl))
  intro windows
  apply Calls.ite
  · intro _
    exact authorize_calls.bind fun _ => (perform_calls (hkeys _ (by simp))).bind fun _ =>
      (settle_calls hquiet).bind fun _ => authorize_calls.bind fun _ =>
        (perform_calls hwrite).bind fun _ => (perform_calls (hkeys _ (by simp))).bind fun _ =>
          settle_calls hquiet
  · intro _
    exact authorize_calls.bind fun _ => (perform_calls (hkeys _ (by simp))).ignore.bind fun _ =>
      .throw

theorem calibrate_calls : Calls S remembered skill.calibrate :=
  enter_calls.bind fun _ => authorize_calls.bind fun _ =>
    (perform_calls (hquiet (.perform .windowFrame) rfl)).bind fun _ =>
    (record_calls (by intro _; rfl)).bind fun _ =>
      check_calls.bind fun _ => .pure

theorem address_calls {frame : WindowFrame} (hsearch : S (.perform (.click .searchBox frame)))
    (hrow : S (.perform (.click .firstResultRow frame)))
    (hwrite : S (.perform (.writeClipboard capability.searchKey)))
    (hpaste : S (.perform (.press .paste))) :
    Calls S remembered (skill.address capability frame) := by
  have hyield : Calls S remembered (skill.yieldToHuman none) :=
    yieldToHuman_calls hquiet skill (by simp)
  apply Calls.ite
  · intro _
    exact enter_calls.bind fun _ => hyield.bind fun _ =>
      (focusAndPaste_calls hquiet skill hsearch hwrite hpaste).bind fun _ =>
        (settle_calls hquiet).bind fun _ => (recognize_calls hquiet skill).bind fun _ =>
          (record_calls (by intro _; rfl)).bind fun _ => check_calls.bind fun _ =>
          hyield.bind fun _ =>
            authorize_calls.bind fun _ => (perform_calls hrow).bind fun _ => settle_calls hquiet
  · intro _
    exact .pure

theorem outcome_calls {stage : SendStage} {attempted : Bool}
    {confirmation : Outbox.VisualConfirmation} {failure : Option SendFailureCode} :
    Calls S remembered (skill.outcome capability stage attempted confirmation failure) :=
  Calls.get.bind fun _ => Calls.bind (.call (hquiet _ rfl)) fun _ => .pure

theorem measure_calls {started : ℕ} : Calls S remembered (measure started) :=
  Calls.bind (.call (hquiet _ rfl)) fun _ => Calls.bind (.call (hquiet _ rfl)) fun _ =>
    record_calls (by intro _; rfl)

theorem refuse_calls {started : ℕ} {failure : SendFailure} :
    Calls S remembered (skill.refuse capability started failure) :=
  (measure_calls hquiet).bind fun _ => (restoreClipboard_calls hquiet).bind fun _ =>
    Calls.get.bind fun _ => outcome_calls hquiet skill capability

theorem sendVerify_calls {started : ℕ} {frame : WindowFrame} :
    Calls S remembered (skill.sendVerify capability started frame) :=
  (settle_calls hquiet).bind fun _ => enter_calls.bind fun _ =>
    (recognize_calls hquiet skill).bind fun _ => (record_calls (by intro _; rfl)).bind fun _ =>
      (recognize_calls hquiet skill).bind fun _ => (record_calls (by intro _; rfl)).bind fun _ =>
        Calls.bind (.modify fun _ => rfl) fun _ => (restoreClipboard_calls hquiet).bind fun _ =>
          (measure_calls hquiet).bind fun _ => outcome_calls hquiet skill capability

theorem confirmSheet_calls {attachment : ActionAttachment} {started : ℕ} {frame : WindowFrame}
    (hclick : S (.perform (.click .confirmSendButton frame))) :
    Calls S remembered (skill.confirmSheet capability attachment started frame) := by
  apply (settle_calls hquiet).bind
  intro _
  apply (recognize_calls hquiet skill).bind
  intro sheet
  apply Calls.ite
  · intro _
    exact authorize_calls.bind fun _ => (perform_calls hclick).bind fun _ =>
      (record_calls (by intro _; rfl)).bind fun _ => sendVerify_calls hquiet skill capability
  · intro _
    exact (restoreClipboard_calls hquiet).bind fun _ => (measure_calls hquiet).bind fun _ =>
      outcome_calls hquiet skill capability

theorem confirmAndVerify_calls {started : ℕ} {frame : WindowFrame}
    (hclick : S (.perform (.click .confirmSendButton frame))) :
    Calls S remembered (skill.confirmAndVerify capability started frame) := by
  unfold confirmAndVerify
  split
  · apply Calls.ite
    · intro _
      exact confirmSheet_calls hquiet skill capability hclick
    · intro _
      exact sendVerify_calls hquiet skill capability
  · exact sendVerify_calls hquiet skill capability

end Calls

section Content

variable {S : SkillCall → Prop} (hS : ∀ call, call.isReturn = false → S call)
  (skill : MechanicalSendSkill) (capability : ActionCapabilityEnvelope)

/-- What is reported of a run: whether Return was pressed, and how well the title was read. -/
def noted (state : SkillState) : Bool × ℕ :=
  (state.attempted, state.evidence.titleConfidencePartsPerMillion)

theorem noted_of_remembered {β : Type} {script : Skill β} (h : Calls S remembered script) :
    Calls S noted script :=
  h.comp fun kept : Bool × String × ℕ => (kept.1, kept.2.2)

theorem requireAttachmentRegions_value (environment : Environment SkillAnswer)
    (world : SkillWorld) :
    wp environment skill.requireAttachmentRegions
      (fun attachments _ => skill.profile.attachments = some attachments) (fun _ _ => True)
      world := by
  rw [requireAttachmentRegions]
  cases hattachments : skill.profile.attachments with
  | none => trivial
  | some attachments => exact rfl

include hS

theorem of_quiet (call : SkillCall) (h : Quiet call) : S call :=
  hS call (SkillCall.isReturn_of_quiet h)

/-- Only a file panel is confirmed with Return. -/
theorem stageAttachment_calls {attachment : ActionAttachment} {frame : WindowFrame}
    (hpanel : ∀ attachments, skill.profile.attachments = some attachments →
      attachments.composeAcceptsPastedFile = false → S (.perform (.press .returnKey))) :
    Calls S remembered (skill.stageAttachment attachment frame) := by
  have hquiet := of_quiet hS
  apply (requireAttachmentRegions_calls skill).bind_of (requireAttachmentRegions_value skill)
  intro attachments hattachments
  apply Calls.ite
  · intro _
    exact Calls.bind (.call (hquiet .humanActivityObserved rfl)) fun _ => check_calls.bind fun _ =>
      authorize_calls.bind fun _ => (perform_calls (hS _ rfl)).bind fun _ =>
        (settle_calls hquiet).bind fun _ => authorize_calls.bind fun _ =>
          (perform_calls (hS _ rfl)).bind fun _ => authorize_calls.bind fun _ =>
            (perform_calls (hS _ rfl)).bind fun _ => settle_calls hquiet
  · intro hrefuses
    rw [Bool.not_eq_true] at hrefuses
    have hreturn := hpanel attachments hattachments hrefuses
    have hnavigate : Calls S remembered (skill.navigatePanel attachment frame) := by
      apply navigatePanel_calls hquiet skill (hS _ rfl) (hS _ rfl)
      intro key hkey
      simp only [List.mem_cons, List.not_mem_nil, or_false] at hkey
      rcases hkey with rfl | rfl | rfl
      · exact hS _ rfl
      · exact hS _ rfl
      · exact hS _ rfl
    exact (requireAttachmentRegions_calls skill).bind fun _ => hnavigate.bind fun _ =>
      (perform_calls hreturn).bind fun _ => (settle_calls hquiet).bind fun _ =>
        (perform_calls hreturn).bind fun _ => (settle_calls hquiet).bind fun _ =>
          record_calls (by intro _; rfl)

theorem compose_calls {frame : WindowFrame}
    (hpanel : ∀ attachments, capability.attachment.isSome = true →
      skill.profile.attachments = some attachments →
      attachments.composeAcceptsPastedFile = false → S (.perform (.press .returnKey))) :
    Calls S noted (skill.compose capability frame) := by
  have hquiet := of_quiet hS
  unfold compose
  apply (noted_of_remembered enter_calls).bind
  intro _
  apply (noted_of_remembered (recognize_calls hquiet skill)).bind
  intro existing
  apply (noted_of_remembered check_calls).bind
  intro _
  cases hattachment : capability.attachment with
  | none =>
    exact noted_of_remembered
      (focusAndPaste_calls hquiet skill (hS _ rfl) (hS _ rfl) (hS _ rfl))
  | some attachment =>
    apply (noted_of_remembered (requireAttachmentRegions_calls skill)).bind
    intro _
    apply (noted_of_remembered (fingerprint_calls hquiet skill)).bind
    intro baseline
    apply Calls.bind (.modify (by intro _; rfl))
    intro _
    apply noted_of_remembered
    apply stageAttachment_calls hS skill
    intro attachments hattachments hrefuses
    exact hpanel attachments (by rw [hattachment]; rfl) hattachments hrefuses

theorem clearingCompose_calls {frame : WindowFrame} :
    Calls S remembered (skill.clearCompose frame) :=
  clearCompose_calls (of_quiet hS) skill (hS _ rfl) (hS _ rfl) (hS _ rfl)

theorem clearComposeIfFocusProven_calls {frame : WindowFrame} {focusProven : Bool} :
    Calls S remembered (skill.clearComposeIfFocusProven frame focusProven) :=
  .ite (fun _ => clearingCompose_calls hS skill) fun _ => restoreClipboard_calls (of_quiet hS)

theorem contentVerifyAttachment_calls {attachment : ActionAttachment} {frame : WindowFrame} :
    Calls S remembered (skill.contentVerifyAttachment capability attachment frame) := by
  have hquiet := of_quiet hS
  apply (requireAttachmentRegions_calls skill).bind
  intro _
  apply (fingerprint_calls hquiet skill).bind
  intro after
  apply Calls.get.bind
  intro state
  apply (record_calls (by intro _; rfl)).bind
  intro _
  apply Calls.ite
  · intro _
    apply (record_calls (by intro _; rfl)).bind
    intro _
    apply Calls.ite
    · intro _
      exact .pure
    · intro _
      exact (clearComposeIfFocusProven_calls hS skill).bind fun _ => .throw
  · intro _
    apply (recognize_calls hquiet skill).bind
    intro staged
    apply (record_calls (by intro _; rfl)).bind
    intro _
    apply Calls.ite
    · intro _
      exact .pure
    · intro _
      exact (clearComposeIfFocusProven_calls hS skill).bind fun _ => .throw

theorem contentVerify_calls {frame : WindowFrame} :
    Calls S remembered (skill.contentVerify capability frame) := by
  unfold contentVerify
  apply enter_calls.bind
  intro _
  cases capability.attachment with
  | some attachment => exact contentVerifyAttachment_calls hS skill capability
  | none =>
    apply (recognize_calls (of_quiet hS) skill).bind
    intro composed
    apply (record_calls (by intro _; rfl)).bind
    intro _
    apply Calls.ite
    · intro _
      exact .pure
    · intro _
      exact (clearingCompose_calls hS skill).bind fun _ => .throw

end Content

section Facts

variable (skill : MechanicalSendSkill) (capability : ActionCapabilityEnvelope)

def Validated (history : SkillHistory) : Prop :=
  ∃ now, ⟨.clock, now⟩ ∈ history ∧ capability.helperValidate skill.swift now = .ok ()

/-- The recipient gate: the title region was read and passes. -/
def TitlePassed (history : SkillHistory) : Prop :=
  ∃ frame title, performed (.recognizeText .title frame) title ∈ history ∧
    skill.titlePasses capability title = true

/-- The compose box was read empty before anything was put in it. -/
def ComposeReadEmpty (history : SkillHistory) : Prop :=
  ∃ frame text earlier, performed (.recognizeText .compose frame) text :: earlier <:+ history ∧
    skill.swift.normalized text.text = "" ∧ ∀ event ∈ earlier, event.1.fillsCompose = false

/-- The content gate for a body: it was read back after the compose box was focused. -/
def BodyMatched (history : SkillHistory) : Prop :=
  ∃ frame text earlier, performed (.recognizeText .compose frame) text :: earlier <:+ history ∧
    skill.swift.matches text.text capability.body = true ∧
    performed (.click .composeBox frame) () ∈ earlier

/-- The content gate for an attachment: the region changed, and a file's name was read there. -/
def AttachmentMatched (attachment : ActionAttachment) (history : SkillHistory) : Prop :=
  (∃ frame before after earlier,
    performed (.regionFingerprint .composeAttachment frame) after :: earlier <:+ history ∧
      performed (.regionFingerprint .composeAttachment frame) before ∈ earlier ∧
      skill.swift.equivalent after before = false) ∧
  (capability.capability ≠ .imageSend → ∃ frame text,
    performed (.recognizeText .composeAttachment frame) text ∈ history ∧
      skill.swift.echoes text.text attachment.displayFileName = true)

def ContentMatched (history : SkillHistory) : Prop :=
  match capability.attachment with
  | none => skill.BodyMatched capability history
  | some attachment => skill.AttachmentMatched capability attachment history

/-- No human activity was observed at the last check. -/
def Idle (history : SkillHistory) : Prop :=
  ∃ later earlier, history = later ++ ⟨.humanActivityObserved, false⟩ :: earlier ∧
    ∀ event ∈ later, event.1 ≠ .humanActivityObserved

/-- The compose box was focused after it was read empty. -/
def ComposeFocused (history : SkillHistory) : Prop :=
  ∃ frame earlier, performed (.click .composeBox frame) () :: earlier <:+ history ∧
    skill.ComposeReadEmpty earlier

/-- When Return may be pressed. -/
structure MayReturn (history : SkillHistory) : Prop where
  validated : skill.Validated capability history
  permitted : capability.permitSend = true
  titlePassed : skill.TitlePassed capability history
  composeReadEmpty : skill.ComposeReadEmpty history
  contentMatched : skill.ContentMatched capability history
  idle : Idle history

structure Guard (history : SkillHistory) (call : SkillCall) : Prop where
  returns : call.isReturn = true → skill.MayReturn capability history
  inputs : call.isInput = true → capability.addressingMode.typesBeforeRecipientGate = true ∨
    skill.TitlePassed capability history
  clears : call.isDestructive = true →
    skill.ComposeFocused history ∨ skill.ContentMatched capability history

/-- Whatever was put on the clipboard, it was given back what it held. -/
def Restored (history : SkillHistory) : Prop :=
  ∀ later event earlier, history = later ++ event :: earlier → event.1.writesClipboard = true →
    ⟨.restoreClipboard, ()⟩ ∈ later

/-- What the gates ask of a whole run. -/
structure GatesRespected (history : SkillHistory) : Prop where
  guarded : Safe (skill.Guard capability) history
  restored : Restored history

variable {skill capability} {first last : SkillHistory}

theorem TitlePassed.mono (h : skill.TitlePassed capability first) (hgrown : first <:+ last) :
    skill.TitlePassed capability last := by
  rcases h with ⟨frame, title, hmem, hpasses⟩
  exact ⟨frame, title, hgrown.subset hmem, hpasses⟩

theorem Validated.mono (h : skill.Validated capability first) (hgrown : first <:+ last) :
    skill.Validated capability last := by
  rcases h with ⟨now, hmem, hvalid⟩
  exact ⟨now, hgrown.subset hmem, hvalid⟩

theorem ComposeReadEmpty.mono (h : skill.ComposeReadEmpty first) (hgrown : first <:+ last) :
    skill.ComposeReadEmpty last := by
  rcases h with ⟨frame, text, earlier, hread, hempty⟩
  exact ⟨frame, text, earlier, hread.trans hgrown, hempty⟩

theorem ContentMatched.mono (h : skill.ContentMatched capability first) (hgrown : first <:+ last) :
    skill.ContentMatched capability last := by
  unfold ContentMatched at h ⊢
  cases hattachment : capability.attachment with
  | none =>
    rw [hattachment] at h
    rcases h with ⟨frame, text, earlier, hread, hmatched⟩
    exact ⟨frame, text, earlier, hread.trans hgrown, hmatched⟩
  | some attachment =>
    rw [hattachment] at h
    rcases h with ⟨⟨frame, before, after, earlier, hread, hchanged⟩, hnamed⟩
    refine ⟨⟨frame, before, after, earlier, hread.trans hgrown, hchanged⟩, ?_⟩
    intro hfile
    rcases hnamed hfile with ⟨frame, text, hmem, hechoes⟩
    exact ⟨frame, text, hgrown.subset hmem, hechoes⟩

theorem restored_of_added {earlier : SkillHistory}
    (h : Added (fun call => call.writesClipboard = false) (⟨.restoreClipboard, ()⟩ :: earlier)
      last) :
    Restored last := by
  rcases h with ⟨added, rfl, hadded⟩
  intro later event before hsplit hwrites
  rcases List.append_eq_append_iff.mp hsplit with ⟨rest, rfl, hrest⟩ | ⟨rest, rfl, hrest⟩
  · cases rest with
    | nil =>
      rw [List.nil_append, List.cons.injEq] at hrest
      rw [← hrest.1] at hwrites
      cases hwrites
    | cons newest rest =>
      rw [List.cons_append, List.cons.injEq] at hrest
      rw [← hrest.1]
      simp
  · cases rest with
    | nil =>
      rw [List.nil_append, List.cons.injEq] at hrest
      rw [hrest.1] at hwrites
      cases hwrites
    | cons newest rest =>
      rw [List.cons_append, List.cons.injEq] at hrest
      have hquiet := hadded newest (by simp)
      rw [← hrest.1, hwrites] at hquiet
      cases hquiet

theorem guard_of_quiet {history : SkillHistory} {call : SkillCall} (h : Quiet call) :
    skill.Guard capability history call := by
  constructor
  · intro hreturn
    rw [SkillCall.isReturn_of_quiet h] at hreturn
    cases hreturn
  · intro hinput
    rw [h] at hinput
    cases hinput
  · intro hdestructive
    rw [SkillCall.isDestructive_of_quiet h] at hdestructive
    cases hdestructive

/-- An input that is neither Return nor a deletion. -/
def Harmless (call : SkillCall) : Prop := call.isReturn = false ∧ call.isDestructive = false

theorem harmless_of_quiet (call : SkillCall) (h : Quiet call) : Harmless call :=
  ⟨SkillCall.isReturn_of_quiet h, SkillCall.isDestructive_of_quiet h⟩

theorem guard_of_harmless {history : SkillHistory} {call : SkillCall} (h : Harmless call)
    (hopen : capability.addressingMode.typesBeforeRecipientGate = true ∨
      skill.TitlePassed capability history) : skill.Guard capability history call := by
  constructor
  · intro hreturn
    rw [h.1] at hreturn
    cases hreturn
  · intro _
    exact hopen
  · intro hdestructive
    rw [h.2] at hdestructive
    cases hdestructive

end Facts

section Runs

variable {environment : Environment SkillAnswer} {world : SkillWorld}
  {skill : MechanicalSendSkill} {capability : ActionCapabilityEnvelope} {β : Type}

/-- A script whose calls are all guarded: it ends safely, whichever way. -/
def Guarded (skill : MechanicalSendSkill) (capability : ActionCapabilityEnvelope)
    (environment : Environment SkillAnswer) (script : Skill β)
    (Q : β → SkillWorld → Prop) (world : SkillWorld) : Prop :=
  wp environment script (fun value after => Safe (skill.Guard capability) after.history ∧
    Q value after) (fun _ after => Safe (skill.Guard capability) after.history) world

theorem guarded_bind {γ : Type} {script : Skill γ} {next : γ → Skill β}
    {Q : β → SkillWorld → Prop} {R : γ → SkillWorld → Prop}
    (h : Guarded skill capability environment script R world)
    (hnext : ∀ value after, Grown environment world.history after.history →
      Safe (skill.Guard capability) after.history → R value after →
      Guarded skill capability environment (next value) Q after) :
    Guarded skill capability environment (script >>= next) Q world := by
  rw [Guarded, wp_bind]
  apply wp_mono h
  · intro value after hgrown hafter
    exact hnext value after hgrown hafter.1 hafter.2
  · intro error after _ hafter
    exact hafter

theorem guarded_pure {value : β} {Q : β → SkillWorld → Prop}
    (hsafe : Safe (skill.Guard capability) world.history) (h : Q value world) :
    Guarded skill capability environment (pure value) Q world := ⟨hsafe, h⟩

theorem guarded_throw {failure : SendFailure} {Q : β → SkillWorld → Prop}
    (hsafe : Safe (skill.Guard capability) world.history) :
    Guarded skill capability environment (Script.throw failure) Q world := hsafe

theorem guarded_perform {action : SkillAction}
    (hsafe : Safe (skill.Guard capability) world.history)
    (hguard : skill.Guard capability world.history (.perform action)) :
    Guarded skill capability environment (perform action)
      (fun value after => after.history = performed action value :: world.history ∧
        after.locals = world.locals) world := by
  apply wp_perform
  · intro value
    exact ⟨safe_cons.mpr ⟨hguard, hsafe⟩, rfl, rfl⟩
  · intro failure
    exact safe_cons.mpr ⟨hguard, hsafe⟩

/-- Calls of a kind whose guard holds from now on. -/
theorem guarded_of_calls {S : SkillCall → Prop} {script : Skill β}
    (hcalls : Calls S remembered script) (hsafe : Safe (skill.Guard capability) world.history)
    (hguard : ∀ history call, world.history <:+ history → S call →
      skill.Guard capability history call) :
    Guarded skill capability environment script
      (fun _ after => Added S world.history after.history ∧
        remembered after.locals = remembered world.locals) world := by
  apply wp_mono hcalls.wp_of
  · intro value after _ hafter
    exact ⟨hsafe.added hafter.1 hguard, hafter⟩
  · intro error after _ hafter
    exact hsafe.added hafter.1 hguard

theorem guarded_of_quiet {script : Skill β} (hcalls : Calls Quiet remembered script)
    (hsafe : Safe (skill.Guard capability) world.history) :
    Guarded skill capability environment script
      (fun _ after => Added Quiet world.history after.history ∧
        remembered after.locals = remembered world.locals) world :=
  guarded_of_calls hcalls hsafe fun _ _ _ hquiet => guard_of_quiet hquiet

theorem guarded_of_harmless {script : Skill β} (hcalls : Calls Harmless remembered script)
    (hsafe : Safe (skill.Guard capability) world.history)
    (hopen : capability.addressingMode.typesBeforeRecipientGate = true ∨
      skill.TitlePassed capability world.history) :
    Guarded skill capability environment script
      (fun _ after => Added Harmless world.history after.history ∧
        remembered after.locals = remembered world.locals) world := by
  apply guarded_of_calls hcalls hsafe
  intro history call hgrown hharmless
  apply guard_of_harmless hharmless
  exact hopen.imp_right fun htitle => htitle.mono hgrown

theorem guarded_ofExcept {result : Except SendFailure β}
    (hsafe : Safe (skill.Guard capability) world.history) :
    Guarded skill capability environment (Script.ofExcept result)
      (fun value after => result = .ok value ∧ after = world) world := by
  rw [Guarded, wp_ofExcept]
  exact ⟨fun value hvalue => ⟨hsafe, hvalue, rfl⟩, fun _ _ => hsafe⟩

theorem guarded_authorize {tool : SendTool} (hsafe : Safe (skill.Guard capability) world.history) :
    Guarded skill capability environment (skill.authorize tool)
      (fun _ after => skill.manifest.authorize tool skill.targetBundleIdentifier = .ok () ∧
        after = world) world :=
  guarded_ofExcept hsafe

theorem guarded_check {condition : Bool} {code : SendFailureCode} {detail : String}
    (hsafe : Safe (skill.Guard capability) world.history) :
    Guarded skill capability environment (check condition code detail)
      (fun _ after => condition = true ∧ after = world) world := by
  cases condition with
  | false => exact hsafe
  | true => exact ⟨hsafe, rfl, rfl⟩

theorem guarded_record {change : HelperGateEvidence → HelperGateEvidence}
    (hsafe : Safe (skill.Guard capability) world.history) :
    Guarded skill capability environment (record change)
      (fun _ after => after = { world with
        locals := { world.locals with evidence := change world.locals.evidence } }) world :=
  ⟨hsafe, rfl⟩

theorem guarded_enter {stage : SendStage} (hsafe : Safe (skill.Guard capability) world.history) :
    Guarded skill capability environment (enter stage)
      (fun _ after => after.history = world.history ∧
        remembered after.locals = remembered world.locals) world := ⟨hsafe, rfl, rfl⟩

theorem guarded_recognize {region : Region} {frame : WindowFrame}
    (hsafe : Safe (skill.Guard capability) world.history) :
    Guarded skill capability environment (skill.recognize region frame)
      (fun value after => after.history =
        performed (.recognizeText region frame) value :: world.history ∧
        after.locals = world.locals) world := by
  apply guarded_bind (guarded_authorize hsafe)
  rintro _ _ - hsafe ⟨-, rfl⟩
  exact guarded_perform hsafe (guard_of_quiet rfl)

theorem guarded_fingerprint {region : Region} {frame : WindowFrame}
    (hsafe : Safe (skill.Guard capability) world.history) :
    Guarded skill capability environment (skill.fingerprint region frame)
      (fun value after => after.history =
        performed (.regionFingerprint region frame) value :: world.history ∧
        after.locals = world.locals) world := by
  apply guarded_bind (guarded_authorize hsafe)
  rintro _ _ - hsafe ⟨-, rfl⟩
  exact guarded_perform hsafe (guard_of_quiet rfl)

theorem guarded_mono {script : Skill β} {Q Q' : β → SkillWorld → Prop}
    (h : Guarded skill capability environment script Q world)
    (hQ : ∀ value after, Grown environment world.history after.history → Q value after →
      Q' value after) : Guarded skill capability environment script Q' world := by
  apply wp_mono h
  · intro value after hgrown hafter
    exact ⟨hafter.1, hQ value after hgrown hafter.2⟩
  · intro error after _ hafter
    exact hafter

end Runs

end MechanicalSendSkill

end GreenBubbles.Send
