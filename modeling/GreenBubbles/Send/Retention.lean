import GreenBubbles.Send.Finality
import GreenBubbles.Send.Staging

/-! # How long a staged copy stays

A copy that is staged for a call has to be there when the helper is called and
until the entry is terminal, and nothing may stay behind. That holds of the runs
in which no sweep reaches a copy it could not know of and no refusal follows the
staging unseen.
-/
namespace GreenBubbles.Send

open Library Library.Bytes Library.Runs
open Connector (ActionDraft isSha256_sample sampleSha256)
open Outbox (Changes Closes Coupled Fault OutboxEntry Request SameView SendCompletionRecord
  SendFailureCode SendOutboxState Single closings closings_nil)
open Outbox.SendOutboxState (Admits)

/-! What the transactions do to the directories that are referred to -/

theorem live_view {before after : SendOutboxState} (h : SameView before after) :
    live before = live after := by
  rw [live, live, h.unresolved]

theorem live_changes {before after : SendOutboxState} {entry changed : OutboxEntry}
    (h : Changes before after entry changed)
    (hdirectory : changed.stagingDirectory = entry.stagingDirectory) :
    live after = live before := by
  simp only [live, h.held, h.now, List.filterMap_cons, List.filterMap_nil, hdirectory]

theorem live_closes {before after : SendOutboxState} {entry : OutboxEntry}
    {record : Outbox.OutboxCompletion} (h : Closes before after entry record) :
    live after = [] := by
  rw [live, h.idle, List.filterMap_nil]

theorem live_admits {before after : SendOutboxState} {entry : OutboxEntry}
    (h : Admits before after entry) : live after = entry.stagingDirectory.toList := by
  rw [live, h.now, List.filterMap_cons, List.filterMap_nil]
  cases entry.stagingDirectory <;> rfl

theorem live_recover {state : SendOutboxState} (h : Single state) (now : ℕ) :
    live (state.recover now).2 = live state ∨ live (state.recover now).2 = [] := by
  cases SendOutboxState.recover_recovers h now with
  | idle hsame => exact .inl (by rw [hsame])
  | parks entry _ _ _ hchanges => exact .inl (live_changes hchanges rfl)
  | closes entry record _ _ _ _ hcloses => exact .inr (live_closes hcloses)

section Transactions

variable {documentBytes : SendOutboxState → ℕ} {world : World} {process now : ℕ} {fault : Fault}
  (h : Coupled world.outbox.current world.outbox.history)
include h

theorem live_opened {accountId : String} :
    live (Outbox.step documentBytes world.outbox (.opened process accountId now fault)).current ⊆
      live world.outbox.current := by
  rcases Outbox.opened_cases documentBytes world.outbox process accountId now fault with
    hsame | ⟨before, hview, hafter⟩
  · rw [hsame]
    exact List.Subset.refl _
  · rw [hafter, live_view hview]
    rcases live_recover (h.single.of_view hview) now with hrecover | hrecover
    · rw [hrecover]
      exact List.Subset.refl _
    · rw [hrecover]
      exact List.nil_subset _

theorem live_marked {key : String} :
    live (transact documentBytes world process (.markAttempted key) now fault).outbox.current =
      live world.outbox.current := by
  rcases Outbox.requested_cases documentBytes world.outbox process (.markAttempted key) now fault
    with ⟨hsame, -⟩ | ⟨before, hview, hoperation⟩
  · exact congrArg live hsame
  · rcases SendOutboxState.markAttempted_changes (h.single.of_view hview)
      (Outbox.refusable_eq_ok.mp hoperation) with ⟨entry, -, -, -, -, -, hchanges⟩
    exact (live_changes hchanges rfl).trans (live_view hview).symm

/-- A completion that is not written changes nothing. One that is written keeps the directory
of a parked entry and drops that of a closed one. -/
theorem live_completed {request : Request} {key : String} {record : SendCompletionRecord}
    {threshold cooldown : ℕ} (hrequest : request = .complete key record threshold cooldown) :
    (live (transact documentBytes world process request now fault).outbox.current =
          live world.outbox.current ∧
        (granted documentBytes world process request now fault = false ∨
          record.outcome = .awaitingReconciliation)) ∨
      live (transact documentBytes world process request now fault).outbox.current = [] ∧
        record.outcome ≠ .awaitingReconciliation := by
  rcases Outbox.requested_cases documentBytes world.outbox process request now fault with
    ⟨hsame, hrefused⟩ | ⟨before, hview, hoperation⟩
  · refine .inl ⟨congrArg live hsame, .inl ?_⟩
    unfold granted
    cases hprocess : world.outbox.processes.lookup process with
    | none => rfl
    | some accountId => exact hrefused accountId hprocess
  · subst hrequest
    rcases SendOutboxState.complete_completes (h.single.of_view hview)
      (Outbox.refusable_eq_ok.mp hoperation) with ⟨entry, -, -, hcompletes⟩
    cases hcompletes with
    | parks hparked _ hchanges =>
      exact .inl ⟨(live_changes hchanges rfl).trans (live_view hview).symm, .inr hparked⟩
    | closes kind hclosed _ hcloses =>
      refine .inr ⟨live_closes hcloses, ?_⟩
      rw [hclosed]
      exact nofun

omit h in
theorem live_reserved {entry : OutboxEntry} {window limit : ℕ}
    (hgranted : granted documentBytes world process (.reserve entry window limit) now fault = true) :
    live (transact documentBytes world process (.reserve entry window limit) now
      fault).outbox.current = entry.stagingDirectory.toList := by
  rcases granted_cases hgranted with ⟨before, hview, hoperation⟩
  exact live_admits (SendOutboxState.reserve_admits (Outbox.refusable_eq_ok.mp hoperation))

end Transactions

/-- What is written is the same whether the fault after the rename strikes or none. -/
theorem transact_afterRename {documentBytes : SendOutboxState → ℕ} {world : World}
    {process now : ℕ} {request : Request} :
    (transact documentBytes world process request now .afterRename).outbox.current =
      (transact documentBytes world process request now .none).outbox.current := by
  cases hprocess : world.outbox.processes.lookup process with
  | none => simp only [transact, World.follow, Outbox.step, hprocess]
  | some accountId =>
    have hcurrent : ∀ fault,
        (transact documentBytes world process request now fault).outbox.current =
          ((Outbox.submit documentBytes world.outbox.document accountId request now
            fault).2).getD (.new "" 0) := by
      intro fault
      rcases hsubmit : Outbox.submit documentBytes world.outbox.document accountId request now fault
        with ⟨result, document⟩
      cases result <;> simp only [transact, World.follow, Outbox.step, hprocess, hsubmit] <;> rfl
    rw [hcurrent, hcurrent, Outbox.submit, Outbox.submit, Outbox.transaction_afterRename]

theorem transact_refused {documentBytes : SendOutboxState → ℕ} {world : World} {process now : ℕ}
    {request : Request} {fault : Fault} (hfault : fault ≠ .afterRename)
    (hrefused : granted documentBytes world process request now fault = false) :
    (transact documentBytes world process request now fault).outbox.current =
      world.outbox.current := by
  cases hprocess : world.outbox.processes.lookup process with
  | none => simp only [transact, World.follow, Outbox.step, hprocess]
  | some accountId =>
    simp only [granted, hprocess] at hrefused
    rcases hsubmit : Outbox.submit documentBytes world.outbox.document accountId request now fault
      with ⟨_ | _, document⟩
    · simp only [transact, World.follow, Outbox.step, hprocess, hsubmit]
      rw [Outbox.transaction_refused documentBytes hfault hsubmit]
      rfl
    · simp [hsubmit, Except.isOk, Except.toBool] at hrefused

/-! What is asked of the staged copy -/

/-- The phases in which the helper is still to be called. -/
def Phase.undispatched : Phase → Bool
  | .minted | .reserved | .ready => true
  | _ => false

/-- The copy has to be there: the helper is still to be called, or it was and the entry is not
terminal. -/
structure Attempt.Needs (attempt : Attempt) (state : SendOutboxState) (directory : String) :
    Prop where
  named : attempt.capability.attachment.map (·.stagingDirectory) = some directory
  awaited : attempt.phase.undispatched = true ∨ attempt.job ≠ .idle ∧ directory ∈ live state

def StagingObservation.Good : StagingObservation → Prop
  | .dispatched present => present = true
  | .ended left => left = false
  | .swept left => left = []

namespace StagingWorld

variable (adapter : SendAdapter) (documentBytes : SendOutboxState → ℕ) (caller : ℕ)
  (staging : StagingWorld)

def Needed (directory : String) : Prop :=
  ∃ attempt, staging.world.attempts caller = some attempt ∧
    attempt.Needs staging.world.outbox.current directory

/-- Every call of the helper found the approved copy, which then stays until the entry is
terminal. No end of a call left a copy nothing refers to, and no sweep left one it was free to
remove. -/
structure Kept : Prop where
  observed : ∀ observation ∈ staging.observations, observation.Good
  retained : ∀ attempt attachment, staging.world.attempts caller = some attempt →
    attempt.job ≠ .idle → attempt.capability.attachment = some attachment →
    attachment.stagingDirectory ∈ live staging.world.outbox.current →
    (attachment.stagingDirectory, staging.approved) ∈ staging.copies

/-- The outbox refers to the copy of the call that is under way, or there is none. -/
def Tracked : Prop :=
  ∀ directory, staging.world.underWay caller = some directory → staging.leaves directory = false

/-- The request the call of a capability reserves with. -/
def reservation (capability : ActionCapabilityEnvelope) : Request :=
  .reserve capability.outboxEntry
    (adapter.config.attemptWindowSeconds |> SendAdapterConfig.secondsToNanoseconds)
    adapter.config.maximumAttemptsPerWindow

/-- No refusal strikes a call whose copy the outbox does not refer to, every removal succeeds,
and no sweep visits the copy of the call without having found it in the outbox. -/
def Orderly : StagingEvent → Prop
  | .executed _ _ _ _ _ _ removed => removed = true
  | .reserved fault => ∀ capability job,
      staging.world.attempts caller = some ⟨capability, .minted, job⟩ →
      capability.attachment.isSome = true → fault ≠ .beforeRename ∧
        granted documentBytes staging.world caller (reservation adapter capability)
          capability.issuedAtUnixNanoseconds .none = true
  | .marked _ => ∀ capability job,
      staging.world.attempts caller = some ⟨capability, .reserved, job⟩ →
      capability.permitSend = true → staging.Tracked caller
  | .unaudited => ∀ capability phase job,
      staging.world.attempts caller = some ⟨capability, phase, job⟩ →
      phase = .reserved ∨ phase = .ready → staging.Tracked caller
  | .completed _ fault removed => ∀ capability result job,
      staging.world.attempts caller = some ⟨capability, .answered result, job⟩ →
      staging.Tracked caller ∧ removed = true ∧ (fault = .afterRename →
        (settleDispatch capability result).outcome = .awaitingReconciliation)
  | .visited process directory removed => ∀ sweep, staging.sweeps process = some sweep →
      directory ∈ sweep.pending → directory ∉ sweep.keep →
        removed = true ∧ ¬ staging.Needed caller directory
  | _ => True

/-- What every orderly step preserves. -/
structure Retains : Prop where
  coupled : Coupled staging.world.outbox.current staging.world.outbox.history
  held : ∀ directory, staging.Needed caller directory →
    (directory, staging.approved) ∈ staging.copies
  swept : ∀ process sweep, staging.sweeps process = some sweep → ∀ directory ∈ sweep.listed,
    directory ∈ sweep.pending ∨ directory ∈ sweep.keep ∨ directory ∈ sweep.removed
  observed : ∀ observation ∈ staging.observations, observation.Good

variable {caller staging}

theorem Retains.kept (h : staging.Retains caller) : staging.Kept caller where
  observed := h.observed
  retained attempt attachment hcall hjob hattachment hlive :=
    h.held _ ⟨attempt, hcall, by rw [hattachment]; rfl, .inr ⟨hjob, hlive⟩⟩

@[simp] theorem discard_world (directory : String) (removed : Bool) :
    (staging.discard directory removed).world = staging.world := by
  cases removed <;> rfl

theorem mem_discard {directory : String} {copy : String × String} :
    copy ∈ (staging.discard directory true).copies ↔
      copy ∈ staging.copies ∧ copy.1 ≠ directory := by
  simp [discard]

theorem holds_discard (directory : String) :
    (staging.discard directory true).holds directory = false := by
  simp [discard, holds]

theorem leaves_of_not_held {directory : String} (h : staging.holds directory = false) :
    staging.leaves directory = false := by
  rw [leaves, h, Bool.false_and]

theorem leaves_of_live {directory : String}
    (h : directory ∈ live staging.world.outbox.current) : staging.leaves directory = false := by
  rw [leaves, List.contains_iff_mem.mpr h, Bool.not_true, Bool.and_false]

namespace Retains

variable (h : staging.Retains caller)
include h

/-- Another world in which no further copy is needed. -/
theorem setWorld {world : World}
    (hcoupled : Coupled world.outbox.current world.outbox.history)
    (hneeded : ∀ attempt directory, world.attempts caller = some attempt →
      attempt.Needs world.outbox.current directory → staging.Needed caller directory) :
    Retains caller { staging with world } where
  coupled := hcoupled
  held := by
    rintro directory ⟨attempt, hcall, hneeds⟩
    exact h.held directory (hneeded attempt directory hcall hneeds)
  swept := h.swept
  observed := h.observed

/-- The call moves on without a transaction. -/
theorem moved {world : World} {capability : ActionCapabilityEnvelope} {phase next : Phase}
    {job after : Job} (hcall : staging.world.attempts caller = some ⟨capability, phase, job⟩)
    (houtbox : world.outbox = staging.world.outbox)
    (hnext : world.attempts caller = some ⟨capability, next, after⟩)
    (hphase : next.undispatched = true → phase.undispatched = true)
    (hjob : after ≠ .idle → phase.undispatched = true ∨ job ≠ .idle) :
    Retains caller { staging with world } := by
  refine h.setWorld (houtbox ▸ h.coupled) fun attempt directory hattempt hneeds => ?_
  obtain rfl : ⟨capability, next, after⟩ = attempt := Option.some.inj (hnext ▸ hattempt)
  refine ⟨_, hcall, hneeds.named, ?_⟩
  rcases hneeds.awaited with hwaits | ⟨hactive, hlive⟩
  · exact .inl (hphase hwaits)
  · rw [houtbox] at hlive
    exact (hjob hactive).imp_right fun hidle => ⟨hidle, hlive⟩

/-- A call begins where none was. -/
theorem begins {world : World} {copies : List (String × String)} {approved : String}
    (houtbox : world.outbox = staging.world.outbox)
    (hheld : ∀ attempt directory, world.attempts caller = some attempt →
      attempt.capability.attachment.map (·.stagingDirectory) = some directory →
      (directory, approved) ∈ copies) :
    Retains caller { staging with world, copies, approved } where
  coupled := houtbox ▸ h.coupled
  held := by
    rintro directory ⟨attempt, hattempt, hneeds⟩
    exact hheld attempt directory hattempt hneeds.named
  swept := h.swept
  observed := h.observed

theorem setSweep {process : ℕ} {next : Option Sweep}
    (hswept : ∀ sweep, next = some sweep → ∀ directory ∈ sweep.listed,
      directory ∈ sweep.pending ∨ directory ∈ sweep.keep ∨ directory ∈ sweep.removed) :
    Retains caller { staging with sweeps := Function.update staging.sweeps process next } where
  coupled := h.coupled
  held := h.held
  swept := by
    intro other sweep hsweep
    by_cases hother : other = process
    · subst hother
      simp only [Function.update_self] at hsweep
      exact hswept sweep hsweep
    · simp only [Function.update_of_ne hother] at hsweep
      exact h.swept other sweep hsweep
  observed := h.observed

theorem observe {observation : StagingObservation} (hgood : observation.Good) :
    Retains caller (staging.observe observation) where
  coupled := h.coupled
  held := h.held
  swept := h.swept
  observed := List.forall_mem_cons.mpr ⟨hgood, h.observed⟩

theorem discard {directory : String} (hfree : ¬ staging.Needed caller directory) :
    Retains caller (staging.discard directory true) where
  coupled := h.coupled
  held other hneeded := by
    have hother : other ≠ directory := fun hsame => hfree (hsame ▸ hneeded)
    exact mem_discard.mpr ⟨h.held other hneeded, hother⟩
  swept := h.swept
  observed := h.observed

end Retains

theorem Retains.followed {next : StagingWorld} (h : next.Retains caller)
    (hleft : ∀ directory, staging.world.underWay caller = some directory →
      next.world.underWay caller = none → next.leaves directory = false) :
    Retains caller (staging.followed caller next) := by
  unfold StagingWorld.followed
  split
  · exact h.observe (hleft _ ‹_› ‹_›)
  · exact h

theorem Retains.same (h : staging.Retains caller) :
    Retains caller (staging.followed caller { staging with world := staging.world }) := by
  refine h.followed fun directory hbefore hafter => ?_
  rw [hbefore] at hafter
  cases hafter

theorem underWay_of_call {world : World} {capability : ActionCapabilityEnvelope} {phase : Phase}
    {job : Job} (hcall : world.attempts caller = some ⟨capability, phase, job⟩)
    (hphase : phase.undispatched = true) :
    world.underWay caller = capability.attachment.map (·.stagingDirectory) := by
  rw [World.underWay, hcall]
  cases phase
  · rfl
  · rfl
  · rfl
  · cases hphase
  · cases hphase
  · cases hphase

theorem leaves_congr {world : World} (directory : String)
    (hlive : live world.outbox.current = live staging.world.outbox.current) :
    leaves { staging with world } directory = staging.leaves directory := by
  simp only [leaves, holds, hlive]

variable {adapter documentBytes}

/-- A staging that is accepted and minted on. -/
theorem executed_staged {draft : ActionDraft} {approvalId accountId : String}
    {profile : CalibrationBinding} {input : StagingInput} {report : SendPrecheckReport} {now : ℕ}
    {removed : Bool} {expected : Connector.DraftAttachment} {staged : StagedAttachment}
    (hidle : staging.world.attempts caller = none)
    (hopened : staging.world.outbox.processes.lookup caller = some accountId)
    (hpermitted : report.permitted = true)
    (hcarries : (SendAdapterConfig.draftCapability draft).carriesAttachment = true)
    (hexpected : draft.attachments = [expected]) (hfresh : staging.holds input.directory = false)
    (hstaged : stageAttachment input expected (SendAdapterConfig.draftCapability draft) =
      .ok staged)
    (hminted : ((Send.executed adapter staging.world caller draft approvalId profile (some staged)
      report now).attempts caller).isSome = true) :
    staging.executed adapter caller draft approvalId profile input report now removed =
      { staging with
        world := Send.executed adapter staging.world caller draft approvalId profile (some staged)
          report now
        copies := (input.directory, staged.attachment.sha256) :: staging.copies
        approved := expected.sha256 } := by
  simp only [executed, hidle, hopened, hpermitted, hcarries, hexpected, hfresh, hstaged, hminted,
    Bool.not_true, Bool.false_eq_true, if_false, if_true]

theorem called_observes {capability : ActionCapabilityEnvelope} {attachment : ActionAttachment}
    (hcall : staging.world.attempts caller = some ⟨capability, .ready, .idle⟩)
    (hattached : capability.attachment = some attachment) :
    (staging.called caller true).observations = .dispatched
      (staging.copies.contains (attachment.stagingDirectory, staging.approved)) ::
        staging.observations := by
  simp only [called, hcall, hattached]
  rfl

theorem Retains.transacted {request : Request} {now : ℕ} {fault : Fault}
    (h : staging.Retains caller) :
    let outbox := (transact documentBytes staging.world caller request now fault).outbox
    Coupled outbox.current outbox.history :=
  (Outbox.step_advances documentBytes staging.world.outbox
    (.requested caller request now fault) h.coupled).1

theorem Retains.reserved (h : staging.Retains caller) {fault : Fault}
    (horderly : staging.Orderly adapter documentBytes caller (.reserved fault)) :
    (staging.reserved adapter documentBytes caller fault).Retains caller := by
  unfold StagingWorld.reserved Send.reserved
  split
  · rename_i capability job hcall
    have hdirectory := underWay_of_call hcall rfl
    refine followed (h.setWorld h.transacted ?_) ?_
    · intro attempt directory hattempt hneeds
      simp only [World.setAttempt, Function.update_self] at hattempt
      split_ifs at hattempt with hgranted
      cases hattempt
      exact ⟨_, hcall, hneeds.named, .inl rfl⟩
    · intro directory hbefore hafter
      rw [hdirectory] at hbefore
      have hnone : fault ≠ .beforeRename ∧ granted documentBytes staging.world caller
          (reservation adapter capability) capability.issuedAtUnixNanoseconds .none = true := by
        refine horderly capability job hcall ?_
        cases hattachment : capability.attachment with
        | none => simp [hattachment] at hbefore
        | some attachment => rfl
      by_cases hgranted : granted documentBytes staging.world caller
          (reservation adapter capability) capability.issuedAtUnixNanoseconds fault = true
      · unfold reservation at hgranted
        dsimp only at hafter
        rw [if_pos hgranted, underWay_of_call (Function.update_self ..) rfl, hbefore] at hafter
        cases hafter
      · cases fault with
        | none => exact absurd hnone.2 hgranted
        | beforeRename => exact absurd rfl hnone.1
        | afterRename =>
          -- The caller is told of a failure, but what it reserved is written.
          refine leaves_of_live ?_
          have hlive := live_reserved hnone.2
          rw [← transact_afterRename] at hlive
          refine (congrArg (directory ∈ ·) hlive).mpr ?_
          exact Option.mem_toList.mpr hbefore
  · exact h.same

theorem Retains.marked (h : staging.Retains caller) {fault : Fault}
    (horderly : staging.Orderly adapter documentBytes caller (.marked fault)) :
    (staging.marked documentBytes caller fault).Retains caller := by
  unfold StagingWorld.marked Send.marked
  split
  · rename_i capability job hcall
    have hdirectory := underWay_of_call hcall rfl
    by_cases hpermit : capability.permitSend = true
    · rw [if_pos hpermit]
      refine followed (h.setWorld h.transacted ?_) ?_
      · intro attempt directory hattempt hneeds
        simp only [World.setAttempt, Function.update_self] at hattempt
        cases hattempt
        exact ⟨_, hcall, hneeds.named, .inl rfl⟩
      · intro directory hbefore _
        have htracked := horderly capability job hcall hpermit directory hbefore
        exact (leaves_congr directory (live_marked h.coupled)).trans htracked
    · rw [if_neg hpermit]
      refine followed (h.moved hcall rfl (Function.update_self ..) (fun _ => rfl)
        (fun _ => .inl rfl)) ?_
      intro directory hbefore hafter
      rw [underWay_of_call (Function.update_self ..) rfl, ← hdirectory, hbefore] at hafter
      cases hafter
  · exact h.same

theorem Retains.unaudited (h : staging.Retains caller)
    (horderly : staging.Orderly adapter documentBytes caller .unaudited) :
    (staging.unaudited caller).Retains caller := by
  have hover : ∀ capability phase job,
      staging.world.attempts caller = some ⟨capability, phase, job⟩ →
      phase = .reserved ∨ phase = .ready → Retains caller (staging.followed caller
        { staging with
          world := staging.world.setAttempt caller (some ⟨capability, .over, job⟩) }) := by
    intro capability phase job hcall hphase
    have hwaits : phase.undispatched = true := by
      rcases hphase with rfl | rfl <;> rfl
    refine followed (h.moved hcall rfl (Function.update_self ..) nofun (fun _ => .inl hwaits)) ?_
    intro directory hbefore _
    exact (leaves_congr directory rfl).trans
      (horderly capability phase job hcall hphase directory hbefore)
  unfold StagingWorld.unaudited
  split
  · exact hover _ _ _ ‹_› (.inl rfl)
  · exact hover _ _ _ ‹_› (.inr rfl)
  · exact h

theorem Retains.calls (h : staging.Retains caller) (spawned : Bool) :
    Retains caller { staging with world := Send.called staging.world caller spawned } := by
  unfold Send.called
  split
  · rename_i capability hcall
    cases spawned with
    | false => exact h.moved hcall rfl (Function.update_self ..) nofun nofun
    | true => exact h.moved hcall rfl (Function.update_self ..) nofun (fun _ => .inl rfl)
  · exact h

theorem Retains.called (h : staging.Retains caller) (spawned : Bool) :
    (staging.called caller spawned).Retains caller := by
  have hcalls := h.calls spawned
  unfold StagingWorld.called
  dsimp only
  split
  · rename_i capability hcall
    cases hattachment : capability.attachment with
    | none => exact hcalls
    | some attachment =>
      cases spawned with
      | false => exact hcalls
      | true =>
        have hneeded : staging.Needed caller attachment.stagingDirectory :=
          ⟨_, hcall, congrArg (Option.map ActionAttachment.stagingDirectory) hattachment, .inl rfl⟩
        exact hcalls.observe (List.contains_iff_mem.mpr (h.held _ hneeded))
  · exact hcalls

theorem Retains.helperBegan (h : staging.Retains caller) (now : ℕ) (ready : Bool) :
    Retains caller { staging with world := Send.helperBegan staging.world caller now ready } := by
  unfold Send.helperBegan
  split
  · rename_i capability phase hcall
    exact h.moved hcall rfl (Function.update_self ..) id (fun _ => .inr nofun)
  · exact h

theorem Retains.helperPressed (h : staging.Retains caller) :
    Retains caller { staging with world := Send.helperPressed staging.world caller } := by
  unfold Send.helperPressed
  split
  · rename_i capability phase hcall
    split_ifs
    · exact h.moved hcall rfl (Function.update_self ..) id (fun _ => .inr nofun)
    · exact h
  · exact h

theorem Retains.helperAnswered (h : staging.Retains caller) (outcome : HelperSendOutcome) :
    Retains caller { staging with world := Send.helperAnswered staging.world caller outcome } := by
  unfold Send.helperAnswered
  split
  · rename_i capability phase job hcall
    split_ifs with hanswers
    · refine h.moved hcall rfl (Function.update_self ..) id (fun _ => .inr ?_)
      rintro rfl
      simp at hanswers
    · exact h
  · exact h

theorem Retains.returned (h : staging.Retains caller)
    (result : Except SendFailureCode HelperSendOutcome) :
    Retains caller { staging with world := Send.returned staging.world caller result } := by
  unfold Send.returned
  split
  · rename_i capability job hcall
    cases result with
    | error failure => exact h.moved hcall rfl (Function.update_self ..) nofun .inr
    | ok outcome =>
      dsimp only
      split_ifs
      · exact h.moved hcall rfl (Function.update_self ..) nofun .inr
      · exact h
  · exact h

/-- The call is over with a transaction that keeps what is referred to or ends it. -/
theorem Retains.settles (h : staging.Retains caller) {capability : ActionCapabilityEnvelope}
    {phase : Phase} {job : Job} {request : Request} {now : ℕ} {fault : Fault}
    (hcall : staging.world.attempts caller = some ⟨capability, phase, job⟩)
    (hlive : live (transact documentBytes staging.world caller request now fault).outbox.current ⊆
      live staging.world.outbox.current) :
    Retains caller { staging with
      world := (transact documentBytes staging.world caller request now fault).setAttempt caller
        (some ⟨capability, .over, job⟩) } := by
  refine h.setWorld h.transacted ?_
  intro attempt directory hattempt hneeds
  simp only [World.setAttempt, Function.update_self] at hattempt
  cases hattempt
  refine ⟨_, hcall, hneeds.named, .inr ?_⟩
  rcases hneeds.awaited with hwaits | ⟨hactive, hheld⟩
  · cases hwaits
  · exact ⟨hactive, hlive hheld⟩

theorem Retains.completed (h : staging.Retains caller) {elapsed : ℕ} {fault : Fault}
    {removed : Bool}
    (horderly : staging.Orderly adapter documentBytes caller (.completed elapsed fault removed)) :
    (staging.completed adapter documentBytes caller elapsed fault removed).Retains caller := by
  unfold StagingWorld.completed
  split
  · rename_i capability result job hcall
    obtain ⟨htracked, rfl, hlate⟩ := horderly capability result job hcall
    dsimp only
    set record := settleDispatch capability result
    set request := Request.complete capability.idempotencyKey record
      adapter.config.circuitBreakerFailureThreshold
      (adapter.config.circuitBreakerCooldownSeconds |> SendAdapterConfig.secondsToNanoseconds)
      with hrequest
    set settledAt := saturatingAdd 128 capability.issuedAtUnixNanoseconds elapsed
    have hworld : Send.completed adapter documentBytes staging.world caller elapsed fault =
        (transact documentBytes staging.world caller request settledAt fault).setAttempt caller
          (some ⟨capability, .over, job⟩) := by
      simp only [Send.completed, hcall]
      rfl
    have hlive := @live_completed documentBytes staging.world caller settledAt fault h.coupled
      request _ record _ _ hrequest
    rw [hworld]
    have hnext := h.settles hcall (hlive.elim (fun hsame => hsame.1 ▸ List.Subset.refl _)
      (fun hnone => hnone.1 ▸ List.nil_subset _))
    have hdirectory : staging.world.underWay caller =
        capability.attachment.map (·.stagingDirectory) := by
      rw [World.underWay, hcall]
      rfl
    have hunchanged : live (transact documentBytes staging.world caller request settledAt
          fault).outbox.current = live staging.world.outbox.current →
        Retains caller (staging.followed caller { staging with
          world := (transact documentBytes staging.world caller request settledAt
            fault).setAttempt caller (some ⟨capability, .over, job⟩) }) := by
      intro hsame
      refine followed hnext fun directory hbefore _ => ?_
      exact (leaves_congr directory hsame).trans (htracked directory hbefore)
    split
    · rename_i kind attachment houtcome hgranted hattachment
      have hnone : live (transact documentBytes staging.world caller request settledAt
          fault).outbox.current = [] := by
        rcases hlive with ⟨-, hrefused | hparked⟩ | ⟨hnone, -⟩
        · rw [hgranted] at hrefused
          cases hrefused
        · rw [houtcome] at hparked
          cases hparked
        · exact hnone
      refine followed (hnext.discard ?_) ?_
      · rintro ⟨attempt, hattempt, hneeds⟩
        simp only [World.setAttempt, Function.update_self] at hattempt
        cases hattempt
        rcases hneeds.awaited with hwaits | ⟨-, hheld⟩
        · cases hwaits
        · change attachment.stagingDirectory ∈ live (transact documentBytes staging.world caller
            request settledAt fault).outbox.current at hheld
          rw [hnone] at hheld
          cases hheld
      · intro directory hbefore _
        rw [hdirectory, hattachment] at hbefore
        cases hbefore
        exact leaves_of_not_held (holds_discard _)
    · rename_i hother
      cases hattachment : capability.attachment with
      | none =>
        refine followed hnext fun directory hbefore _ => ?_
        rw [hdirectory, hattachment] at hbefore
        cases hbefore
      | some attachment =>
        rcases hlive with ⟨hsame, -⟩ | ⟨-, hclosed⟩
        · exact hunchanged hsame
        · -- A completion that closes its entry unseen would be the fault after the rename.
          refine hunchanged (congrArg live (transact_refused (fun hfault => ?_) ?_))
          · exact hclosed (hlate hfault)
          · cases houtcome : record.outcome with
            | awaitingReconciliation => exact absurd houtcome hclosed
            | completed kind =>
              exact Bool.eq_false_iff.mpr fun hgranted =>
                hother kind attachment houtcome hgranted hattachment
  · exact h

theorem executed_cases {world : World} {draft : ActionDraft} {approvalId : String}
    {profile : CalibrationBinding} {staged : Option StagedAttachment} {report : SendPrecheckReport}
    {now : ℕ} (hidle : world.attempts caller = none) :
    let next := Send.executed adapter world caller draft approvalId profile staged report now
    next.outbox = world.outbox ∧ (next.attempts caller = none ∨ ∃ capability,
      adapter.config.mintCapability draft approvalId profile staged report.permitSend now =
        .ok capability ∧ next.attempts caller = some ⟨capability, .minted, .idle⟩) := by
  unfold Send.executed
  split
  · split_ifs
    · exact ⟨rfl, .inl hidle⟩
    · split
      · exact ⟨rfl, .inl hidle⟩
      · exact ⟨rfl, .inr ⟨_, ‹_›, Function.update_self ..⟩⟩
  · exact ⟨rfl, .inl hidle⟩

theorem Retains.executed (h : staging.Retains caller) (draft : ActionDraft) (approvalId : String)
    (profile : CalibrationBinding) (input : StagingInput) (report : SendPrecheckReport) (now : ℕ) :
    (staging.executed adapter caller draft approvalId profile input report now true).Retains
      caller := by
  unfold StagingWorld.executed
  split
  · rename_i hidle hopened
    split_ifs with hrefused hcarries
    · exact h
    · obtain ⟨houtbox, hnext⟩ := @executed_cases adapter caller staging.world draft approvalId
        profile none report now hidle
      refine h.begins houtbox fun attempt directory hattempt hnamed => ?_
      rcases hnext with hnone | ⟨capability, hminted, hcall⟩
      · rw [hnone] at hattempt
        cases hattempt
      · rw [hcall] at hattempt
        cases hattempt
        rw [SendAdapterConfig.mintCapability_plain hminted] at hnamed
        cases hnamed
    · split
      · rename_i expected _ _ _
        cases hstaged : stageAttachment input expected (SendAdapterConfig.draftCapability draft) with
        | error _ => exact h
        | ok staged =>
          obtain ⟨hdirectory, hdigest⟩ := stageAttachment_ok hstaged
          obtain ⟨houtbox, hnext⟩ := @executed_cases adapter caller staging.world draft approvalId
            profile (some staged) report now hidle
          have hbegins : Retains caller { staging with
              world := Send.executed adapter staging.world caller draft approvalId profile
                (some staged) report now
              copies := (input.directory, staged.attachment.sha256) :: staging.copies
              approved := expected.sha256 } := by
            refine h.begins houtbox fun attempt directory hattempt hnamed => ?_
            rcases hnext with hnone | ⟨capability, hminted, hcall⟩
            · rw [hnone] at hattempt
              cases hattempt
            · rw [hcall] at hattempt
              cases hattempt
              rw [SendAdapterConfig.mintCapability_attachment hminted] at hnamed
              obtain rfl : staged.attachment.stagingDirectory = directory := Option.some.inj hnamed
              rw [hdirectory, hdigest]
              exact List.mem_cons_self
          dsimp only
          split_ifs with hminted
          · exact hbegins
          · refine Retains.observe (hbegins.discard ?_) (leaves_of_not_held (holds_discard _))
            rintro ⟨attempt, hattempt, -⟩
            exact hminted (Option.isSome_iff_exists.mpr ⟨attempt, hattempt⟩)
      · exact h
  · exact h

theorem Retains.opened (h : staging.Retains caller) (process now : ℕ) (fault : Fault) :
    Retains caller { staging with
      world := Send.step adapter documentBytes staging.world (.opened process now fault) } := by
  refine h.setWorld (Outbox.step_advances documentBytes staging.world.outbox
    (.opened process adapter.config.accountId now fault) h.coupled).1 ?_
  intro attempt directory hattempt hneeds
  refine ⟨attempt, hattempt, hneeds.named, hneeds.awaited.imp_right fun hlive => ?_⟩
  exact ⟨hlive.1, live_opened h.coupled hlive.2⟩

theorem Retains.surveyed (h : staging.Retains caller) (process : ℕ) :
    (staging.surveyed process).Retains caller := by
  unfold StagingWorld.surveyed
  split
  · exact h
  · refine h.setSweep ?_
    rintro sweep hsweep directory hlisted
    cases hsweep
    exact .inl hlisted

theorem Retains.visited (h : staging.Retains caller) {process : ℕ} {directory : String}
    {removed : Bool}
    (horderly : staging.Orderly adapter documentBytes caller (.visited process directory removed)) :
    (staging.visited process directory removed).Retains caller := by
  unfold StagingWorld.visited
  split
  · exact h
  · rename_i sweep hsweep
    by_cases hpending : sweep.pending.contains directory = true
    · rw [if_pos hpending]
      -- Whatever the sweep has still to visit afterwards was pending before.
      have hswept : ∀ removed', (directory ∈ sweep.keep ∨ removed' = directory :: sweep.removed) →
          sweep.removed ⊆ removed' → ∀ other ∈ sweep.listed,
            other ∈ sweep.pending.filter (· ≠ directory) ∨ other ∈ sweep.keep ∨
              other ∈ removed' := by
        intro removed' hvisited hgrown other hlisted
        by_cases hother : other = directory
        · subst hother
          rcases hvisited with hkept | rfl
          · exact .inr (.inl hkept)
          · exact .inr (.inr List.mem_cons_self)
        · refine (h.swept process sweep hsweep other hlisted).imp (fun hwaits => ?_)
            (Or.imp_right (hgrown ·))
          simp [hwaits, hother]
      by_cases hkeep : sweep.keep.contains directory = true
      · simp only [if_pos hkeep]
        refine h.setSweep ?_
        rintro next hnext
        cases hnext
        refine hswept _ (.inl (List.contains_iff_mem.mp hkeep)) ?_
        dsimp only
        split_ifs
        · exact List.Subset.refl _
        · exact List.subset_cons_self _ _
      · have hfree := horderly sweep hsweep (List.contains_iff_mem.mp hpending)
          (fun hmem => hkeep (List.contains_iff_mem.mpr hmem))
        rcases hfree with ⟨rfl, hunneeded⟩
        simp only [if_neg hkeep]
        refine (h.discard hunneeded).setSweep ?_
        rintro next hnext
        cases hnext
        simp only [holds_discard, Bool.false_eq_true, if_false]
        exact hswept _ (.inr rfl) (List.subset_cons_self _ _)
    · rw [if_neg hpending]
      exact h

theorem Retains.finished (h : staging.Retains caller) (process : ℕ) :
    (staging.finished process).Retains caller := by
  unfold StagingWorld.finished
  split
  · rename_i keep listed removed hsweep
    refine (h.observe ?_).setSweep nofun
    refine List.filter_eq_nil_iff.mpr fun directory hlisted => ?_
    have hswept := h.swept process _ hsweep directory hlisted
    simp only [List.not_mem_nil, false_or] at hswept
    rcases hswept with hkept | hremoved
    · simp [hkept]
    · simp [hremoved]
  · exact h

theorem Retains.crashed (h : staging.Retains caller) (process : ℕ) :
    (staging.step adapter documentBytes caller (.crashed process)).Retains caller := by
  have hworld : Retains caller { staging with
      world := Send.crashed documentBytes staging.world process } := by
    refine h.setWorld (Outbox.step_advances documentBytes staging.world.outbox
      (.crashed process) h.coupled).1 ?_
    intro attempt directory hattempt hneeds
    by_cases hcaller : caller = process
    · subst hcaller
      simp only [Send.crashed, World.setReconciliation, World.setAttempt, Function.update_self]
        at hattempt
      rcases Option.bind_eq_some_iff.mp hattempt with ⟨⟨capability, phase, job⟩, hcall, hended⟩
      have hover : attempt = ⟨capability, .over, job⟩ := by
        cases phase <;> simp_all [Attempt.ended]
      subst hover
      exact ⟨_, hcall, hneeds.named, .inr (hneeds.awaited.resolve_left Bool.false_ne_true)⟩
    · simp only [Send.crashed, World.setReconciliation, World.setAttempt,
        Function.update_of_ne hcaller] at hattempt
      exact ⟨attempt, hattempt, hneeds⟩
  exact hworld.setSweep fun sweep hsweep => absurd hsweep.symm (Option.some_ne_none sweep)

theorem Retains.step (h : staging.Retains caller) {event : StagingEvent}
    (horderly : staging.Orderly adapter documentBytes caller event) :
    (staging.step adapter documentBytes caller event).Retains caller := by
  cases event with
  | executed draft approvalId profile input report now removed =>
    obtain rfl : removed = true := horderly
    exact h.executed draft approvalId profile input report now
  | reserved fault => exact h.reserved horderly
  | marked fault => exact h.marked horderly
  | unaudited => exact @Retains.unaudited adapter documentBytes caller staging h horderly
  | called spawned => exact h.called spawned
  | helperBegan now ready => exact h.helperBegan now ready
  | helperPressed => exact h.helperPressed
  | helperAnswered outcome => exact h.helperAnswered outcome
  | returned result => exact h.returned result
  | completed elapsed fault removed => exact h.completed horderly
  | opened process now fault => exact h.opened process now fault
  | surveyed process => exact h.surveyed process
  | visited process directory removed =>
    exact @Retains.visited adapter documentBytes caller staging h process directory removed horderly
  | finished process => exact h.finished process
  | crashed process => exact h.crashed process

theorem Retains.start {world : World}
    (hcoupled : Coupled world.outbox.current world.outbox.history)
    (hidle : world.attempts caller = none) (copies : List (String × String)) :
    (StagingWorld.start world copies).Retains caller where
  coupled := hcoupled
  held := by
    rintro directory ⟨attempt, hattempt, -⟩
    exact absurd (hidle.symm.trans hattempt) nofun
  swept := nofun
  observed := nofun

end StagingWorld

open StagingWorld in
/-- A staged copy survives to its call and no longer, in every run whose steps are orderly, from
every state the adapters of an account reach and whatever the staging root holds. -/
theorem staged_copies_kept (adapter : SendAdapter) (documentBytes : SendOutboxState → ℕ)
    (caller : ℕ) (before : List Event) (copies : List (String × String))
    (events : List StagingEvent)
    (hidle : (execute (Send.step adapter documentBytes) .initial before).attempts caller = none)
    (horderly : Meets (StagingWorld.step adapter documentBytes caller)
      (Orderly adapter documentBytes caller)
      (.start (execute (Send.step adapter documentBytes) .initial before) copies) events) :
    (execute (StagingWorld.step adapter documentBytes caller)
      (.start (execute (Send.step adapter documentBytes) .initial before) copies) events).Kept
        caller := by
  have hsound : Sound adapter [] (fun _ => False)
      (execute (Send.step adapter documentBytes) .initial before) := Sound.initial.run before
  have hretains := Meets.invariant _ (fun staging event h horderly => Retains.step h horderly)
    horderly (Retains.start hsound.coupled hidle copies)
  exact hretains.kept

/-! A picture that a sweep takes from under its call -/

def samplePictureBytes : List UInt8 := [137, 80, 78, 71]

def samplePictureApproved : Connector.DraftAttachment where
  artifactId := "picture"
  kind := .image
  role := .original
  digestKind := "sourceSha256"
  sha256 := Sha256.hexDigest samplePictureBytes
  byteCount := some 4
  displayFileName := "cat.png"

def samplePictureFields : ActionDraft :=
  { Connector.sampleFields "requester" "0.10.0" with
    renderedText := ""
    renderedTextSha256 := Sha256.hexDigest (utf8 "")
    attachments := [samplePictureApproved]
    attachmentIntent := some .imageSend }

def samplePicture : ActionDraft :=
  { samplePictureFields with draftId := Connector.draftIdentity samplePictureFields }

def samplePictureInput : StagingInput where
  directory := "/staging/7"
  source := some (4, samplePictureBytes)
  reread := some samplePictureBytes

def samplePictureStaged : StagedAttachment where
  attachment :=
    { stagingDirectory := "/staging/7", stagedPath := "/staging/7/cat.png"
      displayFileName := "cat.png", byteCount := 4, sha256 := Sha256.hexDigest samplePictureBytes
      uniformTypeIdentifier := "public.png" }
  bytesPreservedInTransit := false

theorem samplePicture_staged :
    stageAttachment samplePictureInput samplePictureApproved
      (SendAdapterConfig.draftCapability samplePicture) = .ok samplePictureStaged := by
  have htype : reviewedUniformTypeIdentifier .imageSend "cat.png" = .ok "public.png" := by
    decide +kernel
  have hname : ¬ ("cat.png" = "" ∨ maximumDisplayFileNameBytes < "cat.png".utf8ByteSize ∨
      '/' ∈ "cat.png".toList ∨ '\x00' ∈ "cat.png".toList ∨ "cat.png" = "." ∨ "cat.png" = "..") := by
    decide
  have hpath : "/staging/7" ++ "/" ++ "cat.png" = "/staging/7/cat.png" := by decide
  have hcapability : SendAdapterConfig.draftCapability samplePicture = .imageSend := rfl
  have hbytes : samplePictureBytes.length = 4 := rfl
  rw [hcapability, stageAttachment]
  simp only [samplePictureApproved, samplePictureInput, if_neg hname, htype, hpath, hbytes, ne_eq, not_true_eq_false, or_self, if_false, Option.any_some, decide_false,
    Bool.false_eq_true]
  rfl

def samplePictureUnbound : ActionCapabilityEnvelope :=
  sampleConfig.unboundCapability samplePicture sampleSha256 sampleProfile
    (some samplePictureStaged.attachment) true 1000000000

def samplePictureCapability : ActionCapabilityEnvelope :=
  { samplePictureUnbound with bindingSha256 := samplePictureUnbound.computedBinding.getD "" }

/-- No field of the binding holds a NUL: each is a digest or a literal. -/
theorem samplePictureUnbound_bytes : samplePictureUnbound.bindingBytes.isSome = true := by
  have hdigest : ∀ value, isSha256 value = true → (utf8 value).contains 0 = false := by
    intro value hvalue
    simpa using zero_notMem_of_isSha256 hvalue
  have hliteral : ([actionCapabilityDomain, toString samplePictureUnbound.formatVersion, "account",
      "conversation", "imageSend", "currentConversation", "", "Peer", "profile", "true",
      "/staging/7", "/staging/7/cat.png", "cat.png", "4", "public.png", "selfSend",
      toString samplePictureUnbound.issuedAtUnixNanoseconds,
      toString samplePictureUnbound.validUntilUnixNanoseconds].all fun field =>
        !(utf8 field).contains 0) = true := by decide +kernel
  simp only [List.all_cons, List.all_nil, Bool.and_true, Bool.and_eq_true, Bool.not_eq_true']
    at hliteral
  have hfields : samplePictureUnbound.bindingBytes = canonicalBytes actionCapabilityDomain
      [toString samplePictureUnbound.formatVersion, samplePictureUnbound.capabilityId,
       samplePictureUnbound.actionId, samplePictureUnbound.draftId, sampleSha256,
       samplePictureUnbound.idempotencyKey, "account", "conversation", "imageSend",
       "currentConversation", "", "Peer", samplePictureUnbound.bodySha256,
       samplePictureUnbound.normalizedBodySha256, "profile", "profile", sampleSha256, "true",
       "/staging/7", "/staging/7/cat.png", "cat.png", "4",
       samplePictureStaged.attachment.sha256, "public.png", "selfSend", "true",
       toString samplePictureUnbound.issuedAtUnixNanoseconds,
       toString samplePictureUnbound.validUntilUnixNanoseconds] := rfl
  have hplain : ∀ fields : List String,
      ((actionCapabilityDomain :: fields).any fun field => (utf8 field).contains 0) = false →
        (canonicalBytes actionCapabilityDomain fields).isSome = true := by
    intro fields hany
    rw [canonicalBytes, hany]
    rfl
  rw [hfields]
  refine hplain _ ?_
  simp only [List.any_cons, List.any_nil, hliteral, hdigest _ isSha256_sample,
    hdigest samplePictureUnbound.capabilityId (isSha256_hexDigest _),
    hdigest samplePictureUnbound.actionId (isSha256_hexDigest _),
    hdigest samplePictureUnbound.draftId (isSha256_hexDigest _),
    hdigest samplePictureUnbound.idempotencyKey (isSha256_hexDigest _),
    hdigest samplePictureUnbound.bodySha256 (isSha256_hexDigest _),
    hdigest samplePictureUnbound.normalizedBodySha256 (isSha256_hexDigest _),
    hdigest samplePictureStaged.attachment.sha256 (isSha256_hexDigest _), Bool.or_self]

theorem samplePictureUnbound_binding :
    samplePictureUnbound.computedBinding = some samplePictureCapability.bindingSha256 :=
  ActionCapabilityEnvelope.computedBinding_getD samplePictureUnbound_bytes

theorem samplePictureCapability_validates :
    samplePictureCapability.validate 1000000000 = .ok () := by
  have hbinding : samplePictureCapability.computedBinding =
      some samplePictureCapability.bindingSha256 :=
    (samplePictureUnbound.computedBinding_withBinding _).trans samplePictureUnbound_binding
  have hsample := isSha256_sample
  have hbody : Sha256.hexDigest (utf8 samplePictureCapability.body) =
      samplePictureCapability.bodySha256 := by
    simp only [samplePictureCapability, samplePictureUnbound, SendAdapterConfig.unboundCapability,
      samplePicture, samplePictureFields]
  have hnormalized : normalizedSendTextSha256 samplePictureCapability.body =
      samplePictureCapability.normalizedBodySha256 := by
    simp only [samplePictureCapability, samplePictureUnbound, SendAdapterConfig.unboundCapability]
  have hvalid : samplePictureCapability.structureValid = true := by
    simp only [ActionCapabilityEnvelope.structureValid, hbinding, hbody, hnormalized,
      beq_self_eq_true, Bool.and_true]
    simp only [samplePictureCapability, samplePictureUnbound, SendAdapterConfig.unboundCapability,
      SendAdapterConfig.actionId, SendAdapterConfig.idempotencyKey, digest, samplePicture,
      samplePictureFields, Connector.sampleFields, Connector.draftIdentity,
      normalizedSendTextSha256, isSha256_hexDigest, hsample, sampleProfile]
    decide +kernel
  have hpayload : samplePictureCapability.payload = .ok () := by
    have hattachment : samplePictureStaged.attachment.valid = true := by
      simp only [ActionAttachment.valid, samplePictureStaged, isSha256_hexDigest]
      decide +kernel
    have hcarries : samplePictureCapability.capability.carriesAttachment = true := rfl
    have hsome : samplePictureCapability.attachment = some samplePictureStaged.attachment := rfl
    have hempty : (samplePictureCapability.body != "") = false := by decide
    rw [ActionCapabilityEnvelope.payload, hcarries, hsome]
    simp only [hempty, hattachment]
    rfl
  have htimes : ¬ (1000000000 < samplePictureCapability.issuedAtUnixNanoseconds ∨
      samplePictureCapability.validUntilUnixNanoseconds ≤ 1000000000) := by decide
  simp only [ActionCapabilityEnvelope.validate, hvalid, hpayload, if_neg htimes]
  rfl

theorem samplePicture_minted :
    sampleConfig.mintCapability samplePicture sampleSha256 sampleProfile (some samplePictureStaged)
      true 1000000000 = .ok samplePictureCapability := by
  refine SendAdapterConfig.mintCapability_of ?_ samplePictureUnbound_binding rfl
    samplePictureCapability_validates
  simp [SendAdapterConfig.boundAttachment, SendAdapterConfig.draftCapability, samplePicture,
    samplePictureFields, Outbox.ActionCapability.carriesAttachment, samplePictureApproved,
    samplePictureStaged, preservesBytes]

theorem samplePictureEntry_valid :
    samplePictureCapability.outboxEntry.structurallyValid = true := by
  have hsample := isSha256_sample
  have hbinding : isSha256 (samplePictureUnbound.computedBinding.getD "") = true :=
    ActionCapabilityEnvelope.isSha256_of_computedBinding samplePictureUnbound_binding
  simp only [ActionCapabilityEnvelope.outboxEntry, OutboxEntry.structurallyValid,
    samplePictureCapability, hbinding]
  simp only [samplePictureUnbound, SendAdapterConfig.unboundCapability,
    SendAdapterConfig.actionId, SendAdapterConfig.idempotencyKey, digest, samplePicture,
    samplePictureFields, Connector.sampleFields, Connector.draftIdentity,
    normalizedSendTextSha256, isSha256_hexDigest, hsample, samplePictureStaged, Option.map_some,
    Option.all_some]
  decide +kernel

/-- What the sample runs see of the staging: the scene and the copies. -/
structure Stage (staging : StagingWorld) (state : SendOutboxState)
    (processes : List (ℕ × String)) (attempt : Option Attempt) (copies : List (String × String)) :
    Prop where
  scene : Scene staging.world state processes attempt none []
  copies : staging.copies = copies
  approved : staging.approved = samplePictureApproved.sha256

namespace Stage

variable {staging : StagingWorld} {state after : SendOutboxState} {processes : List (ℕ × String)}
  {copies : List (String × String)} {capability : ActionCapabilityEnvelope} {job : Job}

/-- A transaction of the call that leaves it under way. -/
theorem follows {before : Option Attempt} {phase : Phase} {world : World}
    (h : Stage staging state processes before copies) (hphase : phase.undispatched = true)
    (hattached : capability.attachment = some samplePictureStaged.attachment)
    (hscene : Scene world after processes (some ⟨capability, phase, job⟩) none []) :
    Stage (staging.followed 0 { staging with world }) after processes
      (some ⟨capability, phase, job⟩) copies := by
  have hunderWay : world.underWay 0 = some samplePictureStaged.attachment.stagingDirectory := by
    rw [StagingWorld.underWay_of_call hscene.attempt hphase, hattached]
    rfl
  have hsame : staging.followed 0 { staging with world } = { staging with world } := by
    unfold StagingWorld.followed
    simp only [hunderWay]
    split <;> simp_all
  rw [hsame]
  exact ⟨hscene, h.copies, h.approved⟩

end Stage

def samplePictureStart : List StagingEvent :=
  [.opened 0 1000000000 .none,
   .executed samplePicture sampleSha256 sampleProfile samplePictureInput ⟨true, true⟩ 1000000000
     true]

/-- Process one sweeps the root between the staging and the reservation. -/
def samplePictureSweep : List StagingEvent :=
  [.opened 1 1000000000 .none, .surveyed 1, .visited 1 "/staging/7" true]

def samplePictureCall : List StagingEvent := [.reserved .none, .marked .none, .called true]

theorem samplePictureStart_stages :
    Stage (execute (StagingWorld.step sampleSendAdapter sampleDocumentBytes 0)
        (.start .initial []) samplePictureStart)
      emptyOutbox [(0, "account")] (some ⟨samplePictureCapability, .minted, .idle⟩)
      [("/staging/7", samplePictureApproved.sha256)] := by
  have hscene := initial_opens.executed rfl samplePicture_minted
  rw [samplePictureStart, execute_cons, execute_cons, execute_nil]
  set opened := StagingWorld.step sampleSendAdapter sampleDocumentBytes 0 (.start .initial [])
    (.opened 0 1000000000 .none) with hopened
  have hworld : opened.world =
      Send.step sampleSendAdapter sampleDocumentBytes .initial (.opened 0 1000000000 .none) := rfl
  have hidle : opened.world.attempts 0 = none := initial_opens.attempt
  have hlookup : opened.world.outbox.processes.lookup 0 = some "account" := by
    rw [hworld, initial_opens.processes]
    rfl
  have hcarries : (SendAdapterConfig.draftCapability samplePicture).carriesAttachment = true := rfl
  have happroved : samplePicture.attachments = [samplePictureApproved] := rfl
  have hholds : opened.holds samplePictureInput.directory = false := rfl
  have hnext : Send.executed sampleSendAdapter opened.world 0 samplePicture sampleSha256
      sampleProfile (some samplePictureStaged) ⟨true, true⟩ 1000000000 =
        Send.step sampleSendAdapter sampleDocumentBytes
          (Send.step sampleSendAdapter sampleDocumentBytes .initial (.opened 0 1000000000 .none))
          (.executed 0 samplePicture sampleSha256 sampleProfile (some samplePictureStaged)
            ⟨true, true⟩ 1000000000) := by
    rw [hworld]
    rfl
  have hminted : ((Send.executed sampleSendAdapter opened.world 0 samplePicture sampleSha256
      sampleProfile (some samplePictureStaged) ⟨true, true⟩ 1000000000).attempts 0).isSome =
        true := by
    rw [hnext, hscene.attempt]
    rfl
  change Stage (opened.executed sampleSendAdapter 0 samplePicture sampleSha256 sampleProfile
    samplePictureInput ⟨true, true⟩ 1000000000 true) _ _ _ _
  rw [StagingWorld.executed_staged hidle hlookup rfl hcarries happroved hholds samplePicture_staged
    hminted, hnext]
  exact ⟨hscene, rfl, rfl⟩

theorem samplePicture_reservable : Reservable samplePictureCapability.outboxEntry :=
  ⟨samplePictureEntry_valid, rfl, rfl, rfl⟩

section Call

variable {staging : StagingWorld} {processes : List (ℕ × String)}
  {copies : List (String × String)} (hprocess : processes.lookup 0 = some "account")
include hprocess

theorem Stage.reserves (h : Stage staging emptyOutbox processes
    (some ⟨samplePictureCapability, .minted, .idle⟩) copies) :
    staging.Orderly sampleSendAdapter sampleDocumentBytes 0 (.reserved .none) ∧
      Stage (staging.step sampleSendAdapter sampleDocumentBytes 0 (.reserved .none))
        (reservedOutbox samplePictureCapability.outboxEntry) processes
        (some ⟨samplePictureCapability, .reserved, .idle⟩) copies := by
  have hreservable := samplePicture_reservable
  have hempty : emptyOutbox.validate "account" = .ok () := by decide
  have hchanged : reservedOutbox samplePictureCapability.outboxEntry ≠ emptyOutbox := by
    intro hsame
    cases congrArg (·.inFlight.isSome) hsame
  have hoperation : (StagingWorld.reservation sampleSendAdapter samplePictureCapability).operation
      1000000000 emptyOutbox =
        (.ok (), reservedOutbox samplePictureCapability.outboxEntry) := by
    rw [StagingWorld.reservation, Request.operation]
    exact Outbox.refusable_eq_ok.mpr hreservable.reserve
  refine ⟨?_, ?_⟩
  · intro capability job hcall _
    rw [h.scene.attempt] at hcall
    cases hcall
    exact ⟨by decide, (h.scene.transact hprocess hoperation hchanged hempty
      hreservable.reservedOutbox_valid).1⟩
  · exact h.follows rfl rfl (h.scene.reserved hprocess hreservable.reserve hchanged hempty
      hreservable.reservedOutbox_valid rfl)

theorem Stage.marks (h : Stage staging (reservedOutbox samplePictureCapability.outboxEntry)
    processes (some ⟨samplePictureCapability, .reserved, .idle⟩) copies) :
    staging.Orderly sampleSendAdapter sampleDocumentBytes 0 (.marked .none) ∧
      Stage (staging.step sampleSendAdapter sampleDocumentBytes 0 (.marked .none))
        (attemptedOutbox samplePictureCapability.outboxEntry) processes
        (some ⟨samplePictureCapability, .ready, .idle⟩) copies := by
  have hreservable := samplePicture_reservable
  refine ⟨?_, ?_⟩
  · intro _ _ _ _ directory hunderWay
    rw [StagingWorld.underWay_of_call h.scene.attempt rfl] at hunderWay
    cases hunderWay
    refine StagingWorld.leaves_of_live ?_
    rw [Outbox.World.current, h.scene.document]
    exact List.mem_singleton.mpr rfl
  · exact h.follows rfl rfl (h.scene.marked hprocess rfl hreservable.mark
      (fun hsame => by cases congrArg (·.inFlight.map (·.state)) hsame)
      hreservable.reservedOutbox_valid hreservable.attemptedOutbox_valid rfl)

end Call

/-- The picture is staged, reserved, marked, handed to the helper and sent. -/
theorem samplePicture_kept :
    (execute (StagingWorld.step sampleSendAdapter sampleDocumentBytes 0)
      (.start (execute (Send.step sampleSendAdapter sampleDocumentBytes) .initial []) [])
      (samplePictureStart ++ (samplePictureCall ++ [.helperBegan 1000000000 true,
        .helperPressed]))).Kept 0 := by
  refine staged_copies_kept sampleSendAdapter sampleDocumentBytes 0 [] [] _ rfl ?_
  obtain ⟨hreserves, hreserved⟩ := samplePictureStart_stages.reserves rfl
  obtain ⟨hmarks, -⟩ := hreserved.marks rfl
  refine (Meets.append _).mpr ⟨⟨trivial, rfl, trivial⟩, (Meets.append _).mpr ⟨?_, ?_⟩⟩
  · exact ⟨hreserves, hmarks, trivial, trivial⟩
  · exact ⟨trivial, trivial, trivial⟩

/-- Another process opens the outbox while nothing is in flight. -/
theorem Stage.reopened {staging : StagingWorld} {processes : List (ℕ × String)}
    {attempt : Option Attempt} {copies : List (String × String)}
    (h : Stage staging emptyOutbox processes attempt copies) :
    Stage (staging.step sampleSendAdapter sampleDocumentBytes 0 (.opened 1 1000000000 .none))
      emptyOutbox ((1, "account") :: processes) attempt copies := by
  have hopen : Outbox.openOutbox sampleDocumentBytes (some emptyOutbox) "account" 1000000000 .none =
      (.ok (emptyOutbox.recover 1000000000).1, some emptyOutbox) := by
    decide
  have haccount : sampleSendAdapter.config.accountId = "account" := rfl
  have hstep : Outbox.step sampleDocumentBytes staging.world.outbox
      (.opened 1 "account" 1000000000 .none) =
        { staging.world.outbox.written (some emptyOutbox) [] with
          processes := (1, "account") :: staging.world.outbox.processes } := by
    simp only [Outbox.step, h.scene.document, hopen]
    rfl
  refine ⟨?_, h.copies, h.approved⟩
  simp only [StagingWorld.step, Send.step, haccount, hstep]
  refine ⟨rfl, by rw [← h.scene.processes]; rfl, h.scene.attempt, h.scene.decision, ?_⟩
  have hclosings : closings staging.world.outbox.current emptyOutbox = [] := by
    rw [Outbox.World.current, h.scene.document]
    exact closings_nil rfl
  rw [← h.scene.log]
  exact congrArg (fun added => added.map (fun closing => Observation.closed closing.1 closing.2) ++
    staging.world.log) hclosings

/-- The sweep of process one finds nothing in the outbox and takes the picture. -/
theorem Stage.swept {staging : StagingWorld} {processes : List (ℕ × String)}
    {attempt : Option Attempt} {digest : String}
    (h : Stage staging emptyOutbox processes attempt [("/staging/7", digest)]) :
    Stage (execute (StagingWorld.step sampleSendAdapter sampleDocumentBytes 0) staging
      samplePictureSweep) emptyOutbox ((1, "account") :: processes) attempt [] := by
  rw [samplePictureSweep, execute_cons]
  have hopened := h.reopened
  set opened := staging.step sampleSendAdapter sampleDocumentBytes 0 (.opened 1 1000000000 .none)
  have hlookup : opened.world.outbox.processes.lookup 1 = some "account" := by
    rw [hopened.scene.processes]
    rfl
  have hlive : live opened.world.outbox.current = [] := by
    rw [Outbox.World.current, hopened.scene.document]
    rfl
  have hsurveyed : opened.surveyed 1 = { opened with
      sweeps := Function.update opened.sweeps 1 (some ⟨[], ["/staging/7"], ["/staging/7"], []⟩) } := by
    simp only [StagingWorld.surveyed, hlookup, hlive, hopened.copies]
    rfl
  rw [execute_cons, execute_cons, execute_nil]
  change Stage ((opened.surveyed 1).visited 1 "/staging/7" true) _ _ _ _
  rw [hsurveyed]
  refine ⟨?_, ?_, ?_⟩
  · simpa [StagingWorld.visited, StagingWorld.discard] using hopened.scene
  · simp [StagingWorld.visited, StagingWorld.discard, hopened.copies]
  · simpa [StagingWorld.visited, StagingWorld.discard] using hopened.approved

/-- The helper is called with a picture that another process has swept away. -/
theorem samplePicture_swept_away : ¬ ∀ (adapter : SendAdapter) (documentBytes : SendOutboxState → ℕ)
    (caller : ℕ) (before : List Event) (copies : List (String × String))
    (events : List StagingEvent),
    (execute (Send.step adapter documentBytes) .initial before).attempts caller = none →
    (execute (StagingWorld.step adapter documentBytes caller)
      (.start (execute (Send.step adapter documentBytes) .initial before) copies) events).Kept
        caller := by
  intro hkept
  have hswept := samplePictureStart_stages.swept
  obtain ⟨-, hreserved⟩ := hswept.reserves rfl
  obtain ⟨-, hmarked⟩ := hreserved.marks rfl
  have hcalled := (hkept sampleSendAdapter sampleDocumentBytes 0 [] []
    (samplePictureStart ++ (samplePictureSweep ++ samplePictureCall)) rfl).observed
  rw [execute_nil, execute_append, execute_append, samplePictureCall, execute_cons, execute_cons,
    execute_cons, execute_nil] at hcalled
  have hobserved : StagingObservation.dispatched false ∈
      (StagingWorld.called 0 (StagingWorld.step sampleSendAdapter sampleDocumentBytes 0
        (StagingWorld.step sampleSendAdapter sampleDocumentBytes 0
          (execute (StagingWorld.step sampleSendAdapter sampleDocumentBytes 0)
            (execute (StagingWorld.step sampleSendAdapter sampleDocumentBytes 0)
              (.start .initial []) samplePictureStart) samplePictureSweep)
          (.reserved .none)) (.marked .none)) true).observations := by
    rw [StagingWorld.called_observes hmarked.scene.attempt rfl, hmarked.copies]
    exact List.mem_cons_self
  exact absurd (hcalled _ hobserved) nofun

end GreenBubbles.Send
