import GreenBubbles.Library.Windows
import GreenBubbles.Outbox.Records
import GreenBubbles.Send.Finality

/-! # The attempt window

A call passes the rate gate of PRECHECK on the document it read and reserves in
a later transaction. The gate knows the tighter allowance of attachments, the
reservation does not.
-/
namespace GreenBubbles.Send

open Library.Runs Library.Windows
open Connector (ActionAttemptIntent ActionGuardContext ActionRateState assessActionAttempt)
open Outbox (ActionCapability Fault Loads OutboxEntry Request SendCompletionKind
  SendCompletionRecord SendOutboxState SendRateWindow)

namespace SendAdapterConfig

/-- Attachments get their own, tighter allowance. -/
def maximumAttemptsFor (config : SendAdapterConfig) (capability : ActionCapability) : ℕ :=
  if capability.carriesAttachment then
    min config.maximumAttachmentAttemptsPerWindow config.maximumAttemptsPerWindow
  else config.maximumAttemptsPerWindow

def windowNanoseconds (config : SendAdapterConfig) : ℕ :=
  secondsToNanoseconds config.attemptWindowSeconds

/-- The window the guard is shown. -/
def guardRate (config : SendAdapterConfig) (state : SendOutboxState) (maximumAttempts now : ℕ) :
    ActionRateState :=
  let window := state.rateWindow.rolled now config.windowNanoseconds maximumAttempts
  { windowStartedAtUnixNanoseconds := window.startedAtUnixNanoseconds
    windowEndsAtUnixNanoseconds := window.endsAtUnixNanoseconds
    maximumAttempts := window.maximumAttempts
    reservedAttempts := window.reservedAttempts }

/-- Where a window that starts at `moment` ends. -/
def windowEnd (config : SendAdapterConfig) (moment : ℕ) : ℕ :=
  saturatingAdd 128 moment (max config.windowNanoseconds 1)

theorem windowEnd_monotone (config : SendAdapterConfig) : Monotone config.windowEnd := by
  intro first second hle
  simp only [windowEnd, saturatingAdd]
  omega

theorem lt_windowEnd (config : SendAdapterConfig) {moment : ℕ} (h : moment < 2 ^ 128 - 1) :
    moment < config.windowEnd moment := by
  simp only [windowEnd, saturatingAdd]
  omega

end SendAdapterConfig

/-- The rate gate of the guard. -/
def ratePermits (rate : ActionRateState) (now : ℕ) : Bool :=
  decide (rate.windowStartedAtUnixNanoseconds < rate.windowEndsAtUnixNanoseconds) &&
    rate.maximumAttempts != 0 && decide (rate.windowStartedAtUnixNanoseconds ≤ now) &&
    decide (now < rate.windowEndsAtUnixNanoseconds) &&
    decide (rate.reservedAttempts < rate.maximumAttempts)

/-- The guard permits no attempt that its rate gate refuses. -/
theorem ratePermits_of_permitted {context : ActionGuardContext} {intent : ActionAttemptIntent}
    (h : (assessActionAttempt context intent).permitted = true) :
    ratePermits context.rate context.nowUnixNanoseconds = true := by
  have hdenials := (List.append_eq_nil_iff.mp (List.isEmpty_iff.mp h)).2
  have hrate := (List.append_eq_nil_iff.mp hdenials).2
  split_ifs at hrate with hinvalid
  simp only [ge_iff_le, Bool.or_eq_true, beq_iff_eq, decide_eq_true_eq, not_or, not_le, not_lt]
    at hinvalid
  simp only [Connector.denyIf_eq_nil, ge_iff_le, decide_eq_false_iff_not, not_le] at hrate
  simp [ratePermits, hinvalid, hrate]

/-- An attempt reserved, in the window that starts there. -/
structure Reservation where
  windowStart : ℕ
  entry : OutboxEntry

/-- The outbox, what each call that passed PRECHECK is about to reserve and by
which reading of the clock, and all reservations made, the newest first. -/
structure RateWorld where
  outbox : Outbox.World
  passed : ℕ → Option (OutboxEntry × ℕ)
  reservations : List Reservation

inductive RateEvent where
  | opened (process now : ℕ) (fault : Fault)
  | prechecked (process : ℕ) (entry : OutboxEntry) (otherGates : Bool) (now : ℕ)
  | reserved (process : ℕ) (fault : Fault)
  | marked (process : ℕ) (idempotencyKey : String) (now : ℕ) (fault : Fault)
  | completed (process : ℕ) (idempotencyKey : String) (record : SendCompletionRecord) (now : ℕ)
      (fault : Fault)
  | resolved (process : ℕ) (idempotencyKey : String) (kind : SendCompletionKind)
      (reconciledByReplica : Bool) (now : ℕ) (fault : Fault)
  | crashed (process : ℕ)

/-- A transaction that puts an entry in flight has reserved it. -/
def admitted (before after : SendOutboxState) : List Reservation :=
  if before.inFlight.isNone then
    after.inFlight.toList.map fun entry => ⟨after.rateWindow.startedAtUnixNanoseconds, entry⟩
  else []

namespace RateWorld

def initial : RateWorld := ⟨.initial, fun _ => none, []⟩

def follow (world : RateWorld) (outbox : Outbox.World) : RateWorld :=
  { world with
    outbox := outbox
    reservations := admitted world.outbox.current outbox.current ++ world.reservations }

def setPassed (world : RateWorld) (process : ℕ) (passed : Option (OutboxEntry × ℕ)) : RateWorld :=
  { world with passed := Function.update world.passed process passed }

/-- Attempts of a kind whose windows start within the rate window from `moment` on. -/
def attemptsWithin (config : SendAdapterConfig) (counted : Reservation → Bool) (world : RateWorld)
    (moment : ℕ) : ℕ :=
  world.reservations.countP fun reservation =>
    decide (moment ≤ reservation.windowStart ∧ reservation.windowStart < config.windowEnd moment) &&
      counted reservation

end RateWorld

def Reservation.carriesAttachment (reservation : Reservation) : Bool :=
  reservation.entry.capability.carriesAttachment

variable (config : SendAdapterConfig) (documentBytes : SendOutboxState → ℕ)

/-- Whether PRECHECK permits the call, given what its other gates say. -/
def precheckPermits (outbox : Outbox.World) (process : ℕ) (capability : ActionCapability)
    (otherGates : Bool) (now : ℕ) : Bool :=
  match outbox.processes.lookup process with
  | none => false
  | some accountId =>
    match Outbox.readState documentBytes outbox.document accountId now with
    | .error _ => false
    | .ok (state, _) =>
      otherGates && (state.admissionFailure now).isNone &&
        ratePermits (config.guardRate state (config.maximumAttemptsFor capability) now) now

/-- The reservation is made by the clock of its PRECHECK, under the general ceiling. -/
def rateStep (world : RateWorld) : RateEvent → RateWorld
  | .opened process now fault =>
    world.follow (Outbox.step documentBytes world.outbox
      (.opened process config.accountId now fault))
  | .prechecked process entry otherGates now =>
    if precheckPermits config documentBytes world.outbox process entry.capability otherGates now then
      world.setPassed process (some (entry, now))
    else world
  | .reserved process fault =>
    match world.passed process with
    | none => world
    | some (entry, now) =>
      (world.follow (Outbox.step documentBytes world.outbox (.requested process
        (.reserve entry config.windowNanoseconds config.maximumAttemptsPerWindow) now
        fault))).setPassed process none
  | .marked process key now fault =>
    world.follow (Outbox.step documentBytes world.outbox
      (.requested process (.markAttempted key) now fault))
  | .completed process key record now fault =>
    world.follow (Outbox.step documentBytes world.outbox (.requested process
      (.complete key record config.circuitBreakerFailureThreshold
        (SendAdapterConfig.secondsToNanoseconds config.circuitBreakerCooldownSeconds)) now fault))
  | .resolved process key kind reconciled now fault =>
    world.follow (Outbox.step documentBytes world.outbox
      (.requested process (.resolvePending key kind reconciled) now fault))
  | .crashed process =>
    (world.follow (Outbox.step documentBytes world.outbox (.crashed process))).setPassed process none

/-- The clock of a reservation has not fallen behind a window that counts attempts, nor
run out, and an attachment still has the room in the window its PRECHECK saw. -/
structure InTime (window : SendRateWindow) (entry : OutboxEntry) (now : ℕ) : Prop where
  clock : window.startedAtUnixNanoseconds ≤ now ∨ window.reservedAttempts = 0
  bounded : now < 2 ^ 128 - 1
  attachments : entry.capability.carriesAttachment = true →
    window.endsAtUnixNanoseconds ≤ now ∨
      window.reservedAttempts < config.maximumAttemptsFor entry.capability

def RateEvent.InTime (world : RateWorld) : RateEvent → Prop
  | .reserved process _ => ∀ entry now, world.passed process = some (entry, now) →
      Send.InTime config world.outbox.current.rateWindow entry now
  | _ => True

/-! What the window counts -/

/-- The windows of all reservations are apart, none exceeds a ceiling, and the window
of the document counts the attempts of its own start. -/
structure Tallied (window : SendRateWindow) (log : List Reservation) : Prop where
  running : (log = [] ∧ window.endsAtUnixNanoseconds ≤ window.startedAtUnixNanoseconds) ∨
    window.endsAtUnixNanoseconds = config.windowEnd window.startedAtUnixNanoseconds
  behind : ∀ reservation ∈ log,
    reservation.windowStart = window.startedAtUnixNanoseconds ∨
      config.windowEnd reservation.windowStart ≤ window.startedAtUnixNanoseconds
  lasting : ∀ reservation ∈ log,
    reservation.windowStart < config.windowEnd reservation.windowStart
  apart : log.Pairwise fun newer older =>
    Apart config.windowEnd newer.windowStart older.windowStart
  counted : log.countP (fun reservation =>
    decide (reservation.windowStart = window.startedAtUnixNanoseconds) && true) ≤
      window.reservedAttempts
  attempts : ∀ moment, log.countP (fun reservation =>
    decide (reservation.windowStart = moment) && true) ≤ config.maximumAttemptsPerWindow
  attachments : ∀ moment, log.countP (fun reservation =>
    decide (reservation.windowStart = moment) && reservation.carriesAttachment) ≤
      min config.maximumAttachmentAttemptsPerWindow config.maximumAttemptsPerWindow

variable {config} {documentBytes} {window : SendRateWindow} {log : List Reservation} {now : ℕ}

theorem Tallied.nil
    (h : window.endsAtUnixNanoseconds ≤ window.startedAtUnixNanoseconds ∨
      window.endsAtUnixNanoseconds = config.windowEnd window.startedAtUnixNanoseconds) :
    Tallied config window [] := by
  refine ⟨?_, ?_, ?_, .nil, ?_, ?_, ?_⟩ <;> simp [h]

/-- Rolling by a clock in time forgets no attempt of a window in force. -/
theorem Tallied.rolled (h : Tallied config window log)
    (hunused : window.reservedAttempts = 0 → log = [])
    (hclock : window.startedAtUnixNanoseconds ≤ now ∨ window.reservedAttempts = 0)
    (limit : ℕ) : Tallied config (window.rolled now config.windowNanoseconds limit) log := by
  unfold SendRateWindow.rolled
  split_ifs with hrolls
  · by_cases hlog : log = []
    · subst hlog
      exact .nil (.inr rfl)
    · have hstarted : window.startedAtUnixNanoseconds ≤ now := by
        by_contra hbehind
        exact hlog (hunused (hclock.resolve_left hbehind))
      have hends : config.windowEnd window.startedAtUnixNanoseconds ≤ now := by
        have hrunning := h.running.resolve_left fun hfresh => hlog hfresh.1
        omega
      have hpast : ∀ reservation ∈ log, config.windowEnd reservation.windowStart ≤ now := by
        intro reservation hreservation
        rcases h.behind reservation hreservation with hsame | hbefore
        · exact hsame ▸ hends
        · exact hbefore.trans hstarted
      refine ⟨.inr rfl, ?_, h.lasting, h.apart, ?_, h.attempts, h.attachments⟩
      · intro reservation hreservation
        exact .inr (hpast reservation hreservation)
      · rw [Nat.le_zero, List.countP_eq_zero]
        intro reservation hreservation hsame
        have hlasting := h.lasting reservation hreservation
        have hended := hpast reservation hreservation
        simp only [Bool.and_true, decide_eq_true_eq] at hsame
        omega
  · exact ⟨h.running, h.behind, h.lasting, h.apart, h.counted, h.attempts, h.attachments⟩

theorem rolled_started_lt (hbounded : now < 2 ^ 128 - 1) (limit : ℕ) :
    (window.rolled now config.windowNanoseconds limit).startedAtUnixNanoseconds <
      (window.rolled now config.windowNanoseconds limit).endsAtUnixNanoseconds := by
  unfold SendRateWindow.rolled
  split_ifs with hrolls
  · exact config.lt_windowEnd hbounded
  · dsimp only
    omega

theorem rolled_reservedAttempts_lt {limit ceiling : ℕ} (hceiling : 0 < ceiling)
    (h : window.endsAtUnixNanoseconds ≤ now ∨ window.reservedAttempts < ceiling) :
    (window.rolled now config.windowNanoseconds limit).reservedAttempts < ceiling := by
  unfold SendRateWindow.rolled
  split_ifs with hrolls
  · exact hceiling
  · dsimp only
    omega

/-- One more attempt in a window that has room for it. -/
theorem Tallied.count (h : Tallied config window log)
    (hlasting : window.startedAtUnixNanoseconds < window.endsAtUnixNanoseconds)
    (hlimit : config.maximumAttemptsPerWindow < 2 ^ 64)
    (hroom : window.reservedAttempts < config.maximumAttemptsPerWindow) {entry : OutboxEntry}
    (hattachment : entry.capability.carriesAttachment = true →
      window.reservedAttempts < config.maximumAttemptsFor entry.capability) :
    Tallied config
      { window with reservedAttempts := saturatingAdd 64 window.reservedAttempts 1 }
      (⟨window.startedAtUnixNanoseconds, entry⟩ :: log) := by
  have hrunning : window.endsAtUnixNanoseconds =
      config.windowEnd window.startedAtUnixNanoseconds := by
    have hlive := h.running
    omega
  have hsum : saturatingAdd 64 window.reservedAttempts 1 = window.reservedAttempts + 1 :=
    saturatingAdd_of_lt (by omega)
  have hcounted := h.counted
  refine ⟨.inr hrunning, ?_, ?_, ?_, ?_, ?_, ?_⟩
  · rintro reservation (_ | ⟨_, hreservation⟩)
    · exact .inl rfl
    · exact h.behind reservation hreservation
  · rintro reservation (_ | ⟨_, hreservation⟩)
    · exact hrunning ▸ hlasting
    · exact h.lasting reservation hreservation
  · refine List.pairwise_cons.mpr ⟨?_, h.apart⟩
    intro older holder
    rcases h.behind older holder with hsame | hbefore
    · exact .inl hsame.symm
    · exact .inr (.inr hbefore)
  · rw [hsum, List.countP_cons_of_pos (by simp)]
    exact Nat.succ_le_succ hcounted
  · intro moment
    have hattempts := h.attempts moment
    by_cases hmoment : window.startedAtUnixNanoseconds = moment
    · subst hmoment
      rw [List.countP_cons_of_pos (by simp)]
      omega
    · rw [List.countP_cons_of_neg (by simpa using hmoment)]
      exact hattempts
  · intro moment
    have hattachments := h.attachments moment
    by_cases hcounts : window.startedAtUnixNanoseconds = moment ∧
        entry.capability.carriesAttachment = true
    · obtain ⟨rfl, hcarries⟩ := hcounts
      have hmono : log.countP (fun reservation =>
          decide (reservation.windowStart = window.startedAtUnixNanoseconds) &&
            reservation.carriesAttachment) ≤ window.reservedAttempts := by
        refine (List.countP_mono_left ?_).trans hcounted
        intro reservation _ hboth
        rw [Bool.and_eq_true] at hboth
        rw [hboth.1, Bool.and_true]
      have hceiling := hattachment hcarries
      rw [SendAdapterConfig.maximumAttemptsFor, if_pos hcarries] at hceiling
      rw [List.countP_cons_of_pos (by simp [Reservation.carriesAttachment, hcarries])]
      omega
    · rw [List.countP_cons_of_neg (by simpa [Reservation.carriesAttachment] using hcounts)]
      exact hattachments

theorem maximumAttemptsFor_pos (hvalid : config.validate = .ok ()) (capability : ActionCapability) :
    0 < config.maximumAttemptsFor capability := by
  unfold SendAdapterConfig.validate at hvalid
  split_ifs at hvalid with hfields
  simp only [SendAdapterConfig.fieldsValid, Bool.and_eq_true, bne_iff_ne] at hfields
  unfold SendAdapterConfig.maximumAttemptsFor
  split_ifs <;> omega

/-! Runs -/

/-- The window of the document is right about all reservations made. -/
structure RateSound (config : SendAdapterConfig) (state : SendOutboxState)
    (log : List Reservation) : Prop where
  tallied : Tallied config state.rateWindow log
  unused : state.rateWindow.reservedAttempts = 0 → log = []

variable {before after : SendOutboxState}

theorem admitted_eq_nil (h : before.inFlight = none → after.inFlight = none) :
    admitted before after = [] := by
  cases hflight : before.inFlight with
  | some entry => simp [admitted, hflight]
  | none => simp [admitted, hflight, h hflight]

theorem RateSound.of_loads {outbox : Outbox.World} {accountId : String}
    (h : RateSound config outbox.current log) (hloads : Loads accountId now outbox.document before) :
    RateSound config before log := by
  rcases outbox with ⟨document, processes, history⟩
  cases hloads with
  | stored hvalid => exact h
  | fresh =>
    have hlog : log = [] := h.unused rfl
    subst hlog
    exact ⟨.nil (.inl le_rfl), fun _ => rfl⟩

theorem InTime.of_loads {outbox : Outbox.World} {accountId : String} {entry : OutboxEntry}
    (h : InTime config outbox.current.rateWindow entry now)
    (hloads : Loads accountId now outbox.document before) :
    InTime config before.rateWindow entry now := by
  rcases outbox with ⟨document, processes, history⟩
  cases hloads with
  | stored hvalid => exact h
  | fresh => exact ⟨.inl le_rfl, h.bounded, fun _ => .inl le_rfl⟩

theorem RateSound.reserve (h : RateSound config before log) {entry : OutboxEntry}
    (hvalid : config.validate = .ok ()) (hlimit : config.maximumAttemptsPerWindow < 2 ^ 64)
    (htime : InTime config before.rateWindow entry now)
    (hreserve : before.reserve entry now config.windowNanoseconds
      config.maximumAttemptsPerWindow = (.ok (), after)) :
    RateSound config after (admitted before after ++ log) := by
  obtain ⟨hroom, hwindow⟩ := Outbox.reserve_window hreserve
  have hreserved := SendOutboxState.reserve_ok hreserve
  have hadmitted : admitted before after =
      [⟨(before.rateWindow.rolled now config.windowNanoseconds
        config.maximumAttemptsPerWindow).startedAtUnixNanoseconds,
        { entry with state := .reserved }⟩] := by
    simp [admitted, hreserved.idle, hreserved.inFlight, hwindow]
  have hceiling := maximumAttemptsFor_pos hvalid entry.capability
  refine ⟨?_, ?_⟩
  · rw [hadmitted, hwindow]
    refine (h.tallied.rolled h.unused htime.clock _).count (rolled_started_lt htime.bounded _)
      hlimit hroom ?_
    intro hcarries
    exact rolled_reservedAttempts_lt hceiling (htime.attachments hcarries)
  · intro hzero
    rw [hwindow] at hzero
    simp only [saturatingAdd] at hzero
    omega

theorem follow_sound {world : RateWorld} {event : Outbox.Event}
    (h : RateSound config world.outbox.current world.reservations)
    (hvalid : config.validate = .ok ()) (hlimit : config.maximumAttemptsPerWindow < 2 ^ 64)
    (hreserve : ∀ entry span limit now, event.call = some (.reserve entry span limit, now) →
      span = config.windowNanoseconds ∧ limit = config.maximumAttemptsPerWindow ∧
        InTime config world.outbox.current.rateWindow entry now) :
    RateSound config (world.follow (Outbox.step documentBytes world.outbox event)).outbox.current
      (world.follow (Outbox.step documentBytes world.outbox event)).reservations := by
  simp only [RateWorld.follow]
  obtain hsame | ⟨request, now, accountId, before, hcall, hloads, hoperation⟩ :=
    @Outbox.step_loads documentBytes world.outbox event
  · rw [hsame, admitted_eq_nil id]
    exact h
  · have hbefore := h.of_loads hloads
    have hadmitted : admitted world.outbox.current (Outbox.step documentBytes world.outbox
        event).current = admitted before (Outbox.step documentBytes world.outbox event).current := by
      rw [admitted, hloads.sameView.inFlight, admitted]
    rw [hadmitted]
    obtain ⟨entry, span, limit, rfl, hgranted⟩ | ⟨hwindow, hidle⟩ :=
      Outbox.operation_window hoperation
    · obtain ⟨rfl, rfl, htime⟩ := hreserve entry span limit now hcall
      exact hbefore.reserve hvalid hlimit (htime.of_loads hloads) hgranted
    · rw [admitted_eq_nil hidle]
      exact ⟨hwindow ▸ hbefore.tallied, hwindow ▸ hbefore.unused⟩

theorem rateStep_sound (hvalid : config.validate = .ok ())
    (hlimit : config.maximumAttemptsPerWindow < 2 ^ 64) (world : RateWorld) (event : RateEvent)
    (h : RateSound config world.outbox.current world.reservations)
    (htime : event.InTime config world) :
    RateSound config (rateStep config documentBytes world event).outbox.current
      (rateStep config documentBytes world event).reservations := by
  have hquiet : ∀ {outboxEvent : Outbox.Event},
      (∀ entry span limit now, outboxEvent.call ≠ some (.reserve entry span limit, now)) →
      RateSound config
        (world.follow (Outbox.step documentBytes world.outbox outboxEvent)).outbox.current
        (world.follow (Outbox.step documentBytes world.outbox outboxEvent)).reservations := by
    intro outboxEvent hnone
    refine follow_sound h hvalid hlimit ?_
    intro entry span limit now hcall
    exact absurd hcall (hnone entry span limit now)
  cases event with
  | opened process now fault => exact hquiet (by simp [Outbox.Event.call])
  | prechecked process entry otherGates now =>
    simp only [rateStep]
    split_ifs
    · exact h
    · exact h
  | reserved process fault =>
    cases hpassed : world.passed process with
    | none =>
      simp only [rateStep, hpassed]
      exact h
    | some call =>
      rcases call with ⟨entry, now⟩
      simp only [rateStep, hpassed, RateWorld.setPassed]
      refine follow_sound h hvalid hlimit ?_
      intro reserved span limit moment hcall
      simp only [Outbox.Event.call, Option.some.injEq, Prod.mk.injEq, Request.reserve.injEq] at hcall
      obtain ⟨⟨rfl, rfl, rfl⟩, rfl⟩ := hcall
      exact ⟨rfl, rfl, htime _ _ hpassed⟩
  | marked process key now fault => exact hquiet (by simp [Outbox.Event.call])
  | completed process key record now fault => exact hquiet (by simp [Outbox.Event.call])
  | resolved process key kind reconciled now fault => exact hquiet (by simp [Outbox.Event.call])
  | crashed process => exact hquiet (by simp [Outbox.Event.call])

theorem rateSound_initial :
    RateSound config RateWorld.initial.outbox.current RateWorld.initial.reservations :=
  ⟨.nil (.inl le_rfl), fun _ => rfl⟩

/-- Rolling keeps the attempts of a window still in force exactly where the clock has not
gone back behind its start. -/
theorem rolled_keeps_iff (window : SendRateWindow) (now span limit : ℕ) :
    (now < window.endsAtUnixNanoseconds →
      (window.rolled now span limit).reservedAttempts = window.reservedAttempts) ↔
      window.endsAtUnixNanoseconds ≤ now ∨ window.startedAtUnixNanoseconds ≤ now ∨
        window.reservedAttempts = 0 := by
  unfold SendRateWindow.rolled
  split_ifs <;> dsimp only <;> omega

/-- In every state a run in time reaches, no window of attempts exceeds its ceilings. -/
theorem rate_window_holds (adapter : SendAdapter)
    (hlimit : adapter.config.maximumAttemptsPerWindow < 2 ^ 64)
    (documentBytes : SendOutboxState → ℕ) (events : List RateEvent)
    (h : Meets (rateStep adapter.config documentBytes) (fun world event =>
      event.InTime adapter.config world) .initial events) :
    let world := execute (rateStep adapter.config documentBytes) .initial events
    (∀ moment, world.attemptsWithin adapter.config (fun _ => true) moment ≤
        adapter.config.maximumAttemptsPerWindow) ∧
      (∀ moment, world.attemptsWithin adapter.config Reservation.carriesAttachment moment ≤
        min adapter.config.maximumAttachmentAttemptsPerWindow
          adapter.config.maximumAttemptsPerWindow) ∧
      ∀ now span limit, (now < world.outbox.current.rateWindow.endsAtUnixNanoseconds →
        (world.outbox.current.rateWindow.rolled now span limit).reservedAttempts =
          world.outbox.current.rateWindow.reservedAttempts) ↔
        world.outbox.current.rateWindow.endsAtUnixNanoseconds ≤ now ∨
          world.outbox.current.rateWindow.startedAtUnixNanoseconds ≤ now ∨
          world.outbox.current.rateWindow.reservedAttempts = 0 := by
  intro world
  have hsound : RateSound adapter.config world.outbox.current world.reservations :=
    Meets.invariant (I := fun world => RateSound adapter.config world.outbox.current
      world.reservations) _ (rateStep_sound adapter.valid hlimit) h rateSound_initial
  have hends := adapter.config.windowEnd_monotone
  refine ⟨?_, ?_, ?_⟩
  · intro moment
    exact countP_within_le Reservation.windowStart hends hsound.tallied.apart _
      hsound.tallied.attempts moment
  · intro moment
    exact countP_within_le Reservation.windowStart hends hsound.tallied.apart _
      hsound.tallied.attachments moment
  · exact rolled_keeps_iff _

/-! Two calls of one process each, prechecked before either reserves -/

def raceDigest (c : Char) : String := .ofList (List.replicate 64 c)

/-- A rehearsal of an image. -/
def raceEntry (c : Char) : OutboxEntry where
  actionId := raceDigest c
  draftId := raceDigest c
  approvalId := raceDigest c
  idempotencyKey := raceDigest c
  capabilityId := raceDigest c
  capabilityBindingSha256 := raceDigest c
  accountId := "account"
  conversationId := "conversation"
  bodySha256 := raceDigest c
  normalizedBodySha256 := raceDigest c
  capability := .imageSend
  attachmentSha256 := some (raceDigest c)
  displayFileName := some "image.png"
  stagingDirectory := some "/staging/image"
  bytesPreservedInTransit := false
  rolloutStage := .dryRun
  permitSend := false
  state := .reserved
  reservedAtUnixNanoseconds := 1000000000
  attemptedAtUnixNanoseconds := none
  deadlineUnixNanoseconds := 3601000000000

def raceRecord : SendCompletionRecord where
  outcome := .completed .dryRunCompleted
  attempted := false
  visualConfirmation := .notAttempted
  failure := none
  reconciledByReplica := false

/-- Both calls have passed PRECHECK. -/
def racePrechecked (first second : ℕ) : List RateEvent :=
  [.opened 0 first .none, .prechecked 0 (raceEntry 'a') true first,
   .opened 1 second .none, .prechecked 1 (raceEntry 'b') true second]

/-- The call that read its clock `first` reserves last. -/
def race (first second : ℕ) : List RateEvent :=
  racePrechecked first second ++
    [.reserved 1 .none, .completed 1 (raceDigest 'b') raceRecord second .none, .reserved 0 .none]

/-- The sample with room for a single attempt. -/
def singleConfig : SendAdapterConfig := { sampleConfig with maximumAttemptsPerWindow := 1 }

/-- The first of the two reservations is in time. -/
theorem race_holds :
    (execute (rateStep sampleConfig fun _ => 0) .initial
      (racePrechecked 1000000000 1000000000 ++ [.reserved 1 .none])).attemptsWithin sampleConfig
        Reservation.carriesAttachment 1000000000 ≤ 1 := by
  have hmeets : Meets (rateStep sampleConfig fun _ => 0) (fun world event =>
      event.InTime sampleConfig world) .initial
        (racePrechecked 1000000000 1000000000 ++ [.reserved 1 .none]) := by
    refine (Meets.append _).mpr ⟨⟨trivial, trivial, trivial, trivial, trivial⟩, ?_, trivial⟩
    intro entry now hpassed
    have hcall : (execute (rateStep sampleConfig fun _ => 0) .initial
        (racePrechecked 1000000000 1000000000)).passed 1 =
          some (raceEntry 'b', 1000000000) := by
      decide +kernel
    have hwindow : (execute (rateStep sampleConfig fun _ => 0) .initial
        (racePrechecked 1000000000 1000000000)).outbox.current.rateWindow =
          ⟨1000000000, 1000000000, 0, 0⟩ := by
      decide +kernel
    rw [hcall] at hpassed
    cases hpassed
    rw [hwindow]
    exact ⟨.inr rfl, by decide, fun _ => .inl le_rfl⟩
  exact (rate_window_holds sampleSendAdapter (by decide) (fun _ => 0) _ hmeets).2.1 1000000000

/-- Two images in a window that has room for one, by one reading of the clock; two attempts
in a window that has room for one, by two readings that do not decrease. -/
theorem race_exceeds :
    (execute (rateStep sampleConfig fun _ => 0) .initial
        (race 1000000000 1000000000)).attemptsWithin sampleConfig Reservation.carriesAttachment
          1000000000 = 2 ∧
      min sampleConfig.maximumAttachmentAttemptsPerWindow sampleConfig.maximumAttemptsPerWindow =
        1 ∧
      (execute (rateStep singleConfig fun _ => 0) .initial
        (race 1000000000 2000000000)).attemptsWithin singleConfig (fun _ => true)
          1000000000 = 2 ∧
      singleConfig.maximumAttemptsPerWindow = 1 := by
  refine ⟨?_, ?_, ?_, ?_⟩ <;> decide +kernel

end GreenBubbles.Send
