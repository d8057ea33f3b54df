import GreenBubbles.Outbox.Records
import GreenBubbles.Send.Finality

/-! # The recall window

How long the owner can still recall a message the adapter sent. A parked entry
counts from the moment it was marked, a closed one from its record.
-/
namespace GreenBubbles.Send

open Library.Runs
open Outbox (DispatchedAt Filed Moves OutboxCompletion OutboxEntry Request SendOutboxState Single)

structure SendRecallWindowReport where
  formatVersion : ℕ
  idempotencyKey : String
  conversationId : String
  attempted : Bool
  recallable : Bool
  recallDeadlineUnixNanoseconds : Option ℕ
  remainingSeconds : ℕ
  procedure : List String
  checkedAtUnixNanoseconds : ℕ
  deriving DecidableEq

def recallProcedure : List String :=
  ["Open WeChat and go to the conversation named in this report.",
   "Right-click the message the adapter sent.",
   "Choose Recall, then confirm.",
   "Re-run `send reconcile` so the outbox records the final state."]

/-- The moment a record counts from. -/
def recordMoment (record : OutboxCompletion) : Option ℕ :=
  if record.attempted then some record.completedAtUnixNanoseconds else none

/-- The conversation and the moment of a key: of its parked entry, else of its latest record. -/
def recallMoment (state : SendOutboxState) (key : String) : Option (String × Option ℕ) :=
  ((state.pendingReconciliation.find? (·.idempotencyKey = key)).map fun entry =>
      (entry.conversationId, entry.attemptedAtUnixNanoseconds)).or
    ((state.completions.reverse.find? (·.idempotencyKey = key)).map fun record =>
      (record.conversationId, recordMoment record))

namespace SendAdapterConfig

def recallDeadline (config : SendAdapterConfig) (moment : ℕ) : ℕ :=
  saturatingAdd 128 moment (secondsToNanoseconds config.recallWindowSeconds)

/-- Whole seconds, as a `u64`. -/
def remainingSeconds (deadline : Option ℕ) (now : ℕ) : ℕ :=
  match deadline with
  | none => 0
  | some deadline => if now < deadline then (deadline - now) / 1000000000 % 2 ^ 64 else 0

/-- The report on the state of an opened outbox. -/
def recallWindow (config : SendAdapterConfig) (state : SendOutboxState) (key : String) (now : ℕ) :
    Except RestoreError SendRecallWindowReport :=
  match recallMoment state key with
  | none => .error (.integrity "no attempt matches this idempotency key")
  | some (conversationId, attemptedAt) =>
    let deadline := attemptedAt.map config.recallDeadline
    let remaining := remainingSeconds deadline now
    .ok
      { formatVersion := sendContractVersion
        idempotencyKey := key
        conversationId
        attempted := attemptedAt.isSome
        recallable := decide (0 < remaining)
        recallDeadlineUnixNanoseconds := deadline
        remainingSeconds := remaining
        procedure := recallProcedure
        checkedAtUnixNanoseconds := now }

end SendAdapterConfig

/-- Both moments are known and the first is not later, or neither is known. -/
def NotLater : Option ℕ → Option ℕ → Prop
  | none, none => True
  | some first, some second => first ≤ second
  | _, _ => False

theorem NotLater.refl (moment : Option ℕ) : NotLater moment moment := by
  cases moment <;> simp [NotLater]

/-- The key is spent, not in flight, and counts from no later moment than `moment`. -/
structure Within (key : String) (moment : Option ℕ) (state : SendOutboxState) : Prop where
  spent : key ∈ state.reservedIdempotencyKeys
  landed : ∀ entry, state.inFlight = some entry → entry.idempotencyKey ≠ key
  parked : ∀ entry ∈ state.unresolved, entry.idempotencyKey = key →
    NotLater entry.attemptedAtUnixNanoseconds moment
  closed : ∀ record ∈ state.completions, record.idempotencyKey = key →
    NotLater (recordMoment record) moment

theorem Within.of_recallMoment {dispatched : String → ℕ → Prop} {state : SendOutboxState}
    {key conversationId : String} {moment : Option ℕ} (hfiled : Filed dispatched state)
    (hsingle : Single state) (h : recallMoment state key = some (conversationId, moment)) :
    Within key moment state := by
  unfold recallMoment at h
  cases hpending : state.pendingReconciliation.find? (·.idempotencyKey = key) with
  | some entry =>
    have hkey : entry.idempotencyKey = key := by simpa using List.find?_some hpending
    obtain ⟨hidle, hparked⟩ := hsingle.parked (List.mem_of_find?_eq_some hpending)
    have hheld : state.unresolved = [entry] := by
      simp [SendOutboxState.unresolved, hidle, hparked]
    have hentry : entry ∈ state.unresolved := by rw [hheld]; exact List.mem_cons_self
    simp only [hpending, Option.map_some, Option.some_or, Option.some.injEq, Prod.mk.injEq] at h
    refine ⟨hkey ▸ hfiled.held entry hentry, ?_, ?_, ?_⟩
    · intro flown hflown
      rw [hidle] at hflown
      cases hflown
    · intro other hother hsame
      rw [hheld, List.mem_singleton] at hother
      rw [hother, h.2]
      exact .refl _
    · intro record hrecord hsame
      exact absurd (hsame.trans hkey.symm) (hfiled.apart entry hentry record hrecord)
  | none =>
    simp only [hpending, Option.map_none, Option.none_or, Option.map_eq_some_iff,
      Prod.mk.injEq] at h
    obtain ⟨record, hfound, -, rfl⟩ := h
    have hkey : record.idempotencyKey = key := by simpa using List.find?_some hfound
    have hrecord : record ∈ state.completions := by
      simpa using List.mem_of_find?_eq_some hfound
    refine ⟨hkey ▸ hfiled.filed record hrecord, ?_, ?_, ?_⟩
    · intro flown hflown hsame
      have hmem : flown ∈ state.unresolved := by simp [SendOutboxState.unresolved, hflown]
      exact hfiled.apart flown hmem record hrecord (hkey.trans hsame.symm)
    · intro entry hentry hsame
      exact absurd (hkey.trans hsame.symm) (hfiled.apart entry hentry record hrecord)
    · intro other hother hsame
      have hequal : other = record :=
        List.inj_on_of_nodup_map hfiled.once hother hrecord (hsame.trans hkey.symm)
      rw [hequal]
      exact .refl _

theorem Within.recallMoment {state : SendOutboxState} {key conversationId : String}
    {moment later : Option ℕ} (h : Within key moment state)
    (hlater : recallMoment state key = some (conversationId, later)) : NotLater later moment := by
  unfold Send.recallMoment at hlater
  cases hpending : state.pendingReconciliation.find? (·.idempotencyKey = key) with
  | some entry =>
    have hkey : entry.idempotencyKey = key := by simpa using List.find?_some hpending
    have hentry : entry ∈ state.unresolved :=
      List.mem_append_right _ (List.mem_of_find?_eq_some hpending)
    simp only [hpending, Option.map_some, Option.some_or, Option.some.injEq, Prod.mk.injEq]
      at hlater
    exact hlater.2 ▸ h.parked entry hentry hkey
  | none =>
    simp only [hpending, Option.map_none, Option.none_or, Option.map_eq_some_iff,
      Prod.mk.injEq] at hlater
    obtain ⟨record, hfound, -, rfl⟩ := hlater
    have hkey : record.idempotencyKey = key := by simpa using List.find?_some hfound
    exact h.closed record (by simpa using List.mem_of_find?_eq_some hfound) hkey

/-- A call that closes no attempt late never moves the moment of a key to a later one. -/
theorem Within.moves {request : Request} {now : ℕ} {before after : SendOutboxState}
    {key : String} {moment : Option ℕ} (h : Within key moment before)
    (hmoves : Moves request now before after) (hprompt : request.Prompt now before) :
    Within key moment after := by
  cases hmoves with
  | same hunresolved hflight hkeys hcompletions =>
    refine ⟨?_, ?_, ?_, ?_⟩ <;> simp only [hunresolved, hflight, hkeys, hcompletions]
    exacts [h.spent, h.landed, h.parked, h.closed]
  | admits entry window limit hasked hidle hflight hunresolved hfresh hkeys hcompletions =>
    have hother : entry.idempotencyKey ≠ key := fun hsame => hfresh (hsame ▸ h.spent)
    refine ⟨?_, ?_, ?_, ?_⟩
    · rw [hkeys]
      exact Finset.mem_insert_of_mem h.spent
    · intro flown hflown
      rw [hflight] at hflown
      exact Option.some.inj hflown ▸ hother
    · intro held hheld hsame
      rw [hunresolved, List.mem_singleton] at hheld
      subst hheld
      exact absurd hsame hother
    · rw [hcompletions]
      exact h.closed
  | marks entry hasked hheld hflight hunresolved hflown hkeys hcompletions =>
    have hother := h.landed entry hflown
    refine ⟨hkeys ▸ h.spent, ?_, ?_, hcompletions ▸ h.closed⟩
    · intro flown hflown'
      rw [hflight] at hflown'
      exact Option.some.inj hflown' ▸ hother
    · intro held hmem hsame
      rw [hunresolved, List.mem_singleton] at hmem
      subst hmem
      exact absurd hsame hother
  | parks entry hheld hflown hlanded hunresolved hkeys hcompletions =>
    have hother := h.landed entry hflown
    refine ⟨hkeys ▸ h.spent, ?_, ?_, hcompletions ▸ h.closed⟩
    · intro flown hflown'
      rw [hlanded] at hflown'
      cases hflown'
    · intro held hmem hsame
      rw [hunresolved, List.mem_singleton] at hmem
      subst hmem
      exact absurd hsame hother
  | closes entry record hheld hidle hkeys hkey hcompletions hnow hparked hflown =>
    have hentry : entry ∈ before.unresolved := by rw [hheld]; exact List.mem_cons_self
    have hlanded : after.inFlight = none := by
      cases hflight : after.inFlight with
      | none => rfl
      | some other => simp [SendOutboxState.unresolved, hflight] at hidle
    refine ⟨hkeys ▸ h.spent, ?_, ?_, ?_⟩
    · intro flown hflown'
      rw [hlanded] at hflown'
      cases hflown'
    · simp [hidle]
    · intro other hother hsame
      rw [hcompletions] at hother
      obtain hbefore | rfl := SendOutboxState.mem_pushCompletion hother
      · exact h.closed other hbefore hsame
      · have hknown := h.parked entry hentry (hkey.symm.trans hsame)
        have hnone : before.inFlight = none := by
          cases hflight : before.inFlight with
          | none => rfl
          | some flown =>
            have hsole : flown = entry := by
              simp only [SendOutboxState.unresolved, hflight, Option.toList_some,
                List.singleton_append, List.cons.injEq] at hheld
              exact hheld.1
            exact absurd (hkey.symm.trans hsame) (h.landed entry (hsole ▸ hflight))
        have hattempted := (hparked hnone).2
        cases hmarked : entry.attemptedAtUnixNanoseconds with
        | none =>
          rw [hmarked, Option.isSome_none] at hattempted
          rw [hmarked] at hknown
          simpa [recordMoment, hattempted] using hknown
        | some marked =>
          rw [hmarked, Option.isSome_some] at hattempted
          obtain ⟨moment', hmoment', hle⟩ :=
            Moves.prompt hprompt hheld hparked hflown hattempted
          rw [hmarked] at hmoment' hknown
          obtain rfl := Option.some.inj hmoment'
          cases moment with
          | none => exact absurd hknown (by simp [NotLater])
          | some moment =>
            simp only [NotLater, recordMoment, hattempted, if_true, hnow] at hknown ⊢
            exact hle.trans hknown

variable {documentBytes : SendOutboxState → ℕ}

theorem run_within {key : String} {moment : Option ℕ} (earlier later : List Outbox.Event)
    (h : Meets (Outbox.step documentBytes) Outbox.Event.Prompt
      (execute (Outbox.step documentBytes) .initial earlier) later)
    (hwithin : Within key moment (execute (Outbox.step documentBytes) .initial earlier).current) :
    Within key moment
      (execute (Outbox.step documentBytes) .initial (earlier ++ later)).current := by
  induction later generalizing earlier with
  | nil => simpa using hwithin
  | cons event later ih =>
    obtain ⟨hevent, hlater⟩ := h
    have hsingle := (Outbox.run_coupled documentBytes .initial earlier
      Outbox.coupled_initial).single
    have hnext : execute (Outbox.step documentBytes) .initial (earlier ++ [event]) =
        Outbox.step documentBytes (execute (Outbox.step documentBytes) .initial earlier) event := by
      rw [execute_append]
      rfl
    have hsplit : earlier ++ event :: later = (earlier ++ [event]) ++ later := by simp
    rw [hsplit]
    refine ih (earlier ++ [event]) (hnext ▸ hlater) ?_
    rw [hnext]
    obtain hsame | ⟨request, now, hcall, hmoves⟩ := Outbox.step_moves _ event hsingle
    · rw [hsame]
      exact hwithin
    · exact hwithin.moves hmoves (hevent request now hcall)

/-- The moment a key counts from is one at which its attempt was marked, or an earlier one. -/
theorem recallMoment_dispatched {dispatched : String → ℕ → Prop} {state : SendOutboxState}
    {key conversationId : String} {moment : ℕ} (hfiled : Filed dispatched state)
    (h : recallMoment state key = some (conversationId, some moment)) :
    ∃ marked, dispatched key marked ∧ moment ≤ marked := by
  unfold recallMoment at h
  cases hpending : state.pendingReconciliation.find? (·.idempotencyKey = key) with
  | some entry =>
    have hkey : entry.idempotencyKey = key := by simpa using List.find?_some hpending
    have hentry : entry ∈ state.unresolved :=
      List.mem_append_right _ (List.mem_of_find?_eq_some hpending)
    simp only [hpending, Option.map_some, Option.some_or, Option.some.injEq, Prod.mk.injEq] at h
    exact ⟨moment, hkey ▸ hfiled.marked entry hentry moment h.2, le_rfl⟩
  | none =>
    simp only [hpending, Option.map_none, Option.none_or, Option.map_eq_some_iff,
      Prod.mk.injEq] at h
    obtain ⟨record, hfound, -, hmoment⟩ := h
    have hkey : record.idempotencyKey = key := by simpa using List.find?_some hfound
    have hrecord : record ∈ state.completions := by
      simpa using List.mem_of_find?_eq_some hfound
    cases hattempted : record.attempted with
    | false => simp [recordMoment, hattempted] at hmoment
    | true =>
      simp only [recordMoment, hattempted, if_true, Option.some.injEq] at hmoment
      obtain ⟨marked, hmarked, hle⟩ := hfiled.recorded record hrecord hattempted
      exact ⟨marked, hkey ▸ hmarked, hmoment ▸ hle⟩

theorem recallWindow_ok {config : SendAdapterConfig} {state : SendOutboxState} {key : String}
    {now : ℕ} {report : SendRecallWindowReport}
    (h : config.recallWindow state key now = .ok report) :
    ∃ conversationId moment, recallMoment state key = some (conversationId, moment) ∧
      report.recallDeadlineUnixNanoseconds = moment.map config.recallDeadline ∧
      report.recallable = decide (0 < SendAdapterConfig.remainingSeconds
        (moment.map config.recallDeadline) now) := by
  unfold SendAdapterConfig.recallWindow at h
  cases hmoment : recallMoment state key with
  | none => simp [hmoment] at h
  | some pair =>
    rw [hmoment] at h
    obtain rfl := Except.ok.inj h
    exact ⟨_, _, rfl, rfl, rfl⟩

theorem recallDeadline_mono (config : SendAdapterConfig) {first second : ℕ} (h : first ≤ second) :
    config.recallDeadline first ≤ config.recallDeadline second := by
  simp only [SendAdapterConfig.recallDeadline, saturatingAdd]
  omega

/-- A window that closed stays closed when its deadline does not move later. -/
theorem remainingSeconds_zero {first second deadline later : ℕ}
    (h : SendAdapterConfig.remainingSeconds (some deadline) first = 0)
    (hbound : (deadline - first) / 1000000000 < 2 ^ 64) (horder : first ≤ second)
    (hlater : later ≤ deadline) :
    SendAdapterConfig.remainingSeconds (some later) second = 0 := by
  simp only [SendAdapterConfig.remainingSeconds] at h ⊢
  by_cases hstill : second < later
  · have hopen : first < deadline := by omega
    rw [if_pos hopen, Nat.mod_eq_of_lt hbound] at h
    have hzero : (later - second) / 1000000000 = 0 := by omega
    rw [if_pos hstill, hzero, Nat.zero_mod]
  · rw [if_neg hstill]

/-- A reconciliation after the mark moves the deadline of its attempt. -/
theorem resolvePending_reopens (config : SendAdapterConfig) {state after : SendOutboxState}
    {key conversationId : String} {kind : Outbox.SendCompletionKind} {reconciled : Bool}
    {marked now : ℕ} (hsingle : Single state)
    (hmarked : recallMoment state key = some (conversationId, some marked)) (hlate : marked < now)
    (hroom : now + SendAdapterConfig.secondsToNanoseconds config.recallWindowSeconds < 2 ^ 128)
    (h : state.resolvePending key kind reconciled now = (.ok (), after)) :
    recallMoment after key = some (conversationId, some now) ∧
      config.recallDeadline marked < config.recallDeadline now := by
  refine ⟨?_, ?_⟩
  · unfold SendOutboxState.resolvePending at h
    by_cases hkind : kind = .dryRunCompleted
    · simp [hkind] at h
    · rw [if_neg hkind] at h
      cases hentry : state.pendingReconciliation.find? (·.idempotencyKey = key) with
      | none => simp [hentry] at h
      | some entry =>
        have hkey : entry.idempotencyKey = key := by simpa using List.find?_some hentry
        have hpending := (hsingle.parked (List.mem_of_find?_eq_some hentry)).2
        simp only [recallMoment, hentry, Option.map_some, Option.some_or, Option.some.injEq,
          Prod.mk.injEq] at hmarked
        simp only [hentry, Prod.mk.injEq, true_and] at h
        subst h
        obtain ⟨hconversation, hmoment⟩ := hmarked
        obtain ⟨earlier, hearlier⟩ := List.getLast?_eq_some_iff.mp
          (SendOutboxState.getLast?_pushCompletion
            { state with
              pendingReconciliation :=
                state.pendingReconciliation.eraseP (·.idempotencyKey = key) }
            (Outbox.completion entry kind
              { outcome := .completed kind
                attempted := entry.attemptedAtUnixNanoseconds.isSome
                visualConfirmation := .unconfirmed
                failure := none
                reconciledByReplica := reconciled } now))
        simp only [recallMoment, hearlier, List.reverse_append, List.reverse_singleton,
          List.singleton_append]
        simp [SendOutboxState.pushCompletion, hpending, hkey, Outbox.completion, recordMoment,
          hmoment, hconversation]
  · simp only [SendAdapterConfig.recallDeadline, saturatingAdd]
    omega

/-- The parked attempt of the sample once a reconciliation calls it sent. -/
def sentOutbox (entry : OutboxEntry) : SendOutboxState :=
  { parkedOutbox entry with
    pendingReconciliation := []
    completions := [Outbox.completion (parkedEntry entry) .observedSent
      { outcome := .completed .observedSent, attempted := true
        visualConfirmation := .unconfirmed, failure := none, reconciledByReplica := true }
      200000000000]
    completedAttemptTotal := 1
    updatedAtUnixNanoseconds := 200000000000 }

/-- An attempt is marked, the process restarts, and a reconciliation follows. -/
def sampleMarked : List Outbox.Event :=
  [.opened 0 "account" 1000000000 .none,
   .requested 0 (.reserve sampleEntry 3600000000000 3) 1000000000 .none,
   .requested 0 (.markAttempted sampleEntry.idempotencyKey) 1000000000 .none,
   .opened 1 "account" 2000000000 .none]

def sampleReconciled : List Outbox.Event :=
  [.requested 1 (.resolvePending sampleEntry.idempotencyKey .observedSent true) 200000000000 .none]

section Sample

variable {world : Outbox.World} {before after : SendOutboxState} {process now : ℕ}

/-- The document of the sample and who opened it. -/
structure Shows (world : Outbox.World) (state : SendOutboxState) (processes : List (ℕ × String)) :
    Prop where
  document : world.document = some state
  processes : world.processes = processes

theorem Shows.requested {processes : List (ℕ × String)} (h : Shows world before processes)
    (hprocess : processes.lookup process = some "account") {request : Request}
    (hoperation : request.operation now before = (.ok (), after)) (hchanged : after ≠ before)
    (hbefore : before.validate "account" = .ok ()) (hafter : after.validate "account" = .ok ()) :
    Shows (Outbox.step sampleDocumentBytes world (.requested process request now .none)) after
      processes := by
  have hsubmit : Outbox.submit sampleDocumentBytes (some before) "account" request now .none =
      (.ok (), some after) :=
    Outbox.transaction_writes sampleDocumentBytes hoperation hchanged hbefore hafter
      sampleDocument_small
  have hlookup : world.processes.lookup process = some "account" := by
    rw [h.processes, hprocess]
  simp only [Outbox.step, hlookup, h.document, hsubmit]
  exact ⟨rfl, h.processes⟩

theorem Shows.opened {processes : List (ℕ × String)} (h : Shows world before processes)
    (hrecover : (before.recover now).2 = after) (hchanged : after ≠ before)
    (hbefore : before.validate "account" = .ok ()) (hafter : after.validate "account" = .ok ()) :
    Shows (Outbox.step sampleDocumentBytes world (.opened process "account" now .none)) after
      ((process, "account") :: processes) := by
  have hopen : Outbox.openOutbox sampleDocumentBytes (some before) "account" now .none =
      (.ok (before.recover now).1, some after) := by
    rw [Outbox.openOutbox, if_neg (by decide)]
    exact Outbox.transaction_writes sampleDocumentBytes (by simp [hrecover]) hchanged hbefore hafter
      sampleDocument_small
  simp only [Outbox.step, h.document, hopen]
  refine ⟨rfl, ?_⟩
  rw [← h.processes]
  rfl

theorem sampleMarked_shows :
    Shows (execute (Outbox.step sampleDocumentBytes) .initial sampleMarked)
      (parkedOutbox sampleEntry) [(1, "account"), (0, "account")] := by
  have hreservable : Reservable sampleEntry := ⟨sampleEntry_valid, rfl, rfl, rfl⟩
  have hstart : Shows (Outbox.step sampleDocumentBytes .initial
      (.opened 0 "account" 1000000000 .none)) emptyOutbox [(0, "account")] := by
    have hopen : Outbox.openOutbox sampleDocumentBytes none "account" 1000000000 .none =
        (.ok (emptyOutbox.recover 1000000000).1, some emptyOutbox) := by
      decide
    simp only [Outbox.step, Outbox.World.initial, hopen]
    exact ⟨rfl, rfl⟩
  have hreserve : (Request.reserve sampleEntry 3600000000000 3).operation 1000000000 emptyOutbox =
      (.ok (), reservedOutbox sampleEntry) := Outbox.refusable_eq_ok.mpr hreservable.reserve
  have hmark : (Request.markAttempted sampleEntry.idempotencyKey).operation 1000000000
      (reservedOutbox sampleEntry) = (.ok (), attemptedOutbox sampleEntry) :=
    Outbox.refusable_eq_ok.mpr hreservable.mark
  have hempty : emptyOutbox.validate "account" = .ok () := by decide
  have hreserved : reservedOutbox sampleEntry ≠ emptyOutbox := by
    intro hsame
    have hflight := congrArg SendOutboxState.inFlight hsame
    cases hflight
  have hattempted : attemptedOutbox sampleEntry ≠ reservedOutbox sampleEntry := by
    intro hsame
    have hflight := Option.some.inj (congrArg SendOutboxState.inFlight hsame)
    have hmarked := congrArg OutboxEntry.attemptedAtUnixNanoseconds hflight
    cases hmarked
  have hparked : parkedOutbox sampleEntry ≠ attemptedOutbox sampleEntry := by
    intro hsame
    have hflight := congrArg SendOutboxState.inFlight hsame
    cases hflight
  rw [sampleMarked, execute_cons, execute_cons, execute_cons, execute_cons, execute_nil]
  exact (((hstart.requested rfl hreserve hreserved hempty hreservable.reservedOutbox_valid).requested
    rfl hmark hattempted hreservable.reservedOutbox_valid
    hreservable.attemptedOutbox_valid).opened (attemptedOutbox_recover sampleEntry) hparked
    hreservable.attemptedOutbox_valid hreservable.parkedOutbox_valid)

theorem parkedOutbox_resolves (entry : OutboxEntry) :
    (parkedOutbox entry).resolvePending entry.idempotencyKey .observedSent true 200000000000 =
      (.ok (), sentOutbox entry) := by
  simp [SendOutboxState.resolvePending, parkedOutbox, parkedEntry, sentOutbox,
    SendOutboxState.pushCompletion, reservedOutbox, emptyOutbox, SendOutboxState.new, saturatingAdd,
    Outbox.maximumCompletionHistory, Outbox.SendCompletionKind.healthy,
    Outbox.SendCircuitBreaker.recordSuccess]

theorem sampleReconciled_shows :
    Shows (execute (Outbox.step sampleDocumentBytes) .initial (sampleMarked ++ sampleReconciled))
      (sentOutbox sampleEntry) [(1, "account"), (0, "account")] := by
  have hreservable : Reservable sampleEntry := ⟨sampleEntry_valid, rfl, rfl, rfl⟩
  have hsent : (sentOutbox sampleEntry).validate "account" = .ok () :=
    sampleOutbox_valid sampleEntry rfl rfl (Nat.zero_le _) le_rfl rfl (by
      simp [SendOutboxState.unresolved, sentOutbox, parkedOutbox])
  have hchanged : sentOutbox sampleEntry ≠ parkedOutbox sampleEntry := by
    intro hsame
    have hpending := congrArg SendOutboxState.pendingReconciliation hsame
    cases hpending
  have hresolve : (Request.resolvePending sampleEntry.idempotencyKey .observedSent true).operation
      200000000000 (parkedOutbox sampleEntry) = (.ok (), sentOutbox sampleEntry) :=
    Outbox.refusable_eq_ok.mpr (parkedOutbox_resolves sampleEntry)
  rw [execute_append, sampleReconciled, execute_cons, execute_nil]
  exact sampleMarked_shows.requested rfl hresolve hchanged hreservable.parkedOutbox_valid hsent

theorem Shows.current {state : SendOutboxState} {processes : List (ℕ × String)}
    (h : Shows world state processes) : world.current = state := by
  rw [Outbox.World.current, h.document]
  rfl

theorem recallMoment_parked (entry : OutboxEntry) :
    recallMoment (parkedOutbox entry) entry.idempotencyKey =
      some (entry.conversationId, some 1000000000) := by
  simp [recallMoment, parkedOutbox, parkedEntry]

theorem recallMoment_sent (entry : OutboxEntry) :
    recallMoment (sentOutbox entry) entry.idempotencyKey =
      some (entry.conversationId, some 200000000000) := by
  simp [recallMoment, sentOutbox, parkedEntry, Outbox.completion, recordMoment]

end Sample

end GreenBubbles.Send
