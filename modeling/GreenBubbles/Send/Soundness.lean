import GreenBubbles.Send.Adapter

/-! # The invariant of the adapter's runs

One reservation holds a key for ever, an attempt is durable before Return can
be pressed under it, and what the log records agrees with the calls that remain.
-/
namespace GreenBubbles.Send

open Library.Runs
open Connector (ActionDraft)
open Outbox (Changes Closes Coupled Fault OutboxCompletion OutboxEntry Request SameView
  SendCompletionKind SendFailureCode SendOutboxState Single closings closings_nil)
open Outbox.SendOutboxState (Admits)

namespace Attempt

def key (attempt : Attempt) : String := attempt.capability.idempotencyKey

/-- The reservation was granted to this call. -/
def Held (attempt : Attempt) : Prop := attempt.phase ≠ .minted

/-- Return may still be pressed without a further transaction. -/
def MayPress (attempt : Attempt) : Prop :=
  attempt.capability.permitSend = true ∧
    (attempt.phase = .ready ∨ attempt.job = .queued ∨ attempt.job = .running)

def HasPressed (attempt : Attempt) : Prop :=
  attempt.capability.permitSend = true ∧
    (attempt.job = .pressed ∨ ∃ outcome, attempt.job = .replied outcome ∧ outcome.attempted = true)

end Attempt

namespace World

def state (world : World) : SendOutboxState := world.outbox.current

/-- No call may still press Return under the key, and none can begin to. -/
structure Spent (world : World) (key : String) : Prop where
  known : key ∈ world.state.reservedIdempotencyKeys
  closed : ∀ entry ∈ world.state.unresolved, entry.idempotencyKey ≠ key
  finished : ∀ process attempt, world.attempts process = some attempt → attempt.Held →
    attempt.key = key → ¬ attempt.MayPress

end World

/-- The clock values of an entry come from one reading of its adapter's clock. -/
structure Timed (adapter : SendAdapter) (entry : OutboxEntry) : Prop where
  attempted : attemptedAt entry = entry.reservedAtUnixNanoseconds
  deadline : entry.deadlineUnixNanoseconds = saturatingAdd 128 entry.reservedAtUnixNanoseconds
    (SendAdapterConfig.secondsToNanoseconds adapter.config.capabilityValiditySeconds)

/-- The grace of the configuration has elapsed at `now`. -/
def Late (adapter : SendAdapter) (entry : OutboxEntry) (now : ℕ) : Prop :=
  SendAdapterConfig.secondsToNanoseconds adapter.config.reconciliationGraceSeconds ≤
    now - entry.reservedAtUnixNanoseconds

/-- What an attempt is to the document it reserved its key in. -/
structure Attempt.Sound (adapter : SendAdapter) (state : SendOutboxState) (attempt : Attempt) :
    Prop where
  expires : attempt.capability.validUntilUnixNanoseconds =
    saturatingAdd 128 attempt.capability.issuedAtUnixNanoseconds
      (SendAdapterConfig.secondsToNanoseconds adapter.config.capabilityValiditySeconds)
  quiet : attempt.phase = .minted ∨ attempt.phase = .reserved → attempt.job = .idle
  answered : ∀ outcome, attempt.phase = .answered (.ok outcome) → attempt.job = .replied outcome
  known : attempt.Held → attempt.key ∈ state.reservedIdempotencyKeys
  reservation : attempt.Held → ∀ entry ∈ state.unresolved, entry.idempotencyKey = attempt.key →
    entry.permitSend = attempt.capability.permitSend ∧
      entry.reservedAtUnixNanoseconds = attempt.capability.issuedAtUnixNanoseconds
  /-- The attempt is durable before Return can be pressed. -/
  marked : attempt.Held → attempt.MayPress ∨ attempt.HasPressed → ∀ entry ∈ state.unresolved,
    entry.idempotencyKey = attempt.key → entry.state ≠ .reserved

/-- The invariant of a run. Keys in `retired` were spent when the log was `base`. -/
structure Sound (adapter : SendAdapter) (base : List Observation) (retired : String → Prop)
    (world : World) : Prop where
  coupled : Coupled world.outbox.current world.outbox.history
  slot : ∀ entry ∈ world.state.unresolved,
    entry.idempotencyKey ∈ world.state.reservedIdempotencyKeys ∧ Timed adapter entry
  inFlight : ∀ entry, world.state.inFlight = some entry → entry.state ≠ .awaitingReconciliation
  attempts : ∀ process attempt, world.attempts process = some attempt →
    attempt.Sound adapter world.state
  distinct : ∀ process other attempt attempt', world.attempts process = some attempt →
    world.attempts other = some attempt' → attempt.Held → attempt'.Held →
    attempt.key = attempt'.key → process = other
  decided : ∀ process reconciliation, world.reconciliations process = some reconciliation →
    reconciliation.kind = .observedFailed →
    reconciliation.idempotencyKey ∈ world.state.reservedIdempotencyKeys ∧
      ∀ entry ∈ world.state.unresolved,
        entry.idempotencyKey = reconciliation.idempotencyKey →
        Late adapter entry reconciliation.now
  pressed : ∀ capability, .pressed capability ∈ world.log → ∃ process attempt,
    world.attempts process = some attempt ∧ attempt.Held ∧ attempt.capability = capability ∧
      attempt.HasPressed
  records : ∀ entry record, .closed entry record ∈ world.log →
    record.idempotencyKey = entry.idempotencyKey ∧
      entry.idempotencyKey ∈ world.state.reservedIdempotencyKeys ∧
      ∀ other ∈ world.state.unresolved, other.idempotencyKey ≠ entry.idempotencyKey
  failed : ∀ entry record, .closed entry record ∈ world.log →
    record.completion = .observedFailed → record.reconciledByReplica = false →
    ∀ process attempt, world.attempts process = some attempt → attempt.Held →
      attempt.key = entry.idempotencyKey → ¬ attempt.MayPress ∧ ¬ attempt.HasPressed
  reconciled : ∀ entry record, .closed entry record ∈ world.log →
    record.completion = .observedFailed → record.reconciledByReplica = true →
    Timed adapter entry ∧ Late adapter entry record.completedAtUnixNanoseconds
  spent : ∀ key, retired key → world.Spent key
  added : ∃ added, world.log = added ++ base ∧
    ∀ capability, .pressed capability ∈ added → ¬ retired capability.idempotencyKey

variable {adapter : SendAdapter} {base : List Observation} {retired : String → Prop}

theorem Sound.initial : Sound adapter [] (fun _ => False) .initial := by
  have hcoupled : Coupled World.initial.outbox.current World.initial.outbox.history :=
    Outbox.coupled_initial
  refine ⟨hcoupled, ?_, ?_, ?_, ?_, ?_, ?_, ?_, ?_, ?_, ?_, ?_⟩
  all_goals
    simp [World.initial, World.state, Outbox.World.initial, Outbox.World.current,
      SendOutboxState.new, SendOutboxState.unresolved]

theorem World.setAttempt_some {world : World} {process other : ℕ} {next : Option Attempt}
    {attempt : Attempt} :
    (world.setAttempt process next).attempts other = some attempt ↔
      (other = process ∧ next = some attempt) ∨
        (other ≠ process ∧ world.attempts other = some attempt) := by
  by_cases h : other = process
  · simp [World.setAttempt, h]
  · simp [World.setAttempt, h]

/-- Neither the call that leaves nor the one that enters holds a reservation. -/
theorem Sound.setUnheld {world : World} {process : ℕ} {next : Option Attempt}
    (h : Sound adapter base retired world)
    (hbefore : ∀ attempt, world.attempts process = some attempt → ¬ attempt.Held)
    (hafter : ∀ attempt, next = some attempt →
      ¬ attempt.Held ∧ attempt.Sound adapter world.state) :
    Sound adapter base retired (world.setAttempt process next) := by
  have hheld : ∀ other attempt, (world.setAttempt process next).attempts other = some attempt →
      attempt.Held → world.attempts other = some attempt := by
    intro other attempt hother hheld
    obtain ⟨-, hnext⟩ | ⟨-, hold⟩ := World.setAttempt_some.mp hother
    · exact absurd hheld (hafter attempt hnext).1
    · exact hold
  refine ⟨h.coupled, h.slot, h.inFlight, ?_, ?_, h.decided, ?_, h.records, ?_, h.reconciled, ?_,
    h.added⟩
  · intro other attempt hother
    obtain ⟨-, hnext⟩ | ⟨-, hold⟩ := World.setAttempt_some.mp hother
    · exact (hafter attempt hnext).2
    · exact h.attempts other attempt hold
  · intro first second attempt attempt' hfirst hsecond hheld₁ hheld₂
    exact h.distinct first second attempt attempt' (hheld _ _ hfirst hheld₁)
      (hheld _ _ hsecond hheld₂) hheld₁ hheld₂
  · intro capability hpressed
    obtain ⟨other, attempt, hother, hheldother, hcapability⟩ := h.pressed capability hpressed
    refine ⟨other, attempt, World.setAttempt_some.mpr (.inr ⟨?_, hother⟩), hheldother, hcapability⟩
    rintro rfl
    exact hbefore attempt hother hheldother
  · intro entry record hrecord hkind hreconciled other attempt hother hheldother
    exact h.failed entry record hrecord hkind hreconciled other attempt
      (hheld other attempt hother hheldother) hheldother
  · intro key hkey
    have hspent := h.spent key hkey
    exact ⟨hspent.known, hspent.closed, fun other attempt hother hheldother =>
      hspent.finished other attempt (hheld other attempt hother hheldother) hheldother⟩

/-- How a call moves on while its reservation stands. -/
structure Attempt.Moves (state : SendOutboxState) (before after : Attempt) : Prop where
  capability : after.capability = before.capability
  held : after.Held
  /-- The right to press comes from the mark of the entry under its key. -/
  press : after.MayPress → (before.Held ∧ before.MayPress) ∨
    ∃ entry ∈ state.unresolved, entry.idempotencyKey = before.key
  hasPressed : before.Held → before.HasPressed → after.HasPressed
  pressed : after.HasPressed → before.Held ∧ (before.HasPressed ∨ before.MayPress)

theorem Sound.moveAttempt {world : World} {process : ℕ} {before after : Attempt}
    (h : Sound adapter base retired world) (hprocess : world.attempts process = some before)
    (hmoves : before.Moves world.state after) (hsound : after.Sound adapter world.state)
    (hdistinct : ∀ other attempt, world.attempts other = some attempt → attempt.Held →
      attempt.key = before.key → other = process) :
    Sound adapter base retired (world.setAttempt process (some after)) := by
  have hkey : after.key = before.key := congrArg (·.idempotencyKey) hmoves.capability
  have hmay : ∀ key, (∀ entry ∈ world.state.unresolved, entry.idempotencyKey ≠ key) →
      (before.Held → before.key = key → ¬ before.MayPress) → after.key = key →
      ¬ after.MayPress := by
    intro key hclosed hbefore hafter hpress
    rw [hkey] at hafter
    obtain ⟨hheld, hmaypress⟩ | ⟨entry, hentry, hentrykey⟩ := hmoves.press hpress
    · exact hbefore hheld hafter hmaypress
    · exact hclosed entry hentry (hentrykey.trans hafter)
  refine ⟨h.coupled, h.slot, h.inFlight, ?_, ?_, h.decided, ?_, h.records, ?_, h.reconciled, ?_,
    h.added⟩
  · intro other attempt hother
    obtain ⟨-, hnext⟩ | ⟨-, hold⟩ := World.setAttempt_some.mp hother
    · obtain rfl := Option.some.inj hnext
      exact hsound
    · exact h.attempts other attempt hold
  · intro first second attempt attempt' hfirst hsecond hheld hheld' hkeys
    obtain ⟨rfl, hnext⟩ | ⟨hne, hold⟩ := World.setAttempt_some.mp hfirst <;>
      obtain ⟨rfl, hnext'⟩ | ⟨hne', hold'⟩ := World.setAttempt_some.mp hsecond
    · rfl
    · obtain rfl := Option.some.inj hnext
      exact absurd (hdistinct second attempt' hold' hheld' (hkeys.symm.trans hkey)) hne'
    · obtain rfl := Option.some.inj hnext'
      exact absurd (hdistinct first attempt hold hheld (hkeys.trans hkey)) hne
    · exact h.distinct first second attempt attempt' hold hold' hheld hheld' hkeys
  · intro capability hpressed
    obtain ⟨other, attempt, hother, hheld, rfl, hhas⟩ := h.pressed capability hpressed
    by_cases hsame : other = process
    · subst hsame
      obtain rfl := Option.some.inj (hprocess.symm.trans hother)
      exact ⟨other, after, World.setAttempt_some.mpr (.inl ⟨rfl, rfl⟩), hmoves.held,
        hmoves.capability, hmoves.hasPressed hheld hhas⟩
    · exact ⟨other, attempt, World.setAttempt_some.mpr (.inr ⟨hsame, hother⟩), hheld, rfl, hhas⟩
  · intro entry record hrecord hkind hreconciled other attempt hother hheld hattempt
    have hfailed := h.failed entry record hrecord hkind hreconciled
    obtain ⟨rfl, hnext⟩ | ⟨-, hold⟩ := World.setAttempt_some.mp hother
    · obtain rfl := Option.some.inj hnext
      refine ⟨hmay _ (h.records entry record hrecord).2.2
        (fun hbefore hkeys => (hfailed other before hprocess hbefore hkeys).1) hattempt, ?_⟩
      intro hpressed
      obtain ⟨hbefore, hcause⟩ := hmoves.pressed hpressed
      have hnot := hfailed other before hprocess hbefore (hkey.symm.trans hattempt)
      exact hcause.elim hnot.2 hnot.1
    · exact hfailed other attempt hold hheld hattempt
  · intro key hretired
    have hspent := h.spent key hretired
    refine ⟨hspent.known, hspent.closed, ?_⟩
    intro other attempt hother hheld hattempt
    obtain ⟨rfl, hnext⟩ | ⟨-, hold⟩ := World.setAttempt_some.mp hother
    · obtain rfl := Option.some.inj hnext
      exact hmay key hspent.closed (fun hbefore hkeys =>
        hspent.finished other before hprocess hbefore hkeys) hattempt
    · exact hspent.finished other attempt hold hheld hattempt

theorem Sound.press {world : World} {process : ℕ} {attempt : Attempt}
    (h : Sound adapter base retired world) (hprocess : world.attempts process = some attempt)
    (hheld : attempt.Held) (hpressed : attempt.HasPressed)
    (hretired : ¬ retired attempt.key) :
    Sound adapter base retired { world with log := .pressed attempt.capability :: world.log } := by
  have hlog : ∀ {entry record},
      Observation.closed entry record ∈ Observation.pressed attempt.capability :: world.log →
      Observation.closed entry record ∈ world.log := by
    intro entry record hmem
    simpa using hmem
  obtain ⟨added, hadded, hkeys⟩ := h.added
  refine ⟨h.coupled, h.slot, h.inFlight, h.attempts, h.distinct, h.decided, ?_,
    fun entry record hrecord => h.records entry record (hlog hrecord),
    fun entry record hrecord => h.failed entry record (hlog hrecord),
    fun entry record hrecord => h.reconciled entry record (hlog hrecord), ?_,
    .pressed attempt.capability :: added, ?_, ?_⟩
  · intro capability hmem
    obtain hnew | hold := List.mem_cons.mp hmem
    · obtain rfl := Observation.pressed.inj hnew
      exact ⟨process, attempt, hprocess, hheld, rfl, hpressed⟩
    · exact h.pressed capability hold
  · exact fun key hkey => ⟨(h.spent key hkey).known, (h.spent key hkey).closed,
      (h.spent key hkey).finished⟩
  · simp only [hadded, List.cons_append]
  · intro capability hmem
    obtain hnew | hold := List.mem_cons.mp hmem
    · obtain rfl := Observation.pressed.inj hnew
      exact hretired
    · exact hkeys capability hold

/-- How a transaction changes the document: entries keep their attempts or come
under fresh keys, and what it closes was never pressed or is late. -/
structure Follows (adapter : SendAdapter) (world : World) (after : SendOutboxState) : Prop where
  slot : ∀ entry ∈ after.unresolved,
    entry.idempotencyKey ∈ after.reservedIdempotencyKeys ∧ Timed adapter entry
  inFlight : ∀ entry, after.inFlight = some entry → entry.state ≠ .awaitingReconciliation
  keys : world.state.reservedIdempotencyKeys ⊆ after.reservedIdempotencyKeys
  entries : ∀ entry ∈ after.unresolved,
    entry.idempotencyKey ∉ world.state.reservedIdempotencyKeys ∨
    ∃ old ∈ world.state.unresolved, old.idempotencyKey = entry.idempotencyKey ∧
      old.permitSend = entry.permitSend ∧
      old.reservedAtUnixNanoseconds = entry.reservedAtUnixNanoseconds ∧
      (entry.state = .reserved → old.state = .reserved)
  closed : ∀ entry record, (entry, record) ∈ closings world.state after →
    entry ∈ world.state.unresolved ∧ record.idempotencyKey = entry.idempotencyKey ∧
      (∀ other ∈ after.unresolved, other.idempotencyKey ≠ entry.idempotencyKey) ∧
      (record.completion = .observedFailed → record.reconciledByReplica = false →
        ∀ process attempt, world.attempts process = some attempt → attempt.Held →
          attempt.key = entry.idempotencyKey → ¬ attempt.MayPress ∧ ¬ attempt.HasPressed) ∧
      (record.completion = .observedFailed → record.reconciledByReplica = true →
        Late adapter entry record.completedAtUnixNanoseconds)

/-- An entry under a known key was there before. -/
theorem Follows.old {world : World} {after : SendOutboxState} (h : Follows adapter world after)
    {entry : OutboxEntry} (hentry : entry ∈ after.unresolved)
    (hknown : entry.idempotencyKey ∈ world.state.reservedIdempotencyKeys) :
    ∃ old ∈ world.state.unresolved, old.idempotencyKey = entry.idempotencyKey ∧
      old.permitSend = entry.permitSend ∧
      old.reservedAtUnixNanoseconds = entry.reservedAtUnixNanoseconds ∧
      (entry.state = .reserved → old.state = .reserved) :=
  (h.entries entry hentry).resolve_left (not_not.mpr hknown)

/-- A key that left the document does not come back. -/
theorem Follows.stays_closed {world : World} {after : SendOutboxState}
    (h : Follows adapter world after) {key : String}
    (hknown : key ∈ world.state.reservedIdempotencyKeys)
    (hclosed : ∀ entry ∈ world.state.unresolved, entry.idempotencyKey ≠ key) :
    ∀ entry ∈ after.unresolved, entry.idempotencyKey ≠ key := by
  rintro entry hentry rfl
  obtain ⟨old, hold, hkey, -⟩ := h.old hentry hknown
  exact hclosed old hold hkey

theorem Sound.follow {world : World} {outbox : Outbox.World}
    (h : Sound adapter base retired world) (hfollows : Follows adapter world outbox.current)
    (hcoupled : Coupled outbox.current outbox.history) :
    Sound adapter base retired (world.follow outbox) := by
  have hlog : ∀ {entry record}, Observation.closed entry record ∈ (world.follow outbox).log →
      (entry, record) ∈ closings world.state outbox.current ∨
        Observation.closed entry record ∈ world.log := by
    intro entry record hmem
    obtain hnew | hold := List.mem_append.mp hmem
    · obtain ⟨⟨entry', record'⟩, hclosing, hsame⟩ := List.mem_map.mp hnew
      obtain ⟨rfl, rfl⟩ := Observation.closed.inj hsame
      exact .inl hclosing
    · exact .inr hold
  have hpressed : ∀ {capability}, Observation.pressed capability ∈ (world.follow outbox).log →
      Observation.pressed capability ∈ world.log := by
    intro capability hmem
    obtain hnew | hold := List.mem_append.mp hmem
    · obtain ⟨closing, -, hsame⟩ := List.mem_map.mp hnew
      cases hsame
    · exact hold
  refine ⟨hcoupled, hfollows.slot, hfollows.inFlight, ?_, h.distinct, ?_,
    fun capability hmem => h.pressed capability (hpressed hmem), ?_, ?_, ?_, ?_, ?_⟩
  · intro process attempt hprocess
    have hattempt := h.attempts process attempt hprocess
    refine ⟨hattempt.expires, hattempt.quiet, hattempt.answered,
      fun hheld => hfollows.keys (hattempt.known hheld), ?_, ?_⟩
    · intro hheld entry hentry hkey
      obtain ⟨old, hold, holdkey, hpermit, htime, -⟩ :=
        hfollows.old hentry (hkey ▸ hattempt.known hheld)
      rw [← hpermit, ← htime]
      exact hattempt.reservation hheld old hold (holdkey.trans hkey)
    · intro hheld hright entry hentry hkey hreserved
      obtain ⟨old, hold, holdkey, -, -, hstate⟩ :=
        hfollows.old hentry (hkey ▸ hattempt.known hheld)
      exact hattempt.marked hheld hright old hold (holdkey.trans hkey) (hstate hreserved)
  · intro process reconciliation hprocess hkind
    obtain ⟨hknown, hlate⟩ := h.decided process reconciliation hprocess hkind
    refine ⟨hfollows.keys hknown, ?_⟩
    intro entry hentry hkey
    obtain ⟨old, hold, holdkey, -, htime, -⟩ := hfollows.old hentry (hkey ▸ hknown)
    have hold' := hlate old hold (holdkey.trans hkey)
    rw [Late, htime] at hold'
    exact hold'
  · intro entry record hmem
    obtain hnew | hold := hlog hmem
    · obtain ⟨hentry, hkey, hothers, -, -⟩ := hfollows.closed entry record hnew
      exact ⟨hkey, hfollows.keys (h.slot entry hentry).1, hothers⟩
    · obtain ⟨hkey, hknown, hothers⟩ := h.records entry record hold
      exact ⟨hkey, hfollows.keys hknown, hfollows.stays_closed hknown hothers⟩
  · intro entry record hmem hkind hreconciled
    obtain hnew | hold := hlog hmem
    · exact (hfollows.closed entry record hnew).2.2.2.1 hkind hreconciled
    · exact h.failed entry record hold hkind hreconciled
  · intro entry record hmem hkind hreconciled
    obtain hnew | hold := hlog hmem
    · obtain ⟨hentry, -, -, -, hlate⟩ := hfollows.closed entry record hnew
      exact ⟨(h.slot entry hentry).2, hlate hkind hreconciled⟩
    · exact h.reconciled entry record hold hkind hreconciled
  · intro key hkey
    have hspent := h.spent key hkey
    exact ⟨hfollows.keys hspent.known, hfollows.stays_closed hspent.known hspent.closed,
      hspent.finished⟩
  · obtain ⟨added, hadded, hkeys⟩ := h.added
    refine ⟨(closings world.state outbox.current).map (fun closing => .closed closing.1 closing.2) ++
      added, ?_, ?_⟩
    · rw [List.append_assoc, ← hadded]
      rfl
    · intro capability hmem
      obtain hnew | hold := List.mem_append.mp hmem
      · obtain ⟨closing, -, hsame⟩ := List.mem_map.mp hnew
        cases hsame
      · exact hkeys capability hold

/-! What each transaction does to a sound world -/

theorem Follows.same {world : World} {after : SendOutboxState}
    (h : Sound adapter base retired world) (hview : SameView world.state after) :
    Follows adapter world after := by
  have hclosings : closings world.state after = [] := closings_nil hview.completed.symm
  refine ⟨?_, ?_, ?_, ?_, ?_⟩
  · rw [← hview.unresolved, ← hview.keys]
    exact h.slot
  · rw [← hview.inFlight]
    exact h.inFlight
  · rw [← hview.keys]
  · rw [← hview.unresolved]
    exact fun entry hentry => .inr ⟨entry, hentry, rfl, rfl, rfl, id⟩
  · rw [hclosings]
    intro entry record hmem
    cases hmem

theorem Follows.changes {world : World} {after : SendOutboxState} {entry changed : OutboxEntry}
    (h : Sound adapter base retired world) (hchanges : Changes world.state after entry changed)
    (hflight : ∀ current, after.inFlight = some current → current.state ≠ .awaitingReconciliation)
    (hkey : changed.idempotencyKey = entry.idempotencyKey)
    (hpermit : changed.permitSend = entry.permitSend)
    (htime : changed.reservedAtUnixNanoseconds = entry.reservedAtUnixNanoseconds)
    (hstate : changed.state ≠ .reserved) (htimed : Timed adapter changed) :
    Follows adapter world after := by
  have hheld : entry ∈ world.state.unresolved := hchanges.mem
  have hclosings : closings world.state after = [] := closings_nil hchanges.completed
  refine ⟨?_, hflight, ?_, ?_, ?_⟩
  · intro current hcurrent
    rw [hchanges.now, List.mem_singleton] at hcurrent
    subst hcurrent
    rw [hchanges.keys, hkey]
    exact ⟨(h.slot entry hheld).1, htimed⟩
  · rw [hchanges.keys]
  · intro current hcurrent
    rw [hchanges.now, List.mem_singleton] at hcurrent
    subst hcurrent
    exact .inr ⟨entry, hheld, hkey.symm, hpermit.symm, htime.symm, fun hr => absurd hr hstate⟩
  · rw [hclosings]
    intro current record hmem
    cases hmem

theorem Follows.admits {world : World} {after : SendOutboxState} {entry : OutboxEntry}
    (hadmits : Admits world.state after entry) (htimed : Timed adapter entry) :
    Follows adapter world after := by
  have hclosings : closings world.state after = [] := closings_nil hadmits.completed
  refine ⟨?_, ?_, ?_, ?_, ?_⟩
  · intro current hcurrent
    rw [hadmits.now, List.mem_singleton] at hcurrent
    subst hcurrent
    rw [hadmits.keys]
    exact ⟨Finset.mem_insert_self _ _, ⟨htimed.attempted, htimed.deadline⟩⟩
  · intro current hcurrent
    rw [hadmits.inFlight] at hcurrent
    obtain rfl := Option.some.inj hcurrent
    simp
  · rw [hadmits.keys]
    exact Finset.subset_insert _ _
  · intro current hcurrent
    rw [hadmits.now, List.mem_singleton] at hcurrent
    subst hcurrent
    exact .inl hadmits.fresh
  · rw [hclosings]
    intro current record hmem
    cases hmem

theorem Follows.closes {world : World} {after : SendOutboxState} {entry : OutboxEntry}
    {record : OutboxCompletion} (hcloses : Closes world.state after entry record)
    (hkey : record.idempotencyKey = entry.idempotencyKey)
    (hfailed : record.completion = .observedFailed → record.reconciledByReplica = false →
      ∀ process attempt, world.attempts process = some attempt → attempt.Held →
        attempt.key = entry.idempotencyKey → ¬ attempt.MayPress ∧ ¬ attempt.HasPressed)
    (hlate : record.completion = .observedFailed → record.reconciledByReplica = true →
      Late adapter entry record.completedAtUnixNanoseconds) :
    Follows adapter world after := by
  have hidle : after.inFlight = none := by
    have hunresolved := hcloses.idle
    simp only [SendOutboxState.unresolved, List.append_eq_nil_iff, Option.toList_eq_nil_iff]
      at hunresolved
    exact hunresolved.1
  refine ⟨?_, ?_, ?_, ?_, ?_⟩
  · simp [hcloses.idle]
  · simp [hidle]
  · rw [hcloses.keys]
  · simp [hcloses.idle]
  · rw [hcloses.closings]
    intro current record' hmem
    obtain ⟨rfl, rfl⟩ := Prod.mk.inj (List.mem_singleton.mp hmem)
    refine ⟨hcloses.mem, hkey, ?_, hfailed, hlate⟩
    simp [hcloses.idle]

/-- A call that holds its reservation moves on without a transaction. -/
theorem Sound.moveHeld {world : World} {process : ℕ} {before after : Attempt}
    (h : Sound adapter base retired world) (hprocess : world.attempts process = some before)
    (hheld : before.Held) (hafter : after.Held)
    (hcapability : after.capability = before.capability)
    (hquiet : after.phase ≠ .reserved)
    (hanswered : ∀ outcome, after.phase = .answered (.ok outcome) → after.job = .replied outcome)
    (hpress : after.MayPress → before.MayPress) (hhas : before.HasPressed → after.HasPressed)
    (hpressed : after.HasPressed → before.HasPressed ∨ before.MayPress) :
    Sound adapter base retired (world.setAttempt process (some after)) := by
  have hbefore := h.attempts process before hprocess
  have hkey : after.key = before.key := congrArg (·.idempotencyKey) hcapability
  refine h.moveAttempt hprocess ⟨hcapability, hafter, fun hmay => .inl ⟨hheld, hpress hmay⟩,
    fun _ => hhas, fun hp => ⟨hheld, hpressed hp⟩⟩ ⟨?_, ?_, hanswered, ?_, ?_, ?_⟩ ?_
  · rw [hcapability]
    exact hbefore.expires
  · rintro (hminted | hreserved)
    · exact absurd hminted hafter
    · exact absurd hreserved hquiet
  · rw [hkey]
    exact fun _ => hbefore.known hheld
  · rw [hkey, hcapability]
    exact fun _ => hbefore.reservation hheld
  · rw [hkey]
    intro _ hright
    refine hbefore.marked hheld ?_
    obtain hmay | hp := hright
    · exact .inl (hpress hmay)
    · exact (hpressed hp).symm
  · intro other attempt hother hheldother hkeys
    exact h.distinct other process attempt before hother hprocess hheldother hheld hkeys

variable {documentBytes : SendOutboxState → ℕ}

theorem Sound.transacted {world : World} {event : Outbox.Event}
    (h : Sound adapter base retired world)
    (hfollows : Follows adapter world (Outbox.step documentBytes world.outbox event).current) :
    Sound adapter base retired (world.follow (Outbox.step documentBytes world.outbox event)) :=
  h.follow hfollows (Outbox.step_advances documentBytes world.outbox event h.coupled).1

theorem Sound.single {world : World} {before : SendOutboxState}
    (h : Sound adapter base retired world) (hview : SameView world.state before) :
    Single before :=
  h.coupled.single.of_view hview

theorem Sound.opened {world : World} (h : Sound adapter base retired world) (process : ℕ)
    (accountId : String) (now : ℕ) (fault : Fault) :
    Sound adapter base retired (world.follow
      (Outbox.step documentBytes world.outbox (.opened process accountId now fault))) := by
  refine h.transacted ?_
  obtain hsame | ⟨before, hview, hafter⟩ :=
    Outbox.opened_cases documentBytes world.outbox process accountId now fault
  · rw [hsame]
    exact .same h (.refl _)
  rw [hafter]
  cases SendOutboxState.recover_recovers (h.single hview) now with
  | idle hsame =>
    rw [hsame]
    exact .same h hview
  | parks entry hflight hattempted hidle hchanges =>
    have hchanges := hchanges.of_view hview
    have htimed := (h.slot entry hchanges.mem).2
    refine .changes h hchanges ?_ rfl rfl rfl (by simp) ⟨htimed.attempted, htimed.deadline⟩
    simp [hidle]
  | closes entry record hflight hunattempted hreconciled hkey hcloses =>
    have hcloses := hcloses.of_view hview
    refine .closes hcloses hkey ?_ (fun _ hr => by simp [hreconciled] at hr)
    -- An entry in flight that was not marked is a mere reservation.
    have hreserved : entry.state = .reserved := by
      have hflight' := h.inFlight entry (hview.inFlight.trans hflight)
      cases hstate : entry.state <;> simp_all
    have hheld : entry ∈ world.state.unresolved := hcloses.mem
    intro _ _ other attempt hother hheldother hattempt
    have hmarked := (h.attempts other attempt hother).marked hheldother
    exact ⟨fun hmay => hmarked (.inl hmay) entry hheld hattempt.symm hreserved,
      fun hp => hmarked (.inr hp) entry hheld hattempt.symm hreserved⟩

/-- What a granted request made of the document it was granted on. -/
theorem granted_cases {world : World} {process : ℕ} {request : Request} {now : ℕ} {fault : Fault}
    (hgranted : granted documentBytes world process request now fault = true) :
    ∃ before, SameView world.state before ∧ request.operation now before = (.ok (),
      (Outbox.step documentBytes world.outbox (.requested process request now fault)).current) := by
  obtain ⟨-, hrefused⟩ | hcases :=
    Outbox.requested_cases documentBytes world.outbox process request now fault
  · unfold granted at hgranted
    cases hprocess : world.outbox.processes.lookup process with
    | none => simp [hprocess] at hgranted
    | some accountId => simp [hprocess, hrefused accountId hprocess] at hgranted
  · exact hcases

theorem Sound.requested {world : World} {process : ℕ} {request : Request} {now : ℕ}
    {fault : Fault} (h : Sound adapter base retired world)
    (hfollows : ∀ before after, SameView world.state before →
      request.operation now before = (.ok (), after) → Follows adapter world after) :
    Sound adapter base retired (transact documentBytes world process request now fault) := by
  refine h.transacted ?_
  obtain ⟨hsame, -⟩ | ⟨before, hview, hoperation⟩ :=
    Outbox.requested_cases documentBytes world.outbox process request now fault
  · rw [hsame]
    exact .same h (.refl _)
  · exact hfollows before _ hview hoperation

/-- The call whose reservation was granted is the only one that holds its key. -/
theorem Sound.hold {world next : World} {process : ℕ} {capability : ActionCapabilityEnvelope}
    (h : Sound adapter base retired world) (hnext : Sound adapter base retired next)
    (hattempts : next.attempts = world.attempts)
    (hprocess : world.attempts process = some ⟨capability, .minted, .idle⟩)
    (hadmits : Admits world.state next.state capability.outboxEntry) :
    Sound adapter base retired
      (next.setAttempt process (some ⟨capability, .reserved, .idle⟩)) := by
  have hattempt := h.attempts process _ hprocess
  have hprocess' : next.attempts process = some ⟨capability, .minted, .idle⟩ := by
    rw [hattempts, hprocess]
  refine hnext.moveAttempt hprocess' ⟨rfl, by simp [Attempt.Held], ?_, ?_, ?_⟩
    ⟨hattempt.expires, fun _ => rfl, by simp, ?_, ?_, ?_⟩ ?_
  · rintro ⟨-, hright⟩
    simp at hright
  · exact fun hheld _ => absurd rfl hheld
  · rintro ⟨-, hright⟩
    simp at hright
  · intro _
    rw [hadmits.keys]
    exact Finset.mem_insert_self _ _
  · intro _ entry hentry _
    rw [hadmits.now, List.mem_singleton] at hentry
    subst hentry
    exact ⟨rfl, rfl⟩
  · rintro _ (⟨-, hright⟩ | ⟨-, hright⟩) <;> simp at hright
  · intro other attempt hother hheld hkey
    rw [hattempts] at hother
    have hknown := (h.attempts other attempt hother).known hheld
    rw [hkey] at hknown
    exact absurd hknown hadmits.fresh

theorem Sound.reserved {world : World} (h : Sound adapter base retired world) (process : ℕ)
    (fault : Fault) :
    Sound adapter base retired (reserved adapter documentBytes world process fault) := by
  unfold Send.reserved
  split
  case h_2 => exact h
  case h_1 capability job hprocess =>
    have hattempt := h.attempts process _ hprocess
    obtain rfl : job = .idle := hattempt.quiet (.inl rfl)
    have hadmits : ∀ before after window limit, SameView world.state before →
        Request.operation (.reserve capability.outboxEntry window limit)
          capability.issuedAtUnixNanoseconds before = (.ok (), after) →
        Admits world.state after capability.outboxEntry := by
      intro before after window limit hview hoperation
      have hadmits := SendOutboxState.reserve_admits (Outbox.refusable_eq_ok.mp hoperation)
      exact ⟨hview.unresolved.trans hadmits.idle, hadmits.inFlight, hadmits.now,
        hview.keys ▸ hadmits.fresh, hview.keys ▸ hadmits.keys,
        hadmits.completed.trans hview.completed.symm⟩
    have hnext : ∀ window limit, Sound adapter base retired (transact documentBytes world process
        (.reserve capability.outboxEntry window limit) capability.issuedAtUnixNanoseconds fault) :=
      fun window limit => h.requested fun before after hview hoperation =>
        .admits (hadmits before after window limit hview hoperation) ⟨rfl, hattempt.expires⟩
    dsimp only
    split_ifs with hgranted
    · obtain ⟨before, hview, hoperation⟩ := granted_cases hgranted
      exact h.hold (hnext _ _) rfl hprocess (hadmits before _ _ _ hview hoperation)
    · refine (hnext _ _).setUnheld ?_ (by simp)
      intro attempt hother
      obtain rfl := Option.some.inj (hprocess.symm.trans hother)
      exact not_not.mpr rfl

/-- A mark that is durable lets its call go on to the helper. -/
theorem Sound.becomeReady {world : World} {process : ℕ} {capability : ActionCapabilityEnvelope}
    {changed : OutboxEntry} (h : Sound adapter base retired world)
    (hprocess : world.attempts process = some ⟨capability, .reserved, .idle⟩)
    (hnow : world.state.unresolved = [changed])
    (hkey : changed.idempotencyKey = capability.idempotencyKey)
    (hstate : changed.state ≠ .reserved) :
    Sound adapter base retired
      (world.setAttempt process (some ⟨capability, .ready, .idle⟩)) := by
  have hattempt := h.attempts process _ hprocess
  have hheld : Attempt.Held ⟨capability, .reserved, .idle⟩ := by simp [Attempt.Held]
  have hmem : changed ∈ world.state.unresolved := by
    rw [hnow]
    exact List.mem_cons_self
  refine h.moveAttempt hprocess ⟨rfl, by simp [Attempt.Held],
    fun _ => .inr ⟨changed, hmem, hkey⟩, ?_, ?_⟩
    ⟨hattempt.expires, by simp, by simp, fun _ => hattempt.known hheld,
      fun _ => hattempt.reservation hheld, ?_⟩ ?_
  · rintro - ⟨-, hright⟩
    simp at hright
  · rintro ⟨-, hright⟩
    simp at hright
  · intro _ _ entry hentry _
    rw [hnow, List.mem_singleton] at hentry
    rw [hentry]
    exact hstate
  · intro other attempt hother hheldother hkeys
    exact h.distinct other process attempt _ hother hprocess hheldother hheld hkeys

theorem Sound.marked {world : World} (h : Sound adapter base retired world) (process : ℕ)
    (fault : Fault) :
    Sound adapter base retired (marked documentBytes world process fault) := by
  unfold Send.marked
  split
  case h_2 => exact h
  case h_1 capability job hprocess =>
    have hattempt := h.attempts process _ hprocess
    obtain rfl : job = .idle := hattempt.quiet (.inr rfl)
    have hheld : Attempt.Held ⟨capability, .reserved, .idle⟩ := by simp [Attempt.Held]
    have hchanges : ∀ before after, SameView world.state before →
        Request.operation (.markAttempted capability.idempotencyKey)
          capability.issuedAtUnixNanoseconds before = (.ok (), after) →
        ∃ changed, after.unresolved = [changed] ∧
          changed.idempotencyKey = capability.idempotencyKey ∧ changed.state ≠ .reserved ∧
          Follows adapter world after := by
      intro before after hview hoperation
      obtain ⟨entry, hkey, hpermit, hstate, hflight, hflight', hchanges⟩ :=
        SendOutboxState.markAttempted_changes (h.single hview)
          (Outbox.refusable_eq_ok.mp hoperation)
      have hchanges := hchanges.of_view hview
      -- The mark and the reservation carry the same reading of the clock.
      have htime := (hattempt.reservation hheld entry hchanges.mem hkey).2
      refine ⟨_, hchanges.now, hkey, by simp, .changes h hchanges ?_ rfl rfl rfl (by simp) ?_⟩
      · intro current hcurrent
        rw [hflight'] at hcurrent
        obtain rfl := Option.some.inj hcurrent
        simp
      · exact ⟨htime.symm, (h.slot entry hchanges.mem).2.deadline⟩
    have hnext : Sound adapter base retired (transact documentBytes world process
        (.markAttempted capability.idempotencyKey) capability.issuedAtUnixNanoseconds fault) :=
      h.requested fun before after hview hoperation => by
        obtain ⟨-, -, -, -, hfollows⟩ := hchanges before after hview hoperation
        exact hfollows
    split_ifs with hpermit
    · dsimp only
      by_cases hgranted : granted documentBytes world process
          (.markAttempted capability.idempotencyKey) capability.issuedAtUnixNanoseconds fault = true
      · obtain ⟨before, hview, hoperation⟩ := granted_cases hgranted
        obtain ⟨changed, hnow, hkey, hstate, -⟩ := hchanges before _ hview hoperation
        rw [if_pos hgranted]
        exact hnext.becomeReady hprocess hnow hkey hstate
      · rw [if_neg hgranted]
        refine hnext.moveHeld hprocess hheld (by simp [Attempt.Held]) rfl (by simp) (by simp) ?_ id
          ?_ <;> rintro ⟨-, hright⟩ <;> simp at hright
    · refine h.moveHeld hprocess hheld (by simp [Attempt.Held]) rfl (by simp) (by simp) ?_ id ?_
      · exact fun hmay => absurd hmay.1 hpermit
      · exact fun hp => absurd hp.1 hpermit

theorem Sound.called {world : World} (h : Sound adapter base retired world) (process : ℕ)
    (spawned : Bool) : Sound adapter base retired (called world process spawned) := by
  unfold Send.called
  split
  case h_2 => exact h
  case h_1 capability hprocess =>
    have hheld : Attempt.Held ⟨capability, .ready, .idle⟩ := by simp [Attempt.Held]
    cases spawned with
    | true =>
      refine h.moveHeld hprocess hheld (by simp [Attempt.Held]) rfl (by simp) (by simp) ?_ ?_ ?_
      · exact fun hmay => ⟨hmay.1, .inl rfl⟩
      · rintro ⟨-, hright⟩
        simp at hright
      · rintro ⟨-, hright⟩
        simp at hright
    | false =>
      refine h.moveHeld hprocess hheld (by simp [Attempt.Held]) rfl (by simp) (by simp) ?_ id ?_ <;>
        rintro ⟨-, hright⟩ <;> simp at hright

/-- A job exists only for a call that holds its reservation. -/
theorem Sound.held_of_job {world : World} {process : ℕ} {attempt : Attempt}
    (h : Sound adapter base retired world) (hprocess : world.attempts process = some attempt)
    (hjob : attempt.job ≠ .idle) : attempt.Held ∧ attempt.phase ≠ .reserved := by
  have hquiet := (h.attempts process attempt hprocess).quiet
  exact ⟨fun hminted => hjob (hquiet (.inl hminted)),
    fun hreserved => hjob (hquiet (.inr hreserved))⟩

/-- The helper makes a move on a job it has not yet answered. -/
theorem Sound.moveJob {world : World} {process : ℕ} {capability : ActionCapabilityEnvelope}
    {phase : Phase} {job next : Job} (h : Sound adapter base retired world)
    (hprocess : world.attempts process = some ⟨capability, phase, job⟩)
    (hidle : job ≠ .idle) (hreplied : ∀ outcome, job ≠ .replied outcome)
    (hpress : next = .queued ∨ next = .running → job = .queued ∨ job = .running)
    (hhas : capability.permitSend = true → job = .pressed →
      ∃ outcome, next = .replied outcome ∧ outcome.attempted = true)
    (hpressed : next = .pressed ∨ (∃ outcome, next = .replied outcome ∧ outcome.attempted = true) →
      job = .pressed ∨ job = .running) :
    Sound adapter base retired (world.setAttempt process (some ⟨capability, phase, next⟩)) := by
  obtain ⟨hheld, hreserved⟩ := h.held_of_job hprocess hidle
  refine h.moveHeld hprocess hheld hheld rfl hreserved ?_ ?_ ?_ ?_
  · intro outcome hphase
    exact absurd ((h.attempts process _ hprocess).answered outcome hphase) (hreplied outcome)
  · rintro ⟨hpermit, hready | hright⟩
    · exact ⟨hpermit, .inl hready⟩
    · exact ⟨hpermit, .inr (hpress hright)⟩
  · rintro ⟨hpermit, hright⟩
    obtain hjob | ⟨outcome, hjob, -⟩ := hright
    · exact ⟨hpermit, .inr (hhas hpermit hjob)⟩
    · exact absurd hjob (hreplied outcome)
  · rintro ⟨hpermit, hright⟩
    obtain hjob | hjob := hpressed hright
    · exact .inl ⟨hpermit, .inl hjob⟩
    · exact .inr ⟨hpermit, .inr (.inr hjob)⟩

theorem Sound.helperBegan {world : World} (h : Sound adapter base retired world)
    (process now : ℕ) (ready : Bool) :
    Sound adapter base retired (helperBegan world process now ready) := by
  unfold Send.helperBegan
  split
  case h_2 => exact h
  case h_1 capability phase hprocess =>
    refine h.moveJob hprocess (by simp) (by simp) (fun _ => .inl rfl) (by simp) ?_
    split_ifs <;> simp

theorem Sound.helperPressed {world : World} (h : Sound adapter base retired world) (process : ℕ) :
    Sound adapter base retired (helperPressed world process) := by
  unfold Send.helperPressed
  split
  case h_2 => exact h
  case h_1 capability phase hprocess =>
    split_ifs with hpermit
    · obtain ⟨hheld, hreserved⟩ := h.held_of_job hprocess (by simp)
      have hmay : Attempt.MayPress ⟨capability, phase, .running⟩ := ⟨hpermit, .inr (.inr rfl)⟩
      have hnext : Sound adapter base retired
          (world.setAttempt process (some ⟨capability, phase, .pressed⟩)) := by
        refine h.moveHeld hprocess hheld hheld rfl hreserved ?_ ?_ ?_ ?_
        · intro outcome hphase
          exact absurd ((h.attempts process _ hprocess).answered outcome hphase) (by simp)
        · exact fun _ => hmay
        · exact fun _ => ⟨hpermit, .inl rfl⟩
        · exact fun _ => .inr hmay
      refine hnext.press (World.setAttempt_some.mpr (.inl ⟨rfl, rfl⟩)) hheld
        ⟨hpermit, .inl rfl⟩ ?_
      exact fun hkey => (h.spent _ hkey).finished process _ hprocess hheld rfl hmay
    · exact h

theorem Sound.helperAnswered {world : World} (h : Sound adapter base retired world)
    (process : ℕ) (outcome : HelperSendOutcome) :
    Sound adapter base retired (helperAnswered world process outcome) := by
  unfold Send.helperAnswered
  split
  case h_2 => exact h
  case h_1 capability phase job hprocess =>
    split_ifs with hjob
    · obtain ⟨rfl, hattempted⟩ | ⟨rfl, hattempted⟩ := hjob
      · exact h.moveJob hprocess (by simp) (by simp) (by simp) (by simp) (fun _ => .inr rfl)
      · exact h.moveJob hprocess (by simp) (by simp) (by simp)
          (fun _ _ => ⟨outcome, rfl, hattempted⟩) (fun _ => .inl rfl)
    · exact h

theorem Sound.returned {world : World} (h : Sound adapter base retired world) (process : ℕ)
    (result : Except SendFailureCode HelperSendOutcome) :
    Sound adapter base retired (returned world process result) := by
  unfold Send.returned
  split
  case h_2 => exact h
  case h_1 capability job hprocess =>
    have hheld : Attempt.Held ⟨capability, .calling, job⟩ := by simp [Attempt.Held]
    have hmove : ∀ result : Except SendFailureCode HelperSendOutcome,
        (∀ outcome, result = .ok outcome → job = .replied outcome) →
        Sound adapter base retired
          (world.setAttempt process (some ⟨capability, .answered result, job⟩)) := by
      intro result hresult
      refine h.moveHeld hprocess hheld (by simp [Attempt.Held]) rfl (by simp) ?_ ?_ id .inl
      · intro outcome hphase
        exact hresult outcome (Phase.answered.inj hphase)
      · rintro ⟨hpermit, hready | hright⟩
        · cases hready
        · exact ⟨hpermit, .inr hright⟩
    cases result with
    | error failure => exact hmove _ (by simp)
    | ok outcome =>
      dsimp only
      split_ifs with hjob
      · refine hmove _ ?_
        rintro outcome' hsame
        obtain rfl := Except.ok.inj hsame
        exact hjob
      · exact h

theorem Sound.completed {world : World} (h : Sound adapter base retired world)
    (process elapsed : ℕ) (fault : Fault) :
    Sound adapter base retired (completed adapter documentBytes world process elapsed fault) := by
  unfold Send.completed
  split
  case h_2 => exact h
  case h_1 capability result job hprocess =>
    have hheld : Attempt.Held ⟨capability, .answered result, job⟩ := by simp [Attempt.Held]
    have hunreconciled := (settleDispatch_never_sent capability result).1
    have hnext : ∀ now threshold cooldown, Sound adapter base retired
        (transact documentBytes world process (.complete capability.idempotencyKey
          (settleDispatch capability result) threshold cooldown) now fault) := by
      intro now threshold cooldown
      refine h.requested fun before after hview hoperation => ?_
      obtain ⟨entry, hkey, hflight, hcompletes⟩ := SendOutboxState.complete_completes
        (h.single hview) (Outbox.refusable_eq_ok.mp hoperation)
      cases hcompletes with
      | parks hawaiting hidle hchanges =>
        have hchanges := hchanges.of_view hview
        have htimed := (h.slot entry hchanges.mem).2
        refine .changes h hchanges ?_ rfl rfl rfl (by simp) ⟨htimed.attempted, htimed.deadline⟩
        simp [hidle]
      | closes kind hclosed settled hcloses =>
        refine .closes (hcloses.of_view hview) rfl ?_ ?_
        · intro _ _ other attempt hother hheldother hattempt
          obtain rfl : other = process :=
            h.distinct other process attempt _ hother hprocess hheldother hheld
              (hattempt.trans hkey)
          obtain rfl := Option.some.inj (hprocess.symm.trans hother)
          -- A permitted call is closed only on the helper's word that Return was not pressed.
          have hjob : capability.permitSend = true →
              ∃ outcome, job = .replied outcome ∧ outcome.attempted = false := by
            intro hpermit
            obtain ⟨outcome, rfl, hnot⟩ := settleDispatch_closed hclosed hpermit
            exact ⟨outcome, (h.attempts other _ hprocess).answered outcome rfl, hnot⟩
          constructor
          · rintro ⟨hpermit, hright⟩
            obtain ⟨outcome, rfl, -⟩ := hjob hpermit
            simp at hright
          · rintro ⟨hpermit, hright⟩
            obtain ⟨outcome, rfl, hnot⟩ := hjob hpermit
            simp [hnot] at hright
        · intro _ hreconciled
          simp [Outbox.completion, hunreconciled] at hreconciled
    refine (hnext _ _ _).moveHeld hprocess hheld (by simp [Attempt.Held]) rfl (by simp) (by simp)
      ?_ id .inl
    rintro ⟨hpermit, hready | hright⟩
    · cases hready
    · exact ⟨hpermit, .inr hright⟩

theorem Sound.setReconciliation {world : World} {process : ℕ}
    {next : Option Reconciliation} (h : Sound adapter base retired world)
    (hnext : ∀ reconciliation, next = some reconciliation →
      reconciliation.kind = .observedFailed →
      reconciliation.idempotencyKey ∈ world.state.reservedIdempotencyKeys ∧
        ∀ entry ∈ world.state.unresolved,
          entry.idempotencyKey = reconciliation.idempotencyKey →
          Late adapter entry reconciliation.now) :
    Sound adapter base retired (world.setReconciliation process next) := by
  refine ⟨h.coupled, h.slot, h.inFlight, h.attempts, h.distinct, ?_, h.pressed, h.records,
    h.failed, h.reconciled,
    fun key hkey => ⟨(h.spent key hkey).known, (h.spent key hkey).closed, (h.spent key hkey).finished⟩,
    h.added⟩
  intro other reconciliation hother
  by_cases hsame : other = process
  · subst hsame
    have hother : next = some reconciliation := by
      simpa only [World.setReconciliation, Function.update_self] using hother
    exact hnext reconciliation hother
  · have hother : world.reconciliations other = some reconciliation := by
      simpa only [World.setReconciliation, Function.update_of_ne hsame] using hother
    exact h.decided other reconciliation hother

theorem Sound.observed {world : World} (h : Sound adapter base retired world) (process : ℕ)
    (observation : SendReconciliationObservation) (now : ℕ) :
    Sound adapter base retired (observed adapter world process observation now) := by
  unfold Send.observed
  split
  case h_2 => exact h
  case h_1 accountId entry hprocess hentry =>
    split
    case h_2 => exact h
    case h_1 kind hkind =>
      refine h.setReconciliation ?_
      intro reconciliation hsame hfailed
      obtain rfl := Option.some.inj hsame
      unfold SendAdapterConfig.parkedAttempt at hentry
      split at hentry
      case h_1 => cases hentry
      case h_2 found hfound =>
        split_ifs at hentry with hforeign
        obtain rfl := Except.ok.inj hentry
        have hkey : found.idempotencyKey = observation.idempotencyKey := by
          simpa using List.find?_some hfound
        obtain ⟨hidle, hpending⟩ :=
          h.coupled.single.parked (List.mem_of_find?_eq_some hfound)
        have hheld : world.state.unresolved = [found] := by
          rw [SendOutboxState.unresolved]
          change world.outbox.current.inFlight.toList ++ _ = _
          rw [hidle, Option.toList_none, List.nil_append]
          exact hpending
        have hmem : found ∈ world.state.unresolved := by
          rw [hheld]
          exact List.mem_cons_self
        obtain ⟨hknown, htimed⟩ := h.slot found hmem
        have hgrace : adapter.config.graceElapsed found now = true := by
          unfold SendAdapterConfig.reconciliationKind at hkind
          split_ifs at hkind with hsent hgrace
          · obtain rfl := Option.some.inj hkind
            cases hfailed
          · exact hgrace
        refine ⟨hkey ▸ hknown, ?_⟩
        intro current hcurrent _
        rw [hheld, List.mem_singleton] at hcurrent
        subst hcurrent
        rw [SendAdapterConfig.graceElapsed, decide_eq_true_eq, htimed.attempted] at hgrace
        exact hgrace

theorem Sound.resolved {world : World} (h : Sound adapter base retired world) (process : ℕ)
    (fault : Fault) :
    Sound adapter base retired (resolved documentBytes world process fault) := by
  unfold Send.resolved
  split
  case h_2 => exact h
  case h_1 key kind now hprocess =>
    have hnext : Sound adapter base retired
        (transact documentBytes world process (.resolvePending key kind true) now fault) := by
      refine h.requested fun before after hview hoperation => ?_
      obtain ⟨entry, record, hkey, hclosed, hreconciled, hcloses⟩ :=
        SendOutboxState.resolvePending_closes (h.single hview)
          (Outbox.refusable_eq_ok.mp hoperation)
      have hcloses := hcloses.of_view hview
      refine .closes hcloses rfl ?_ ?_
      · intro _ hunreconciled
        simp [Outbox.completion, hreconciled] at hunreconciled
      · intro hfailed _
        exact (h.decided process _ hprocess hfailed).2 entry hcloses.mem hkey
    exact hnext.setReconciliation (by simp)

theorem Sound.crashed {world : World} (h : Sound adapter base retired world) (process : ℕ) :
    Sound adapter base retired (crashed documentBytes world process) := by
  have hnext : Sound adapter base retired
      (world.follow (Outbox.step documentBytes world.outbox (.crashed process))) :=
    h.transacted (.same h (.refl _))
  unfold Send.crashed
  refine Sound.setReconciliation ?_ (by simp)
  cases hprocess : world.attempts process with
  | none =>
    refine hnext.setUnheld ?_ (by simp)
    intro attempt hother
    cases hprocess.symm.trans hother
  | some attempt =>
    by_cases hminted : attempt.phase = .minted
    · have hended : attempt.ended = none := by simp [Attempt.ended, hminted]
      rw [Option.bind_some, hended]
      refine hnext.setUnheld ?_ (by simp)
      intro other hother
      obtain rfl := Option.some.inj (hprocess.symm.trans hother)
      exact not_not.mpr hminted
    · have hended : attempt.ended = some { attempt with phase := .over } := by
        unfold Attempt.ended
        split
        · contradiction
        · rfl
      rw [Option.bind_some, hended]
      refine hnext.moveHeld hprocess hminted (by simp [Attempt.Held]) rfl (by simp) (by simp)
        ?_ id .inl
      rintro ⟨hpermit, hready | hright⟩
      · cases hready
      · exact ⟨hpermit, .inr hright⟩

theorem Sound.executed {world : World} (h : Sound adapter base retired world) (process : ℕ)
    (draft : ActionDraft) (approvalId : String) (profile : CalibrationBinding)
    (staged : Option StagedAttachment) (report : SendPrecheckReport) (now : ℕ) :
    Sound adapter base retired
      (executed adapter world process draft approvalId profile staged report now) := by
  unfold Send.executed
  split
  case h_2 => exact h
  case h_1 accountId hprocess hopened =>
    split_ifs with hpermitted
    · exact h
    split
    case h_1 => exact h
    case h_2 capability hcapability =>
      have hmints := SendAdapterConfig.mintCapability_ok hcapability
      refine h.setUnheld (fun attempt hother => ?_) ?_
      · rw [hprocess] at hother
        cases hother
      · intro attempt hsame
        obtain rfl := Option.some.inj hsame
        have hunheld : ¬ Attempt.Held ⟨capability, .minted, .idle⟩ := not_not.mpr rfl
        refine ⟨hunheld, ?_, fun _ => rfl, by simp, fun hheld => absurd hheld hunheld,
          fun hheld => absurd hheld hunheld, fun hheld => absurd hheld hunheld⟩
        rw [hmints.expires, hmints.issued]

theorem Sound.step {world : World} (h : Sound adapter base retired world) (event : Event) :
    Sound adapter base retired (step adapter documentBytes world event) := by
  cases event with
  | opened process now fault => exact h.opened process _ now fault
  | executed process draft approvalId profile staged report now =>
    exact h.executed process draft approvalId profile staged report now
  | reserved process fault => exact h.reserved process fault
  | marked process fault => exact h.marked process fault
  | called process spawned => exact h.called process spawned
  | helperBegan process now ready => exact h.helperBegan process now ready
  | helperPressed process => exact h.helperPressed process
  | helperAnswered process outcome => exact h.helperAnswered process outcome
  | returned process result => exact h.returned process result
  | completed process elapsed fault => exact h.completed process elapsed fault
  | observed process observation now => exact h.observed process observation now
  | resolved process fault => exact h.resolved process fault
  | crashed process => exact h.crashed process

theorem Sound.run {world : World} (h : Sound adapter base retired world) (events : List Event) :
    Sound adapter base retired (execute (Send.step adapter documentBytes) world events) :=
  execute_invariant (Send.step adapter documentBytes) (fun _ event hworld => hworld.step event)
    world events h

end GreenBubbles.Send
