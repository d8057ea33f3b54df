import GreenBubbles.Outbox.Slot

/-! # Where the record of a key is

A key is admitted once. Its entry is marked, parked or closed with a record, and
the record stays until later ones push it out of the history.
-/
namespace GreenBubbles.Outbox

open Library.Runs SendOutboxState

/-- What a granted request does to the unresolved entry and to the records. -/
inductive Moves (request : Request) (now : ℕ) (before after : SendOutboxState) : Prop
  | same (unresolved : after.unresolved = before.unresolved)
      (inFlight : after.inFlight = before.inFlight)
      (keys : after.reservedIdempotencyKeys = before.reservedIdempotencyKeys)
      (completions : after.completions = before.completions)
  | admits (entry : OutboxEntry) (window limit : ℕ)
      (asked : request = .reserve entry window limit) (idle : before.unresolved = [])
      (inFlight : after.inFlight = some { entry with state := .reserved })
      (unresolved : after.unresolved = [{ entry with state := .reserved }])
      (fresh : entry.idempotencyKey ∉ before.reservedIdempotencyKeys)
      (keys : after.reservedIdempotencyKeys =
        insert entry.idempotencyKey before.reservedIdempotencyKeys)
      (completions : after.completions = before.completions)
  | marks (entry : OutboxEntry) (asked : request = .markAttempted entry.idempotencyKey)
      (held : before.unresolved = [entry])
      (inFlight : after.inFlight = some { entry with
        state := .attempted, attemptedAtUnixNanoseconds := some now })
      (unresolved : after.unresolved = [{ entry with
        state := .attempted, attemptedAtUnixNanoseconds := some now }])
      (flown : before.inFlight = some entry)
      (keys : after.reservedIdempotencyKeys = before.reservedIdempotencyKeys)
      (completions : after.completions = before.completions)
  | parks (entry : OutboxEntry) (held : before.unresolved = [entry])
      (flown : before.inFlight = some entry) (landed : after.inFlight = none)
      (unresolved : after.unresolved = [{ entry with state := .awaitingReconciliation }])
      (keys : after.reservedIdempotencyKeys = before.reservedIdempotencyKeys)
      (completions : after.completions = before.completions)
  | closes (entry : OutboxEntry) (record : OutboxCompletion) (held : before.unresolved = [entry])
      (idle : after.unresolved = [])
      (keys : after.reservedIdempotencyKeys = before.reservedIdempotencyKeys)
      (key : record.idempotencyKey = entry.idempotencyKey)
      (completions : after.completions = (before.pushCompletion record).completions)
      (at_now : record.completedAtUnixNanoseconds = now)
      (parked : before.inFlight = none →
        (∃ kind reconciled, request = .resolvePending entry.idempotencyKey kind reconciled) ∧
          record.attempted = entry.attemptedAtUnixNanoseconds.isSome)
      (flown : before.inFlight ≠ none → record.attempted = true →
        ∃ settled kind threshold cooldown,
          request = .complete entry.idempotencyKey settled threshold cooldown ∧
            settled.outcome = .completed kind ∧ settled.attempted = true)

variable {before after : SendOutboxState} {now : ℕ}

theorem reserve_moves {entry : OutboxEntry} {window limit : ℕ}
    (h : before.reserve entry now window limit = (.ok (), after)) :
    Moves (.reserve entry window limit) now before after := by
  obtain ⟨hidle, hflight, hunresolved, hfresh, hkeys, -⟩ := reserve_admits h
  have hcompletions : after.completions = before.completions := by
    unfold SendOutboxState.reserve at h
    cases hadmission : before.admissionFailure now with
    | some failure => simp [hadmission] at h
    | none =>
      simp only [hadmission] at h
      split_ifs at h <;> simp only [Prod.mk.injEq, reduceCtorEq, false_and, true_and] at h
      rw [← h]
  exact .admits entry window limit rfl hidle hflight hunresolved hfresh hkeys hcompletions

theorem markAttempted_moves {key : String} (hsingle : Single before)
    (h : before.markAttempted key now = (.ok (), after)) :
    Moves (.markAttempted key) now before after := by
  obtain ⟨entry, hflight, rfl, -, -, rfl⟩ := markAttempted_ok h
  obtain ⟨hpending, hheld⟩ := hsingle.held hflight
  exact .marks entry rfl hheld rfl (by simp [unresolved, hpending]) hflight rfl rfl

theorem complete_moves {key : String} {record : SendCompletionRecord} {threshold cooldown : ℕ}
    (hsingle : Single before)
    (h : before.complete key record now threshold cooldown = (.ok (), after)) :
    Moves (.complete key record threshold cooldown) now before after := by
  obtain ⟨entry, rfl, hsettles⟩ := complete_ok h
  have hflight := hsettles.inFlight
  obtain ⟨hpending, hheld⟩ := hsingle.held hflight
  have hsettled := complete_eq record now threshold cooldown hflight hpending
  rw [h] at hsettled
  obtain rfl := (Prod.mk.inj hsettled).2
  cases houtcome : record.outcome with
  | awaitingReconciliation =>
    refine .parks entry hheld hflight ?_ ?_ ?_ ?_ <;>
      simp [settled, houtcome, park, unresolved, hpending]
  | completed kind =>
    refine .closes entry (completion entry kind record now) hheld ?_ ?_ rfl ?_ rfl ?_ ?_
    · simp [settled, houtcome, pushCompletion, unresolved, hpending]
    · simp [settled, houtcome, pushCompletion]
    · simp [settled, houtcome, pushCompletion]
    · intro hnone
      rw [hflight] at hnone
      cases hnone
    · intro hflown hattempted
      exact ⟨record, kind, threshold, cooldown, rfl, houtcome, hattempted⟩

theorem resolvePending_moves {key : String} {kind : SendCompletionKind} {reconciled : Bool}
    (hsingle : Single before)
    (h : before.resolvePending key kind reconciled now = (.ok (), after)) :
    Moves (.resolvePending key kind reconciled) now before after := by
  unfold resolvePending at h
  by_cases hkind : kind = .dryRunCompleted
  · simp [hkind] at h
  · rw [if_neg hkind] at h
    cases hentry : before.pendingReconciliation.find? (·.idempotencyKey = key) with
    | none => simp [hentry] at h
    | some entry =>
      have hkey : entry.idempotencyKey = key := by simpa using List.find?_some hentry
      obtain ⟨hidle, hpending⟩ := hsingle.parked (List.mem_of_find?_eq_some hentry)
      simp only [hentry, Prod.mk.injEq, true_and] at h
      subst h
      refine .closes entry (completion entry kind
        { outcome := .completed kind
          attempted := entry.attemptedAtUnixNanoseconds.isSome
          visualConfirmation := .unconfirmed
          failure := none
          reconciledByReplica := reconciled } now) ?_ ?_ rfl rfl ?_ rfl ?_ ?_
      · simp [unresolved, hidle, hpending]
      · simp [unresolved, pushCompletion, hidle, hpending, hkey]
      · simp [pushCompletion]
      · intro hnone
        exact ⟨⟨kind, reconciled, by rw [hkey]⟩, rfl⟩
      · intro hflown
        exact absurd hidle hflown

theorem recover_moves (hsingle : Single before) :
    Moves .recover now before (before.recover now).2 := by
  cases hflight : before.inFlight with
  | none =>
    rw [recover_idle hflight]
    exact .same rfl rfl rfl rfl
  | some entry =>
    obtain ⟨hpending, hheld⟩ := hsingle.held hflight
    by_cases hattempted : entry.state = .attempted
    · refine .parks entry hheld hflight ?_ ?_ ?_ ?_ <;>
        simp [recover, hflight, hattempted, park, unresolved, hpending]
    · refine .closes entry (completion entry .observedFailed
        { outcome := .completed .observedFailed, attempted := false
          visualConfirmation := .notAttempted, failure := some .engineStall
          reconciledByReplica := false } now) hheld ?_ ?_ rfl ?_ rfl ?_ ?_
      · simp [recover, hflight, hattempted, pushCompletion, unresolved, hpending]
      · simp [recover, hflight, hattempted, pushCompletion]
      · simp [recover, hflight, hattempted, pushCompletion]
      · intro hnone
        rw [hflight] at hnone
        cases hnone
      · intro hflown hrecorded
        cases hrecorded

/-- Every granted request is one of the moves. -/
theorem operation_moves {request : Request} (hsingle : Single before)
    (h : request.operation now before = (.ok (), after)) : Moves request now before after := by
  cases request with
  | reserve entry window limit => exact reserve_moves (refusable_eq_ok.mp h)
  | markAttempted key => exact markAttempted_moves hsingle (refusable_eq_ok.mp h)
  | complete key record threshold cooldown => exact complete_moves hsingle (refusable_eq_ok.mp h)
  | resolvePending key kind reconciled =>
    exact resolvePending_moves hsingle (refusable_eq_ok.mp h)
  | recover =>
    obtain rfl : (before.recover now).2 = after := by simpa [Request.operation] using h
    exact recover_moves hsingle
  | state =>
    obtain rfl : before = after := by simpa [Request.operation] using h
    exact .same rfl rfl rfl rfl

/-- A granted reservation counts in the rolled window, which had room. -/
theorem reserve_window {entry : OutboxEntry} {window limit : ℕ}
    (h : before.reserve entry now window limit = (.ok (), after)) :
    (before.rateWindow.rolled now window limit).reservedAttempts < limit ∧
      after.rateWindow = { before.rateWindow.rolled now window limit with
        reservedAttempts :=
          saturatingAdd 64 (before.rateWindow.rolled now window limit).reservedAttempts 1 } := by
  have hlimit : (before.rateWindow.rolled now window limit).maximumAttempts = limit := by
    unfold SendRateWindow.rolled
    split_ifs <;> rfl
  unfold SendOutboxState.reserve at h
  cases hadmission : before.admissionFailure now with
  | some failure => simp [hadmission] at h
  | none =>
    simp only [hadmission] at h
    split_ifs at h with hvalid hkey happroval hroom hrate <;>
      simp only [Prod.mk.injEq, reduceCtorEq, false_and, true_and] at h
    rw [hlimit, not_or, not_le] at hrate
    exact ⟨hrate.2, by rw [← h]⟩

/-- Any other granted request keeps the window and puts nothing in flight. -/
theorem operation_window {request : Request} (h : request.operation now before = (.ok (), after)) :
    (∃ entry window limit, request = .reserve entry window limit ∧
      before.reserve entry now window limit = (.ok (), after)) ∨
    (after.rateWindow = before.rateWindow ∧ (before.inFlight = none → after.inFlight = none)) := by
  cases request with
  | reserve entry window limit => exact .inl ⟨entry, window, limit, rfl, refusable_eq_ok.mp h⟩
  | markAttempted key =>
    obtain ⟨entry, hflight, -, -, -, rfl⟩ := markAttempted_ok (refusable_eq_ok.mp h)
    exact .inr ⟨rfl, fun hnone => by simp [hflight] at hnone⟩
  | complete key record threshold cooldown =>
    right
    have hcomplete := refusable_eq_ok.mp h
    obtain ⟨entry, -, hsettles⟩ := complete_ok hcomplete
    refine ⟨?_, fun _ => hsettles.idle⟩
    unfold SendOutboxState.complete at hcomplete
    cases hentry : before.inFlight.filter (·.idempotencyKey = key) with
    | none => simp [hentry] at hcomplete
    | some flown =>
      cases houtcome : record.outcome with
      | awaitingReconciliation =>
        simp only [hentry, houtcome] at hcomplete
        split_ifs at hcomplete
        · simp at hcomplete
        · rw [← (Prod.mk.inj hcomplete).2]
          rfl
      | completed kind =>
        simp only [hentry, houtcome] at hcomplete
        rw [← (Prod.mk.inj hcomplete).2]
        rfl
  | resolvePending key kind reconciled =>
    right
    have hresolve := refusable_eq_ok.mp h
    unfold SendOutboxState.resolvePending at hresolve
    by_cases hkind : kind = .dryRunCompleted
    · simp [hkind] at hresolve
    · rw [if_neg hkind] at hresolve
      cases hentry : before.pendingReconciliation.find? (·.idempotencyKey = key) with
      | none => simp [hentry] at hresolve
      | some entry =>
        simp only [hentry] at hresolve
        rw [← (Prod.mk.inj hresolve).2]
        exact ⟨rfl, id⟩
  | recover =>
    obtain rfl : (before.recover now).2 = after := by simpa [Request.operation] using h
    cases hflight : before.inFlight with
    | none =>
      rw [recover_idle hflight]
      exact .inr ⟨rfl, fun _ => hflight⟩
    | some entry =>
      right
      refine ⟨?_, fun _ => (recover_settles hflight).idle⟩
      by_cases hattempted : entry.state = .attempted <;>
        simp [recover, hflight, hattempted, park, pushCompletion]
  | state =>
    obtain rfl : before = after := by simpa [Request.operation] using h
    exact .inr ⟨rfl, id⟩

/-- A reservation carries no moment of an attempt, and no attempt is closed as one later
than it was marked. -/
def Request.Prompt (request : Request) (now : ℕ) (state : SendOutboxState) : Prop :=
  match request with
  | .reserve entry _ _ => entry.attemptedAtUnixNanoseconds = none
  | .complete key record _ _ =>
    (∃ kind, record.outcome = .completed kind) → record.attempted = true →
      ∀ entry ∈ state.unresolved, entry.idempotencyKey = key →
        ∃ moment, entry.attemptedAtUnixNanoseconds = some moment ∧ now ≤ moment
  | .resolvePending key _ _ =>
    ∀ entry ∈ state.unresolved, entry.idempotencyKey = key →
      ∀ moment, entry.attemptedAtUnixNanoseconds = some moment → now ≤ moment
  | _ => True

/-- Keys of records and entries are spent and tell them apart; `dispatched` knows when
each attempt was marked. -/
structure Filed (dispatched : String → ℕ → Prop) (state : SendOutboxState) : Prop where
  filed : ∀ record ∈ state.completions,
    record.idempotencyKey ∈ state.reservedIdempotencyKeys
  held : ∀ entry ∈ state.unresolved, entry.idempotencyKey ∈ state.reservedIdempotencyKeys
  apart : ∀ entry ∈ state.unresolved, ∀ record ∈ state.completions,
    record.idempotencyKey ≠ entry.idempotencyKey
  once : (state.completions.map (·.idempotencyKey)).Nodup
  marked : ∀ entry ∈ state.unresolved, ∀ moment,
    entry.attemptedAtUnixNanoseconds = some moment → dispatched entry.idempotencyKey moment
  recorded : ∀ record ∈ state.completions, record.attempted = true →
    ∃ moment, dispatched record.idempotencyKey moment ∧ record.completedAtUnixNanoseconds ≤ moment

variable {dispatched : String → ℕ → Prop}

theorem Filed.mono {later : String → ℕ → Prop} {state : SendOutboxState}
    (h : Filed dispatched state)
    (hlater : ∀ key moment, dispatched key moment → later key moment) : Filed later state := by
  refine ⟨h.filed, h.held, h.apart, h.once, ?_, ?_⟩
  · intro entry hentry moment hmoment
    exact hlater _ _ (h.marked entry hentry moment hmoment)
  · intro record hrecord hattempted
    obtain ⟨moment, hmoment, hle⟩ := h.recorded record hrecord hattempted
    exact ⟨moment, hlater _ _ hmoment, hle⟩

/-- A closed attempt is recorded no later than it was marked. -/
theorem Moves.prompt {request : Request} {entry : OutboxEntry} {record : OutboxCompletion}
    (hprompt : request.Prompt now before) (hheld : before.unresolved = [entry])
    (hparked : before.inFlight = none →
      (∃ kind reconciled, request = .resolvePending entry.idempotencyKey kind reconciled) ∧
        record.attempted = entry.attemptedAtUnixNanoseconds.isSome)
    (hflown : before.inFlight ≠ none → record.attempted = true →
      ∃ settled kind threshold cooldown,
        request = .complete entry.idempotencyKey settled threshold cooldown ∧
          settled.outcome = .completed kind ∧ settled.attempted = true)
    (hattempted : record.attempted = true) :
    ∃ moment, entry.attemptedAtUnixNanoseconds = some moment ∧ now ≤ moment := by
  have hentry : entry ∈ before.unresolved := by rw [hheld]; exact List.mem_cons_self
  by_cases hnone : before.inFlight = none
  · obtain ⟨⟨kind, reconciled, rfl⟩, hsome⟩ := hparked hnone
    rw [hattempted] at hsome
    obtain ⟨moment, hmoment⟩ := Option.isSome_iff_exists.mp hsome.symm
    exact ⟨moment, hmoment, hprompt entry hentry rfl moment hmoment⟩
  · obtain ⟨settled, kind, threshold, cooldown, rfl, houtcome, hsettled⟩ := hflown hnone hattempted
    exact hprompt ⟨kind, houtcome⟩ hsettled entry hentry rfl

theorem Filed.moves {request : Request} (h : Filed dispatched before)
    (hmoves : Moves request now before after) (hprompt : request.Prompt now before)
    (hmarked : ∀ entry, request = .markAttempted entry.idempotencyKey →
      after.inFlight = some entry → entry.state = .attempted →
        dispatched entry.idempotencyKey now) : Filed dispatched after := by
  cases hmoves with
  | same hunresolved hflight hkeys hcompletions =>
    refine ⟨?_, ?_, ?_, ?_, ?_, ?_⟩ <;> simp only [hunresolved, hkeys, hcompletions]
    exacts [h.filed, h.held, h.apart, h.once, h.marked, h.recorded]
  | admits entry window limit hasked hidle hflight hunresolved hfresh hkeys hcompletions =>
    subst hasked
    refine ⟨?_, ?_, ?_, ?_, ?_, ?_⟩ <;>
      simp only [hunresolved, hkeys, hcompletions, List.forall_mem_singleton]
    · intro record hrecord
      exact Finset.mem_insert_of_mem (h.filed record hrecord)
    · exact Finset.mem_insert_self _ _
    · intro record hrecord hsame
      exact hfresh (hsame ▸ h.filed record hrecord)
    · exact h.once
    · intro moment hmoment
      have hnone : entry.attemptedAtUnixNanoseconds = none := hprompt
      rw [hnone] at hmoment
      cases hmoment
    · exact h.recorded
  | marks entry hasked hheld hflight hunresolved hflown hkeys hcompletions =>
    have hentry : entry ∈ before.unresolved := by rw [hheld]; exact List.mem_cons_self
    refine ⟨?_, ?_, ?_, ?_, ?_, ?_⟩ <;>
      simp only [hunresolved, hkeys, hcompletions, List.forall_mem_singleton]
    · exact h.filed
    · exact h.held entry hentry
    · exact h.apart entry hentry
    · exact h.once
    · intro moment hmoment
      obtain rfl := Option.some.inj hmoment
      exact hmarked { entry with state := .attempted, attemptedAtUnixNanoseconds := some now }
        hasked hflight rfl
    · exact h.recorded
  | parks entry hheld hflown hlanded hunresolved hkeys hcompletions =>
    have hentry : entry ∈ before.unresolved := by rw [hheld]; exact List.mem_cons_self
    refine ⟨?_, ?_, ?_, ?_, ?_, ?_⟩ <;>
      simp only [hunresolved, hkeys, hcompletions, List.forall_mem_singleton]
    · exact h.filed
    · exact h.held entry hentry
    · exact h.apart entry hentry
    · exact h.once
    · exact h.marked entry hentry
    · exact h.recorded
  | closes entry record hheld hidle hkeys hkey hcompletions hnow hparked hflown =>
    have hentry : entry ∈ before.unresolved := by rw [hheld]; exact List.mem_cons_self
    refine ⟨?_, ?_, ?_, ?_, ?_, ?_⟩
    · intro other hother
      rw [hcompletions] at hother
      rw [hkeys]
      obtain hbefore | rfl := mem_pushCompletion hother
      · exact h.filed other hbefore
      · exact hkey ▸ h.held entry hentry
    · simp [hidle]
    · simp [hidle]
    · rw [hcompletions]
      refine ((completions_pushCompletion_sublist before record).map _).nodup ?_
      rw [List.map_append, List.nodup_append]
      refine ⟨h.once, List.nodup_singleton _, ?_⟩
      rintro key hmem other hother rfl
      obtain ⟨earlier, hearlier, rfl⟩ := List.mem_map.mp hmem
      have hsame : earlier.idempotencyKey = record.idempotencyKey := by simpa using hother
      exact h.apart entry hentry earlier hearlier (hsame.trans hkey)
    · simp [hidle]
    · intro other hother hattempted
      rw [hcompletions] at hother
      obtain hbefore | rfl := mem_pushCompletion hother
      · exact h.recorded other hbefore hattempted
      · obtain ⟨moment, hmoment, hle⟩ := Moves.prompt hprompt hheld hparked hflown hattempted
        exact ⟨moment, hkey ▸ h.marked entry hentry moment hmoment, hnow ▸ hle⟩

/-! Runs -/

theorem Moves.of_view {request : Request} {first : SendOutboxState}
    (h : Moves request now before after) (hview : SameView first before)
    (hcompletions : first.completions = before.completions) : Moves request now first after := by
  have hunresolved := hview.unresolved
  have hpush : ∀ record, (first.pushCompletion record).completions =
      (before.pushCompletion record).completions := by
    intro record
    simp only [pushCompletion, hcompletions]
  cases h with
  | same hunresolved' hflight hkeys hsame =>
    exact .same (hunresolved'.trans hunresolved.symm) (hflight.trans hview.inFlight.symm)
      (hkeys.trans hview.keys.symm) (hsame.trans hcompletions.symm)
  | admits entry window limit hasked hidle hflight hnow hfresh hkeys hsame =>
    exact .admits entry window limit hasked (hunresolved.trans hidle) hflight hnow
      (hview.keys ▸ hfresh) (hview.keys ▸ hkeys) (hsame.trans hcompletions.symm)
  | marks entry hasked hheld hflight hnow hflown hkeys hsame =>
    exact .marks entry hasked (hunresolved.trans hheld) hflight hnow
      (hview.inFlight.trans hflown) (hkeys.trans hview.keys.symm) (hsame.trans hcompletions.symm)
  | parks entry hheld hflown hlanded hnow hkeys hsame =>
    exact .parks entry (hunresolved.trans hheld) (hview.inFlight.trans hflown) hlanded hnow
      (hkeys.trans hview.keys.symm) (hsame.trans hcompletions.symm)
  | closes entry record hheld hidle hkeys hkey hpushed hnow hparked hflown =>
    exact .closes entry record (hunresolved.trans hheld) hidle (hkeys.trans hview.keys.symm) hkey
      (hpushed.trans (hpush record).symm) hnow (hview.inFlight ▸ hparked)
      (hview.inFlight ▸ hflown)

/-- The call an event makes. -/
def Event.call : Event → Option (Request × ℕ)
  | .opened _ _ now _ => some (.recover, now)
  | .requested _ request now _ => some (request, now)
  | .crashed _ => none

def Event.Prompt (world : World) (event : Event) : Prop :=
  ∀ request now, event.call = some (request, now) → request.Prompt now world.current

variable {documentBytes : SendOutboxState → ℕ}

theorem Loads.completions {world : World} {accountId : String}
    (h : Loads accountId now world.document before) :
    world.current.completions = before.completions := by
  rcases world with ⟨document, processes, history⟩
  cases h with
  | fresh => rfl
  | stored hvalid => rfl

/-- A step leaves the document alone or runs the operation of its event on what it loads. -/
theorem step_loads (world : World) (event : Event) :
    (step documentBytes world event).current = world.current ∨
      ∃ request now accountId before, event.call = some (request, now) ∧
        Loads accountId now world.document before ∧
        request.operation now before = (.ok (), (step documentBytes world event).current) := by
  cases event with
  | opened process accountId now fault =>
    rcases hopen : openOutbox documentBytes world.document accountId now fault with
      ⟨result, document⟩
    have hcurrent : (step documentBytes world (.opened process accountId now fault)).current =
        document.getD (.new "" 0) := by
      cases result <;> simp only [step, hopen] <;> rfl
    rw [hcurrent]
    unfold openOutbox at hopen
    split_ifs at hopen with hempty
    · obtain ⟨-, rfl⟩ := Prod.mk.inj hopen
      exact .inl rfl
    · obtain ⟨rfl, -⟩ | ⟨before, value, after, hloads, hoperation, -, rfl, -⟩ :=
        transaction_cases documentBytes hopen
      · exact .inl rfl
      · have hafter : (before.recover now).2 = after := (Prod.mk.inj hoperation).2
        exact .inr ⟨.recover, now, accountId, before, rfl, hloads, by
          rw [Request.operation, hafter, Option.getD_some]⟩
  | requested process request now fault =>
    cases hprocess : world.processes.lookup process with
    | none =>
      left
      simp only [step, hprocess]
    | some accountId =>
      rcases hsubmit : submit documentBytes world.document accountId request now fault with
        ⟨result, document⟩
      have hcurrent : (step documentBytes world (.requested process request now fault)).current =
          document.getD (.new "" 0) := by
        cases result <;> simp only [step, hprocess, hsubmit] <;> rfl
      rw [hcurrent]
      obtain ⟨rfl, -⟩ | ⟨before, value, after, hloads, hoperation, -, rfl, -⟩ :=
        transaction_cases documentBytes hsubmit
      · exact .inl rfl
      · exact .inr ⟨request, now, accountId, before, rfl, hloads, hoperation⟩
  | crashed process => exact .inl rfl

theorem step_moves (world : World) (event : Event) (hsingle : Single world.current) :
    (step documentBytes world event).current = world.current ∨
      ∃ request now, event.call = some (request, now) ∧
        Moves request now world.current (step documentBytes world event).current := by
  obtain hsame | ⟨request, now, accountId, before, hcall, hloads, hoperation⟩ :=
    @step_loads documentBytes world event
  · exact .inl hsame
  · have hview := hloads.sameView
    have hmoves := operation_moves (hsingle.of_view hview) hoperation
    exact .inr ⟨request, now, hcall, hmoves.of_view hview hloads.completions⟩

/-- In the run a call made at `moment` marked the attempt of the key. -/
def DispatchedAt (documentBytes : SendOutboxState → ℕ) (events : List Event) (key : String)
    (moment : ℕ) : Prop :=
  ∃ earlier process fault later,
    events = earlier ++ .requested process (.markAttempted key) moment fault :: later ∧
      ∃ entry, (execute (step documentBytes) World.initial
        (earlier ++ [.requested process (.markAttempted key) moment fault])).current.inFlight =
          some entry ∧ entry.idempotencyKey = key ∧ entry.state = .attempted

theorem DispatchedAt.append {events : List Event} {key : String} {moment : ℕ}
    (h : DispatchedAt documentBytes events key moment) (more : List Event) :
    DispatchedAt documentBytes (events ++ more) key moment := by
  obtain ⟨earlier, process, fault, later, rfl, hentry⟩ := h
  exact ⟨earlier, process, fault, later ++ more, by simp, hentry⟩

theorem filed_initial (dispatched : String → ℕ → Prop) : Filed dispatched World.initial.current := by
  refine ⟨?_, ?_, ?_, ?_, ?_, ?_⟩ <;>
    simp [World.initial, World.current, SendOutboxState.new, unresolved]

theorem run_filed (events : List Event)
    (h : Meets (step documentBytes) Event.Prompt World.initial events) :
    Filed (DispatchedAt documentBytes events)
      (execute (step documentBytes) World.initial events).current := by
  induction events using List.reverseRecOn with
  | nil => exact filed_initial _
  | append_singleton events event ih =>
    obtain ⟨hevents, hevent, -⟩ := (Meets.append _).mp h
    have hsingle := (run_coupled documentBytes World.initial events coupled_initial).single
    have hfiled := (ih hevents).mono fun key moment hmoment => hmoment.append [event]
    have hcurrent : execute (step documentBytes) World.initial (events ++ [event]) =
        step documentBytes (execute (step documentBytes) World.initial events) event := by
      rw [execute_append]
      rfl
    rw [hcurrent]
    obtain hsame | ⟨request, now, hcall, hmoves⟩ := step_moves _ event hsingle
    · rw [hsame]
      exact hfiled
    · refine hfiled.moves hmoves (hevent request now hcall) ?_
      rintro entry rfl hflight hattempted
      cases event with
      | opened process accountId moment fault => cases hcall
      | crashed process => cases hcall
      | requested process asked moment fault =>
        cases hcall
        refine ⟨events, process, fault, [], rfl, entry, ?_, rfl, hattempted⟩
        rw [hcurrent]
        exact hflight

end GreenBubbles.Outbox
