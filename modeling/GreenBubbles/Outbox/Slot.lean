import GreenBubbles.Outbox.Dispatch

/-! # The unresolved entry

At most one entry is unresolved, so a transaction admits it, marks it, parks it
or closes it. Each operation is described by what it does to that entry.
-/
namespace GreenBubbles.Outbox

open Library.SingleFlight

/-- The parts of a document the unresolved entry is judged by. -/
structure SameView (first second : SendOutboxState) : Prop where
  inFlight : first.inFlight = second.inFlight
  pending : first.pendingReconciliation = second.pendingReconciliation
  keys : first.reservedIdempotencyKeys = second.reservedIdempotencyKeys
  completed : first.completedAttemptTotal = second.completedAttemptTotal

theorem SameView.refl (state : SendOutboxState) : SameView state state := ⟨rfl, rfl, rfl, rfl⟩

theorem SameView.unresolved {first second : SendOutboxState} (h : SameView first second) :
    first.unresolved = second.unresolved := by
  rw [SendOutboxState.unresolved, SendOutboxState.unresolved, h.inFlight, h.pending]

/-- The record a written document has over the one before it, with its entry. -/
def closings (before after : SendOutboxState) : List (OutboxEntry × OutboxCompletion) :=
  if before.completedAttemptTotal < after.completedAttemptTotal then
    match before.unresolved.head?, after.completions.getLast? with
    | some entry, some record => [(entry, record)]
    | _, _ => []
  else []

theorem closings_nil {before after : SendOutboxState}
    (h : after.completedAttemptTotal = before.completedAttemptTotal) : closings before after = [] := by
  rw [closings, if_neg (by omega)]

/-- Room for one more record, and nothing unresolved besides one entry. -/
structure Single (state : SendOutboxState) : Prop where
  unresolved : state.unresolved.length ≤ 1
  room : state.completedAttemptTotal + 1 < 2 ^ 64

theorem Coupled.single {state : SendOutboxState} {history : History} (h : Coupled state history) :
    Single state :=
  ⟨h.represents.single, h.represents.completed_lt h.wellFormed⟩

theorem Single.of_view {first second : SendOutboxState} (h : Single first)
    (hview : SameView first second) : Single second := by
  refine ⟨?_, ?_⟩
  · rw [← hview.unresolved]
    exact h.unresolved
  · rw [← hview.completed]
    exact h.room

theorem Single.held {state : SendOutboxState} {entry : OutboxEntry} (h : Single state)
    (hflight : state.inFlight = some entry) :
    state.pendingReconciliation = [] ∧ state.unresolved = [entry] := by
  have hsingle := h.unresolved
  simp only [SendOutboxState.unresolved, hflight, Option.toList_some, List.length_append,
    List.length_cons, List.length_nil] at hsingle
  have hpending : state.pendingReconciliation = [] := List.eq_nil_of_length_eq_zero (by omega)
  refine ⟨hpending, ?_⟩
  rw [SendOutboxState.unresolved, hflight, hpending]
  rfl

theorem Single.parked {state : SendOutboxState} {entry : OutboxEntry} (h : Single state)
    (hparked : entry ∈ state.pendingReconciliation) :
    state.inFlight = none ∧ state.pendingReconciliation = [entry] := by
  have hsingle := h.unresolved
  have hlength := List.length_pos_of_mem hparked
  simp only [SendOutboxState.unresolved, List.length_append] at hsingle
  have hidle : state.inFlight = none := by
    cases hflight : state.inFlight with
    | none => rfl
    | some other =>
      simp only [hflight, Option.toList_some, List.length_cons, List.length_nil] at hsingle
      omega
  obtain ⟨other, hother⟩ := List.length_eq_one_iff.mp
    (by omega : state.pendingReconciliation.length = 1)
  rw [hother, List.mem_singleton] at hparked
  exact ⟨hidle, hparked ▸ hother⟩

/-- The entry leaves the document with its record. -/
structure Closes (before after : SendOutboxState) (entry : OutboxEntry)
    (record : OutboxCompletion) : Prop where
  held : before.unresolved = [entry]
  idle : after.unresolved = []
  keys : after.reservedIdempotencyKeys = before.reservedIdempotencyKeys
  closings : closings before after = [(entry, record)]

/-- The entry stays, in another state. -/
structure Changes (before after : SendOutboxState) (entry changed : OutboxEntry) : Prop where
  held : before.unresolved = [entry]
  now : after.unresolved = [changed]
  keys : after.reservedIdempotencyKeys = before.reservedIdempotencyKeys
  completed : after.completedAttemptTotal = before.completedAttemptTotal

theorem Closes.mem {before after : SendOutboxState} {entry : OutboxEntry}
    {record : OutboxCompletion} (h : Closes before after entry record) :
    entry ∈ before.unresolved := by
  rw [h.held]
  exact List.mem_cons_self

theorem Changes.mem {before after : SendOutboxState} {entry changed : OutboxEntry}
    (h : Changes before after entry changed) : entry ∈ before.unresolved := by
  rw [h.held]
  exact List.mem_cons_self

theorem Closes.of_view {first before after : SendOutboxState} {entry : OutboxEntry}
    {record : OutboxCompletion} (h : Closes before after entry record)
    (hview : SameView first before) : Closes first after entry record := by
  refine ⟨?_, h.idle, ?_, ?_⟩
  · rw [hview.unresolved, h.held]
  · rw [h.keys, hview.keys]
  · rw [← h.closings, Outbox.closings, Outbox.closings, hview.unresolved, hview.completed]

theorem Changes.of_view {first before after : SendOutboxState} {entry changed : OutboxEntry}
    (h : Changes before after entry changed) (hview : SameView first before) :
    Changes first after entry changed := by
  refine ⟨?_, h.now, ?_, ?_⟩
  · rw [hview.unresolved, h.held]
  · rw [h.keys, hview.keys]
  · rw [h.completed, hview.completed]

namespace SendOutboxState

theorem getLast?_pushCompletion (state : SendOutboxState) (record : OutboxCompletion) :
    (state.pushCompletion record).completions.getLast? = some record := by
  have hlength : (state.completions ++ [record]).length - maximumCompletionHistory ≤
      state.completions.length := by
    rw [List.length_append, List.length_singleton, maximumCompletionHistory]
    omega
  simp only [pushCompletion]
  rw [List.drop_append_of_le_length hlength, List.getLast?_append]
  simp

theorem completions_pushCompletion_sublist (state : SendOutboxState) (record : OutboxCompletion) :
    (state.pushCompletion record).completions.Sublist (state.completions ++ [record]) := by
  simp only [pushCompletion]
  exact List.drop_sublist _ _

theorem mem_pushCompletion {state : SendOutboxState} {completion record : OutboxCompletion}
    (h : record ∈ (state.pushCompletion completion).completions) :
    record ∈ state.completions ∨ record = completion := by
  simpa using (completions_pushCompletion_sublist state completion).subset h

theorem pushCompletion_view (state : SendOutboxState) (record : OutboxCompletion) :
    (state.pushCompletion record).unresolved = state.unresolved ∧
      (state.pushCompletion record).reservedIdempotencyKeys = state.reservedIdempotencyKeys := by
  simp [pushCompletion, unresolved]

/-- A transition that pushes one record and empties the slot closes its entry. -/
theorem closes_of_push {before after : SendOutboxState} (taken : SendOutboxState)
    {entry : OutboxEntry} {record : OutboxCompletion} (h : Single before)
    (hheld : before.unresolved = [entry]) (htaken : taken.unresolved = [])
    (hkeys : taken.reservedIdempotencyKeys = before.reservedIdempotencyKeys)
    (htotal : taken.completedAttemptTotal = before.completedAttemptTotal)
    (hafter : SameView after (taken.pushCompletion record))
    (hrecords : after.completions = (taken.pushCompletion record).completions) :
    Closes before after entry record := by
  have hpushed : (taken.pushCompletion record).completedAttemptTotal =
      before.completedAttemptTotal + 1 := by
    simp only [pushCompletion, htotal]
    exact saturatingAdd_of_lt h.room
  refine ⟨hheld, ?_, ?_, ?_⟩
  · rw [hafter.unresolved, (pushCompletion_view taken record).1, htaken]
  · rw [hafter.keys, (pushCompletion_view taken record).2, hkeys]
  · have hlast := getLast?_pushCompletion taken record
    rw [← hrecords] at hlast
    rw [closings, hafter.completed, hpushed, if_pos (Nat.lt_succ_self _), hheld, hlast]
    rfl

/-- Recovery keeps a document without an entry in flight, parks an attempt and
closes a mere reservation. -/
inductive Recovers (before after : SendOutboxState) : Prop
  | idle (same : after = before)
  | parks (entry : OutboxEntry) (inFlight : before.inFlight = some entry)
      (attempted : entry.state = .attempted) (idle : after.inFlight = none)
      (changes : Changes before after entry { entry with state := .awaitingReconciliation })
  | closes (entry : OutboxEntry) (record : OutboxCompletion)
      (inFlight : before.inFlight = some entry) (unattempted : entry.state ≠ .attempted)
      (unreconciled : record.reconciledByReplica = false)
      (key : record.idempotencyKey = entry.idempotencyKey)
      (closes : Closes before after entry record)

theorem recover_recovers {state : SendOutboxState} (h : Single state) (now : ℕ) :
    Recovers state (state.recover now).2 := by
  cases hflight : state.inFlight with
  | none => exact .idle (recover_idle hflight)
  | some entry =>
    obtain ⟨hpending, hheld⟩ := h.held hflight
    by_cases hattempted : entry.state = .attempted
    · refine .parks entry hflight hattempted ?_ ⟨hheld, ?_, ?_, ?_⟩ <;>
        simp [recover, hflight, hattempted, park, unresolved, hpending]
    · refine .closes entry (completion entry .observedFailed
        { outcome := .completed .observedFailed, attempted := false
          visualConfirmation := .notAttempted, failure := some .engineStall
          reconciledByReplica := false } now) hflight hattempted rfl rfl ?_
      refine closes_of_push { state with
        inFlight := none
        recoveredAttemptTotal := saturatingAdd 64 state.recoveredAttemptTotal 1
        consumedApprovalIds := insert entry.approvalId state.consumedApprovalIds }
        h hheld ?_ rfl rfl ?_ ?_
      · simp [unresolved, hpending]
      · simp only [recover, hflight, hattempted, decide_false, Bool.false_eq_true, if_false]
        exact ⟨rfl, rfl, rfl, rfl⟩
      · simp [recover, hflight, hattempted]

/-- An accepted reservation fills an empty slot under a fresh key. -/
structure Admits (before after : SendOutboxState) (entry : OutboxEntry) : Prop where
  idle : before.unresolved = []
  inFlight : after.inFlight = some { entry with state := .reserved }
  now : after.unresolved = [{ entry with state := .reserved }]
  fresh : entry.idempotencyKey ∉ before.reservedIdempotencyKeys
  keys : after.reservedIdempotencyKeys =
    insert entry.idempotencyKey before.reservedIdempotencyKeys
  completed : after.completedAttemptTotal = before.completedAttemptTotal

theorem reserve_admits {state after : SendOutboxState} {entry : OutboxEntry}
    {now window limit : ℕ} (h : state.reserve entry now window limit = (.ok (), after)) :
    Admits state after entry := by
  have hreserve := reserve_ok h
  refine ⟨?_, hreserve.inFlight, ?_, hreserve.fresh, hreserve.keys, hreserve.completed⟩
  · rw [unresolved, hreserve.idle, hreserve.settled]
    rfl
  · rw [unresolved, hreserve.inFlight, hreserve.pending]
    rfl

theorem markAttempted_changes {state after : SendOutboxState} {key : String} {now : ℕ}
    (hsingle : Single state) (h : state.markAttempted key now = (.ok (), after)) :
    ∃ entry, entry.idempotencyKey = key ∧ entry.permitSend = true ∧ entry.state = .reserved ∧
      state.inFlight = some entry ∧ after.inFlight = some { entry with
        state := .attempted, attemptedAtUnixNanoseconds := some now } ∧
      Changes state after entry { entry with
        state := .attempted, attemptedAtUnixNanoseconds := some now } := by
  obtain ⟨entry, hflight, hkey, hpermit, hstate, rfl⟩ := markAttempted_ok h
  obtain ⟨hpending, hheld⟩ := hsingle.held hflight
  refine ⟨entry, hkey, hpermit, hstate, hflight, rfl, hheld, ?_, rfl, rfl⟩
  simp [unresolved, hpending]

/-- Completion parks the entry in flight or closes it with the kind of the record. -/
inductive Completes (before after : SendOutboxState) (entry : OutboxEntry)
    (record : SendCompletionRecord) : Prop
  | parks (awaiting : record.outcome = .awaitingReconciliation) (idle : after.inFlight = none)
      (changes : Changes before after entry { entry with state := .awaitingReconciliation })
  | closes (kind : SendCompletionKind) (closed : record.outcome = .completed kind) (now : ℕ)
      (closes : Closes before after entry (completion entry kind record now))

theorem complete_completes {state after : SendOutboxState} {key : String}
    {record : SendCompletionRecord} {now threshold cooldown : ℕ} (hsingle : Single state)
    (h : state.complete key record now threshold cooldown = (.ok (), after)) :
    ∃ entry, entry.idempotencyKey = key ∧ state.inFlight = some entry ∧
      Completes state after entry record := by
  unfold complete at h
  cases hentry : state.inFlight.filter (·.idempotencyKey = key) with
  | none => simp [hentry] at h
  | some entry =>
    obtain ⟨hflight, hkey⟩ := Option.filter_eq_some_iff.mp hentry
    obtain ⟨hpending, hheld⟩ := hsingle.held hflight
    refine ⟨entry, by simpa using hkey, hflight, ?_⟩
    simp only [hentry] at h
    cases houtcome : record.outcome with
    | awaitingReconciliation =>
      simp only [houtcome] at h
      split_ifs at h with hfull
      · simp at h
      · simp only [Prod.mk.injEq, true_and] at h
        subst h
        refine .parks houtcome rfl ⟨hheld, ?_, rfl, rfl⟩
        simp [park, unresolved, hpending]
    | completed kind =>
      simp only [houtcome, Prod.mk.injEq, true_and] at h
      subst h
      refine .closes kind houtcome now (closes_of_push { state with
        inFlight := none
        consumedApprovalIds := insert entry.approvalId state.consumedApprovalIds }
        hsingle hheld ?_ rfl rfl ?_ ?_)
      · simp [unresolved, hpending]
      · exact ⟨rfl, rfl, rfl, rfl⟩
      · simp only [pushCompletion]

theorem resolvePending_closes {state after : SendOutboxState} {key : String}
    {kind : SendCompletionKind} {reconciled : Bool} {now : ℕ} (hsingle : Single state)
    (h : state.resolvePending key kind reconciled now = (.ok (), after)) :
    ∃ entry record, entry.idempotencyKey = key ∧ record.outcome = .completed kind ∧
      record.reconciledByReplica = reconciled ∧
      Closes state after entry (completion entry kind record now) := by
  unfold resolvePending at h
  by_cases hkind : kind = .dryRunCompleted
  · simp [hkind] at h
  · rw [if_neg hkind] at h
    cases hentry : state.pendingReconciliation.find? (·.idempotencyKey = key) with
    | none => simp [hentry] at h
    | some entry =>
      have hkey : entry.idempotencyKey = key := by simpa using List.find?_some hentry
      obtain ⟨hidle, hpending⟩ := hsingle.parked (List.mem_of_find?_eq_some hentry)
      have hheld : state.unresolved = [entry] := by
        rw [unresolved, hidle, hpending]
        rfl
      simp only [hentry, Prod.mk.injEq, true_and] at h
      subst h
      refine ⟨entry,
        { outcome := .completed kind
          attempted := entry.attemptedAtUnixNanoseconds.isSome
          visualConfirmation := .unconfirmed
          failure := none
          reconciledByReplica := reconciled }, hkey, rfl, rfl, closes_of_push { state with
        pendingReconciliation :=
          state.pendingReconciliation.eraseP (·.idempotencyKey = key) }
        hsingle hheld ?_ rfl rfl ?_ ?_⟩
      · simp [unresolved, hidle, hpending, hkey]
      · exact ⟨rfl, rfl, rfl, rfl⟩
      · simp only [pushCompletion]

end SendOutboxState

variable (documentBytes : SendOutboxState → ℕ)

theorem Loads.sameView {world : World} {accountId : String} {now : ℕ} {before : SendOutboxState}
    (h : Loads accountId now world.document before) : SameView world.current before := by
  rcases world with ⟨document, processes, history⟩
  cases h with
  | fresh => exact ⟨rfl, rfl, rfl, rfl⟩
  | stored hvalid => exact .refl _

/-- What a transaction leaves behind: the document as it was, or what the
operation made of it. -/
theorem written_cases {α : Type} {world : World} {written : Option SendOutboxState}
    {accountId : String} {operation : SendOutboxState → Except RestoreError α × SendOutboxState}
    {now : ℕ} {fault : Fault} {result : Except RestoreError α}
    (h : transaction documentBytes world.document accountId operation now fault =
      (result, written)) :
    (written = world.document ∧ ∃ error, result = .error error) ∨
      ∃ before value after, SameView world.current before ∧
        operation before = (.ok value, after) ∧ written.getD (.new "" 0) = after := by
  obtain ⟨rfl, herror | ⟨value, before, hdocument, -, hoperation⟩⟩ |
      ⟨before, value, after, hloads, hoperation, -, rfl, -⟩ := transaction_cases documentBytes h
  · exact .inl ⟨rfl, herror⟩
  · refine .inr ⟨before, value, before, ?_, hoperation, ?_⟩
    · rw [World.current, hdocument]
      exact .refl _
    · rw [hdocument]
      rfl
  · exact .inr ⟨before, value, after, hloads.sameView, hoperation, rfl⟩

theorem opened_cases (world : World) (process : ℕ) (accountId : String) (now : ℕ) (fault : Fault) :
    (step documentBytes world (.opened process accountId now fault)).current = world.current ∨
      ∃ before, SameView world.current before ∧
        (step documentBytes world (.opened process accountId now fault)).current =
          (before.recover now).2 := by
  rcases hopen : openOutbox documentBytes world.document accountId now fault with
    ⟨result, document⟩
  have hcurrent : (step documentBytes world (.opened process accountId now fault)).current =
      document.getD (.new "" 0) := by
    cases result <;> simp only [step, hopen] <;> rfl
  rw [hcurrent]
  unfold openOutbox at hopen
  split_ifs at hopen with hempty
  · obtain ⟨-, rfl⟩ := Prod.mk.inj hopen
    exact .inl rfl
  · obtain ⟨rfl, -⟩ | ⟨before, value, after, hview, hoperation, hafter⟩ :=
      written_cases documentBytes hopen
    · exact .inl rfl
    · refine .inr ⟨before, hview, ?_⟩
      rw [hafter]
      exact (Prod.mk.inj hoperation).2.symm

theorem requested_cases (world : World) (process : ℕ) (request : Request) (now : ℕ)
    (fault : Fault) :
    (step documentBytes world (.requested process request now fault)).current = world.current ∧
        (∀ accountId, world.processes.lookup process = some accountId →
          (submit documentBytes world.document accountId request now fault).1.isOk = false) ∨
      ∃ before, SameView world.current before ∧
        request.operation now before = (.ok (),
          (step documentBytes world (.requested process request now fault)).current) := by
  cases hprocess : world.processes.lookup process with
  | none =>
    refine .inl ⟨by simp only [step, hprocess], ?_⟩
    rintro accountId h
    cases h
  | some accountId =>
    rcases hsubmit : submit documentBytes world.document accountId request now fault with
      ⟨result, document⟩
    have hcurrent : (step documentBytes world (.requested process request now fault)).current =
        document.getD (.new "" 0) := by
      cases result <;> simp only [step, hprocess, hsubmit] <;> rfl
    rw [hcurrent]
    obtain ⟨rfl, error, rfl⟩ | ⟨before, value, after, hview, hoperation, hafter⟩ :=
      written_cases documentBytes hsubmit
    · refine .inl ⟨rfl, ?_⟩
      rintro account h
      obtain rfl := Option.some.inj h
      rw [hsubmit]
      rfl
    · exact .inr ⟨before, hview, hafter ▸ hoperation⟩

end GreenBubbles.Outbox
