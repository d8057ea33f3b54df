import GreenBubbles.Outbox.Operations

/-! # The durable outbox store

Every public operation is one transaction: it reads the document under an
exclusive lock, runs one mutation and persists the result by an atomic rename.
The size of the encoded document is a parameter.
-/
namespace GreenBubbles.Outbox

/-- Where an input/output error strikes a transaction that has a document to persist. -/
inductive Fault where
  | none
  | beforeRename
  | afterRename
  deriving DecidableEq

variable (documentBytes : SendOutboxState → ℕ)

def readState (document : Option SendOutboxState) (accountId : String) (now : ℕ) :
    Except RestoreError (SendOutboxState × Bool) :=
  match document with
  | none => .ok (.new accountId now, false)
  | some state =>
    -- The file ends in a newline, which the bound of the writer does not count.
    if maximumOutboxBytes < documentBytes state + 1 then
      .error (.integrity "send outbox state must be a bounded owner-only regular file")
    else
      match state.validate accountId with
      | .error error => .error error
      | .ok () => .ok (state, true)

def persist (document : Option SendOutboxState) (state : SendOutboxState) (fault : Fault) :
    Except RestoreError Unit × Option SendOutboxState :=
  if maximumOutboxBytes < documentBytes state then
    (.error (.integrity "send outbox state exceeds its bounded size"), document)
  else
    match fault with
    | .none => (.ok (), some state)
    | .beforeRename => (.error (.io "send outbox state was not renamed"), document)
    | .afterRename => (.error (.io "send outbox directory was not synchronized"), some state)

/-- Persists the new state if and only if the operation succeeds. -/
def transaction {α : Type} (document : Option SendOutboxState) (accountId : String)
    (operation : SendOutboxState → Except RestoreError α × SendOutboxState) (now : ℕ)
    (fault : Fault) : Except RestoreError α × Option SendOutboxState :=
  match readState documentBytes document accountId now with
  | .error error => (.error error, document)
  | .ok (before, alreadyMaterialized) =>
    match operation before with
    | (.error error, _) => (.error error, document)
    | (.ok value, state) =>
      if !alreadyMaterialized ∨ state ≠ before then
        match state.validate accountId with
        | .error error => (.error error, document)
        | .ok () =>
          match persist documentBytes document state fault with
          | (.error error, written) => (.error error, written)
          | (.ok (), written) => (.ok value, written)
      else (.ok value, document)

def openOutbox (document : Option SendOutboxState) (accountId : String) (now : ℕ)
    (fault : Fault) : Except RestoreError SendOutboxRecovery × Option SendOutboxState :=
  if accountId.isEmpty then
    (.error (.integrity "send outbox requires a non-empty account identity"), document)
  else
    transaction documentBytes document accountId
      (fun state => ((.ok (state.recover now).1), (state.recover now).2)) now fault

/-- The transactions an opened outbox accepts. -/
inductive Request where
  | reserve (entry : OutboxEntry) (windowNanoseconds maximumAttempts : ℕ)
  | markAttempted (idempotencyKey : String)
  | complete (idempotencyKey : String) (record : SendCompletionRecord)
      (failureThreshold cooldown : ℕ)
  | resolvePending (idempotencyKey : String) (kind : SendCompletionKind)
      (reconciledByReplica : Bool)
  | recover
  | state

def refusable (result : Except SendFailureCode Unit × SendOutboxState) :
    Except RestoreError Unit × SendOutboxState :=
  match result with
  | (.error failure, state) => (.error (failureError failure), state)
  | (.ok (), state) => (.ok (), state)

def Request.operation (request : Request) (now : ℕ) (state : SendOutboxState) :
    Except RestoreError Unit × SendOutboxState :=
  match request with
  | .reserve entry window limit => refusable (state.reserve entry now window limit)
  | .markAttempted key => refusable (state.markAttempted key now)
  | .complete key record threshold cooldown =>
    refusable (state.complete key record now threshold cooldown)
  | .resolvePending key kind reconciled => refusable (state.resolvePending key kind reconciled now)
  | .recover => (.ok (), (state.recover now).2)
  | .state => (.ok (), state)

@[simp] theorem refusable_eq_ok {result : Except SendFailureCode Unit × SendOutboxState}
    {after : SendOutboxState} : refusable result = (.ok (), after) ↔ result = (.ok (), after) := by
  obtain ⟨_ | _, state⟩ := result <;> simp [refusable]

/-- A document some transaction of this account starts from. -/
inductive Loads (accountId : String) (now : ℕ) :
    Option SendOutboxState → SendOutboxState → Prop
  | fresh : Loads accountId now none (.new accountId now)
  | stored {state : SendOutboxState} (valid : state.validate accountId = .ok ()) :
      Loads accountId now (some state) state

theorem readState_ok {document : Option SendOutboxState} {accountId : String} {now : ℕ}
    {before : SendOutboxState} {materialized : Bool}
    (h : readState documentBytes document accountId now = .ok (before, materialized)) :
    Loads accountId now document before ∧
      (materialized = true → document = some before) := by
  cases document with
  | none =>
    simp only [readState, Except.ok.injEq, Prod.mk.injEq] at h
    obtain ⟨rfl, rfl⟩ := h
    exact ⟨.fresh, by simp⟩
  | some state =>
    simp only [readState] at h
    split_ifs at h with hsize
    cases hvalid : state.validate accountId with
    | error error => simp [hvalid] at h
    | ok value =>
      simp only [hvalid, Except.ok.injEq, Prod.mk.injEq] at h
      obtain ⟨rfl, rfl⟩ := h
      exact ⟨.stored hvalid, fun _ => rfl⟩

theorem persist_cases {document written : Option SendOutboxState} {state : SendOutboxState}
    {fault : Fault} {result : Except RestoreError Unit}
    (h : persist documentBytes document state fault = (result, written)) :
    written = some state ∨ (written = document ∧ ∃ error, result = .error error) := by
  unfold persist at h
  split_ifs at h with hsize
  · obtain ⟨rfl, rfl⟩ := Prod.mk.inj h
    exact .inr ⟨rfl, _, rfl⟩
  · cases fault <;> obtain ⟨rfl, rfl⟩ := Prod.mk.inj h
    · exact .inl rfl
    · exact .inr ⟨rfl, _, rfl⟩
    · exact .inl rfl

/-- A transaction leaves the document alone, without granting a change, or
writes what its operation made of the document it loaded. -/
theorem transaction_cases {α : Type} {document written : Option SendOutboxState}
    {accountId : String} {operation : SendOutboxState → Except RestoreError α × SendOutboxState}
    {now : ℕ} {fault : Fault} {result : Except RestoreError α}
    (h : transaction documentBytes document accountId operation now fault = (result, written)) :
    (written = document ∧
      ((∃ error, result = .error error) ∨
        ∃ value before, document = some before ∧ result = .ok value ∧
          operation before = (.ok value, before))) ∨
    ∃ before value state, Loads accountId now document before ∧
      operation before = (.ok value, state) ∧ state.validate accountId = .ok () ∧
      written = some state ∧ (result = .ok value ∨ ∃ error, result = .error error) := by
  unfold transaction at h
  cases hread : readState documentBytes document accountId now with
  | error error =>
    simp only [hread, Prod.mk.injEq] at h
    exact .inl ⟨h.2.symm, .inl ⟨error, h.1.symm⟩⟩
  | ok loaded =>
    obtain ⟨before, materialized⟩ := loaded
    obtain ⟨hloads, hstored⟩ := readState_ok documentBytes hread
    rcases hoperation : operation before with ⟨outcome, state⟩
    simp only [hread, hoperation] at h
    cases outcome with
    | error error =>
      simp only [Prod.mk.injEq] at h
      exact .inl ⟨h.2.symm, .inl ⟨error, h.1.symm⟩⟩
    | ok value =>
      simp only at h
      split_ifs at h with hchanged
      · cases hvalid : state.validate accountId with
        | error error =>
          simp only [hvalid, Prod.mk.injEq] at h
          exact .inl ⟨h.2.symm, .inl ⟨error, h.1.symm⟩⟩
        | ok done =>
          rcases hpersist : persist documentBytes document state fault with ⟨persisted, document'⟩
          have hcases := persist_cases documentBytes hpersist
          simp only [hvalid, hpersist] at h
          cases persisted with
          | error error =>
            simp only [Prod.mk.injEq] at h
            obtain ⟨rfl, rfl⟩ := h
            obtain hwritten | ⟨hwritten, -⟩ := hcases
            · exact .inr ⟨before, value, state, hloads, hoperation, hvalid, hwritten,
                .inr ⟨error, rfl⟩⟩
            · exact .inl ⟨hwritten, .inl ⟨error, rfl⟩⟩
          | ok done =>
            simp only [Prod.mk.injEq] at h
            obtain ⟨rfl, rfl⟩ := h
            obtain hwritten | ⟨-, error, herror⟩ := hcases
            · exact .inr ⟨before, value, state, hloads, hoperation, hvalid, hwritten, .inl rfl⟩
            · cases herror
      · simp only [not_or, Bool.not_eq_true, Bool.not_eq_false', not_not] at hchanged
        simp only [Prod.mk.injEq] at h
        obtain ⟨hmaterialized, rfl⟩ := hchanged
        exact .inl ⟨h.2.symm, .inr ⟨value, state, hstored hmaterialized, h.1.symm, hoperation⟩⟩

/-- A fault after the rename leaves the document of a transaction that meets none. -/
theorem transaction_afterRename {α : Type} {document : Option SendOutboxState} {accountId : String}
    {operation : SendOutboxState → Except RestoreError α × SendOutboxState} {now : ℕ} :
    (transaction documentBytes document accountId operation now .afterRename).2 =
      (transaction documentBytes document accountId operation now .none).2 := by
  have hpersist : ∀ state, (persist documentBytes document state .afterRename).2 =
      (persist documentBytes document state .none).2 := by
    intro state
    unfold persist
    split_ifs <;> rfl
  unfold transaction
  cases readState documentBytes document accountId now with
  | error error => rfl
  | ok loaded =>
    rcases loaded with ⟨before, materialized⟩
    dsimp only
    rcases operation before with ⟨_ | value, state⟩
    · rfl
    · dsimp only
      split_ifs
      · cases state.validate accountId with
        | error error => rfl
        | ok valid =>
          have hstate := hpersist state
          dsimp only
          generalize persist documentBytes document state .afterRename = first at hstate ⊢
          generalize persist documentBytes document state .none = second at hstate ⊢
          rcases first with ⟨_ | _, _⟩ <;> rcases second with ⟨_ | _, _⟩ <;> exact hstate
      · rfl

/-- What is refused is not written, unless the fault strikes after the rename. -/
theorem transaction_refused {α : Type} {document written : Option SendOutboxState}
    {accountId : String} {operation : SendOutboxState → Except RestoreError α × SendOutboxState}
    {now : ℕ} {fault : Fault} {error : RestoreError} (hfault : fault ≠ .afterRename)
    (h : transaction documentBytes document accountId operation now fault =
      (.error error, written)) : written = document := by
  have hpersist : ∀ state error', (persist documentBytes document state fault).1 = .error error' →
      (persist documentBytes document state fault).2 = document := by
    intro state error' herror
    unfold persist at herror ⊢
    split_ifs at herror ⊢ with hsize
    · rfl
    · cases fault with
      | none => cases herror
      | beforeRename => rfl
      | afterRename => exact absurd rfl hfault
  unfold transaction at h
  cases hread : readState documentBytes document accountId now with
  | error _ =>
    simp only [hread] at h
    exact (Prod.mk.inj h).2.symm
  | ok loaded =>
    rcases loaded with ⟨before, materialized⟩
    rcases hoperation : operation before with ⟨_ | value, state⟩
    · simp only [hread, hoperation] at h
      exact (Prod.mk.inj h).2.symm
    · simp only [hread, hoperation] at h
      split_ifs at h with hchanged
      · cases hvalid : state.validate accountId with
        | error _ =>
          simp only [hvalid] at h
          exact (Prod.mk.inj h).2.symm
        | ok _ =>
          have hstate := hpersist state
          rcases hpersisted : persist documentBytes document state fault with ⟨_ | _, persisted⟩
          · simp only [hvalid, hpersisted] at h
            rw [hpersisted] at hstate
            exact (Prod.mk.inj h).2.symm.trans (hstate _ rfl)
          · simp only [hvalid, hpersisted] at h
            cases (Prod.mk.inj h).1
      · cases (Prod.mk.inj h).1

/-- Without a fault, a change of a loaded document that validates is written. -/
theorem transaction_writes {α : Type} {before after : SendOutboxState} {accountId : String}
    {operation : SendOutboxState → Except RestoreError α × SendOutboxState} {value : α} {now : ℕ}
    (hoperation : operation before = (.ok value, after)) (hchanged : after ≠ before)
    (hbefore : before.validate accountId = .ok ()) (hafter : after.validate accountId = .ok ())
    (hbytes : ∀ state, documentBytes state < maximumOutboxBytes) :
    transaction documentBytes (some before) accountId operation now .none =
      (.ok value, some after) := by
  have hread : ¬ maximumOutboxBytes < documentBytes before + 1 := by
    have hbefore := hbytes before
    omega
  have hpersist : ¬ maximumOutboxBytes < documentBytes after := by
    have hafter := hbytes after
    omega
  simp [transaction, readState, hread, hbefore, hoperation, hchanged, hafter, persist, hpersist]

end GreenBubbles.Outbox
