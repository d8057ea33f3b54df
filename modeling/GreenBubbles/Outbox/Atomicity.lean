import GreenBubbles.Outbox.Dispatch
import GreenBubbles.Outbox.Document

/-! # Atomic calls

A refused call leaves the file as it was and a granted one leaves all of its
effect. What an operation makes within the limits on counts is written and read
back only where it fits the limit on bytes together with the final newline.
-/
namespace GreenBubbles.Outbox

open Library.Runs SendOutboxState

variable (documentBytes : SendOutboxState → ℕ)

/-- The operation turns the document its transaction loads into `after`, within
the limits on counts. -/
def Makes (document : Option SendOutboxState) (accountId : String) (request : Request) (now : ℕ)
    (after : SendOutboxState) : Prop :=
  ∃ before, Loads accountId now document before ∧
    request.operation now before = (.ok (), after) ∧ after.validate accountId = .ok ()

structure Atomic (document : Option SendOutboxState) (accountId : String) (request : Request)
    (now : ℕ) (fault : Fault) : Prop where
  refused : ∀ error,
    (submit documentBytes document accountId request now fault).1 = .error error →
      (submit documentBytes document accountId request now fault).2 = document
  granted : (submit documentBytes document accountId request now fault).1 = .ok () →
    ∃ after, Makes document accountId request now after ∧
      (submit documentBytes document accountId request now fault).2 = some after
  readable : ∀ after, Makes document accountId request now after →
    submit documentBytes document accountId request now .none = (.ok (), some after) ∧
      ∀ later, readState documentBytes (some after) accountId later = .ok (after, true)

/-- The file of what the operation makes stays within its limit, newline included,
and no error strikes between the rename of a new file and the return. -/
structure Fits (document : Option SendOutboxState) (accountId : String) (request : Request)
    (now : ℕ) (fault : Fault) : Prop where
  bounded : ∀ after, Makes document accountId request now after →
    documentBytes after + 1 ≤ maximumOutboxBytes
  synchronized : fault = .afterRename → ∀ after, Makes document accountId request now after →
    document = some after

/-- The file can be read again. -/
def Readable (document : Option SendOutboxState) : Prop :=
  ∀ state, document = some state →
    documentBytes state + 1 ≤ maximumOutboxBytes ∧ state.validate state.accountId = .ok ()

variable {documentBytes} {document : Option SendOutboxState} {accountId : String}
  {request : Request} {now : ℕ} {fault : Fault} {before after : SendOutboxState}

theorem validate_account (h : before.validate accountId = .ok ()) : before.accountId = accountId := by
  unfold validate at h
  split_ifs at h with hversion haccount
  simpa using haccount

theorem readState_of_loads (hreadable : Readable documentBytes document)
    (h : Loads accountId now document before) :
    readState documentBytes document accountId now = .ok (before, document.isSome) := by
  cases h with
  | fresh => rfl
  | stored hvalid =>
    have hbytes : ¬ maximumOutboxBytes < documentBytes before + 1 := by
      have hbound := (hreadable before rfl).1
      omega
    simp [readState, hbytes, hvalid]

/-- A transaction is its operation, then the writer where there is something to write. -/
theorem submit_eq (hreadable : Readable documentBytes document)
    (hmakes : Makes document accountId request now after) :
    submit documentBytes document accountId request now fault =
      if document = some after then (.ok (), some after)
      else persist documentBytes document after fault := by
  obtain ⟨before, hloads, hoperation, hvalid⟩ := hmakes
  have hread := readState_of_loads hreadable hloads
  unfold submit transaction
  simp only [hread, hoperation, hvalid]
  cases hloads with
  | fresh =>
    simp only [Option.isSome_none, Bool.not_false, true_or, if_true, reduceCtorEq, if_false]
    rcases persist documentBytes none after fault with ⟨_ | _, _⟩ <;> rfl
  | stored hbefore =>
    by_cases hsame : after = before
    · simp [hsame]
    · have hother : ¬ before = after := fun h => hsame h.symm
      simp only [Option.isSome_some, Bool.not_true, Bool.false_eq_true, false_or, ne_eq, hsame,
        not_false_eq_true, if_true, Option.some.injEq, hother, if_false]
      rcases persist documentBytes (some before) after fault with ⟨_ | _, _⟩ <;> rfl

theorem submit_granted {written : Option SendOutboxState}
    (h : submit documentBytes document accountId request now fault = (.ok (), written)) :
    ∃ after, Makes document accountId request now after ∧ written = some after := by
  unfold submit at h
  have hread : ∃ before materialized,
      readState documentBytes document accountId now = .ok (before, materialized) := by
    cases hread : readState documentBytes document accountId now with
    | error error => simp [transaction, hread] at h
    | ok loaded => exact ⟨loaded.1, loaded.2, rfl⟩
  obtain ⟨before, materialized, hread⟩ := hread
  have hloads := (readState_ok documentBytes hread).1
  obtain ⟨rfl, ⟨error, herror⟩ | ⟨value, same, hsame, -, hoperation⟩⟩ |
      ⟨loaded, value, after, hloads', hoperation, hvalid, hwritten, -⟩ :=
    transaction_cases documentBytes h
  · cases herror
  · refine ⟨same, ⟨same, ?_, hoperation, ?_⟩, hsame⟩
    · rw [hsame] at hloads ⊢
      cases hloads with
      | stored hvalid => exact .stored hvalid
    · rw [hsame] at hloads
      cases hloads with
      | stored hvalid => exact hvalid
  · exact ⟨after, ⟨loaded, hloads', hoperation, hvalid⟩, hwritten⟩

/-- A call on a readable file is atomic exactly where what it makes fits. -/
theorem atomic_iff (hreadable : Readable documentBytes document) :
    Atomic documentBytes document accountId request now fault ↔
      Fits documentBytes document accountId request now fault := by
  constructor
  · intro h
    have hbounded : ∀ after, Makes document accountId request now after →
        documentBytes after + 1 ≤ maximumOutboxBytes := by
      intro after hmakes
      have hread := (h.readable after hmakes).2 0
      by_contra hbytes
      simp [readState, Nat.lt_of_not_le hbytes] at hread
    refine ⟨hbounded, ?_⟩
    rintro rfl after hmakes
    by_contra hchanged
    have hbytes : ¬ maximumOutboxBytes < documentBytes after := by
      have hbound := hbounded after hmakes
      omega
    have hsubmit : submit documentBytes document accountId request now .afterRename = _ :=
      submit_eq hreadable hmakes
    rw [if_neg hchanged, persist, if_neg hbytes] at hsubmit
    have hrefused := h.refused (.io "send outbox directory was not synchronized")
      (by rw [hsubmit])
    rw [hsubmit] at hrefused
    exact hchanged hrefused.symm
  · intro h
    refine ⟨?_, ?_, ?_⟩
    · intro error herror
      rcases hsubmit : submit documentBytes document accountId request now fault with
        ⟨result, written⟩
      rw [hsubmit] at herror
      dsimp only at herror
      subst herror
      by_cases hfault : fault = .afterRename
      · obtain ⟨hwritten, -⟩ | ⟨before, value, after, hloads, hoperation, hvalid, hwritten, -⟩ :=
          transaction_cases documentBytes hsubmit
        · exact hwritten
        · exact hwritten.trans
            (h.synchronized hfault after ⟨before, hloads, hoperation, hvalid⟩).symm
      · exact transaction_refused documentBytes hfault hsubmit
    · intro hgranted
      rcases hsubmit : submit documentBytes document accountId request now fault with
        ⟨result, written⟩
      rw [hsubmit] at hgranted
      dsimp only at hgranted
      subst hgranted
      exact submit_granted hsubmit
    · intro after hmakes
      have hbound := h.bounded after hmakes
      have hbytes : ¬ maximumOutboxBytes < documentBytes after := by omega
      have hline : ¬ maximumOutboxBytes < documentBytes after + 1 := by omega
      obtain ⟨before, -, -, hvalid⟩ := id hmakes
      refine ⟨?_, ?_⟩
      · rw [submit_eq hreadable hmakes, persist, if_neg hbytes]
        split_ifs <;> rfl
      · intro later
        simp [readState, hline, hvalid]

/-! Runs -/

variable (documentBytes) in
/-- The call an event makes fits the file. -/
def Event.Fits (world : World) : Event → Prop
  | .opened _ accountId now fault =>
    accountId ≠ "" → Outbox.Fits documentBytes world.document accountId .recover now fault
  | .requested process request now fault =>
    ∀ accountId, world.processes.lookup process = some accountId →
      Outbox.Fits documentBytes world.document accountId request now fault
  | .crashed _ => True

theorem Fits.written {written : Option SendOutboxState}
    (h : Fits documentBytes document accountId request now fault)
    (hreadable : Readable documentBytes document)
    (hwritten : written = document ∨
      ∃ after, Makes document accountId request now after ∧ written = some after) :
    Readable documentBytes written := by
  obtain rfl | ⟨after, hmakes, rfl⟩ := hwritten
  · exact hreadable
  · intro state hstate
    obtain rfl := Option.some.inj hstate
    obtain ⟨before, -, -, hvalid⟩ := id hmakes
    exact ⟨h.bounded after hmakes, (validate_account hvalid).symm ▸ hvalid⟩

theorem submit_written :
    (submit documentBytes document accountId request now fault).2 = document ∨
      ∃ after, Makes document accountId request now after ∧
        (submit documentBytes document accountId request now fault).2 = some after := by
  rcases hsubmit : submit documentBytes document accountId request now fault with ⟨result, written⟩
  obtain ⟨hwritten, -⟩ | ⟨before, value, after, hloads, hoperation, hvalid, hwritten, -⟩ :=
    transaction_cases documentBytes hsubmit
  · exact .inl hwritten
  · exact .inr ⟨after, ⟨before, hloads, hoperation, hvalid⟩, hwritten⟩

/-- Opening an outbox writes what a recovery makes of its document. -/
theorem openOutbox_written (haccount : accountId ≠ "") :
    (openOutbox documentBytes document accountId now fault).2 = document ∨
      ∃ after, Makes document accountId .recover now after ∧
        (openOutbox documentBytes document accountId now fault).2 = some after := by
  have hempty : ¬ accountId.isEmpty = true := by simpa using haccount
  rw [openOutbox, if_neg hempty]
  rcases hopen : transaction documentBytes document accountId
    (fun state => (Except.ok (state.recover now).1, (state.recover now).2)) now fault with
    ⟨result, written⟩
  obtain ⟨hwritten, -⟩ | ⟨before, value, after, hloads, hoperation, hvalid, hwritten, -⟩ :=
    transaction_cases documentBytes hopen
  · exact .inl hwritten
  · have hafter := (Prod.mk.inj hoperation).2
    exact .inr ⟨after, ⟨before, hloads, by rw [Request.operation, hafter], hvalid⟩, hwritten⟩

theorem step_readable (world : World) (event : Event)
    (h : Readable documentBytes world.document) (hfits : event.Fits documentBytes world) :
    Readable documentBytes (step documentBytes world event).document := by
  cases event with
  | opened process accountId now fault =>
    have hdocument : (step documentBytes world (.opened process accountId now fault)).document =
        (openOutbox documentBytes world.document accountId now fault).2 := by
      rcases hopen : openOutbox documentBytes world.document accountId now fault with ⟨_ | _, _⟩ <;>
        simp only [step, hopen] <;> rfl
    rw [hdocument]
    by_cases haccount : accountId = ""
    · rw [openOutbox, if_pos (by simp [haccount])]
      exact h
    · exact (hfits haccount).written h (openOutbox_written haccount)
  | requested process request now fault =>
    cases hprocess : world.processes.lookup process with
    | none => simpa [step, hprocess] using h
    | some accountId =>
      have hdocument :
          (step documentBytes world (.requested process request now fault)).document =
            (submit documentBytes world.document accountId request now fault).2 := by
        rcases hsubmit : submit documentBytes world.document accountId request now fault with
          ⟨_ | _, _⟩ <;> simp only [step, hprocess, hsubmit] <;> rfl
      rw [hdocument]
      exact (hfits accountId hprocess).written h submit_written
  | crashed process => exact h

theorem run_readable (events : List Event)
    (h : Meets (step documentBytes) (Event.Fits documentBytes) World.initial events) :
    Readable documentBytes (execute (step documentBytes) World.initial events).document := by
  have hinitial : Readable documentBytes World.initial.document := by
    intro state hstate
    cases hstate
  exact Meets.invariant (I := fun world => Readable documentBytes world.document)
    (step documentBytes) step_readable h hinitial

/-! The attempt in flight -/

theorem validate_unresolved (h : before.validate accountId = .ok ())
    (hversion : after.formatVersion = before.formatVersion)
    (haccount : after.accountId = before.accountId)
    (hkeys : after.reservedIdempotencyKeys = before.reservedIdempotencyKeys)
    (hcompletions : after.completions.length ≤ maximumCompletionHistory)
    (hpending : after.pendingReconciliation.length ≤ maximumPendingReconciliation)
    (hunresolved : ∀ entry ∈ after.unresolved, ∃ held ∈ before.unresolved,
      entry.structurallyValid = held.structurallyValid ∧ entry.accountId = held.accountId ∧
        entry.idempotencyKey = held.idempotencyKey) :
    after.validate accountId = .ok () := by
  unfold validate at h ⊢
  rw [hversion, haccount, hkeys]
  split_ifs at h with hformat hother hcounts hentries
  rw [if_neg hformat, if_neg hother, if_neg (by omega), if_neg]
  intro hany
  obtain ⟨entry, hentry, hbad⟩ := List.any_eq_true.mp hany
  obtain ⟨held, hheld, hvalid, hsame, hkey⟩ := hunresolved entry hentry
  refine hentries (List.any_eq_true.mpr ⟨held, hheld, ?_⟩)
  rwa [hvalid, hsame, hkey] at hbad

/-- An entry in flight, with nothing parked, can be completed whatever was observed. -/
theorem complete_makes {entry : OutboxEntry} (record : SendCompletionRecord)
    (threshold cooldown : ℕ) (hvalid : before.validate accountId = .ok ())
    (hflight : before.inFlight = some entry) (hpending : before.pendingReconciliation = []) :
    Makes (some before) accountId (.complete entry.idempotencyKey record threshold cooldown)
        now (before.settled entry record now threshold cooldown) ∧
      (before.settled entry record now threshold cooldown).inFlight = none := by
  have hhistory : before.completions.length ≤ maximumCompletionHistory := by
    unfold validate at hvalid
    split_ifs at hvalid with hformat hother hcounts
    omega
  have hheld : entry ∈ before.unresolved := by simp [unresolved, hflight]
  have hcomplete := refusable_eq_ok.mpr (complete_eq record now threshold cooldown hflight hpending)
  have hafter : (before.settled entry record now threshold cooldown).validate accountId = .ok () := by
    cases houtcome : record.outcome with
    | awaitingReconciliation =>
      simp only [settled, houtcome]
      refine validate_unresolved hvalid rfl rfl rfl hhistory ?_ ?_
      · simp [park, hpending, maximumPendingReconciliation]
      · intro parked hparked
        simp only [unresolved, park, hpending, Option.toList_none, List.nil_append,
          List.mem_singleton] at hparked
        subst hparked
        exact ⟨entry, hheld, rfl, rfl, rfl⟩
    | completed kind =>
      simp only [settled, houtcome]
      refine validate_unresolved hvalid rfl rfl rfl ?_ ?_ ?_
      · simp only [pushCompletion, List.length_drop]
        omega
      · simp [pushCompletion, hpending]
      · intro other hother
        simp [unresolved, pushCompletion, hpending] at hother
  refine ⟨⟨before, .stored hvalid, hcomplete, hafter⟩, ?_⟩
  cases houtcome : record.outcome <;> simp [settled, houtcome, park, pushCompletion]

/-- Along a run whose calls fit, a call is atomic exactly where it fits, what is
in the file reads back as it was written, and whatever is in flight can be completed. -/
theorem operations_atomic (documentBytes : SendOutboxState → ℕ) (events : List Event)
    (h : Meets (step documentBytes) (Event.Fits documentBytes) World.initial events) :
    let world := execute (step documentBytes) World.initial events
    (∀ document accountId request now fault written,
      (fault ≠ .afterRename → ∀ error,
        submit documentBytes document accountId request now fault = (.error error, written) →
          written = document) ∧
      (submit documentBytes document accountId request now fault = (.ok (), written) →
        ∃ after, Makes document accountId request now after ∧ written = some after)) ∧
    (∀ accountId request now fault,
      Atomic documentBytes world.document accountId request now fault ↔
        Fits documentBytes world.document accountId request now fault) ∧
    (∀ state now, world.document = some state →
      readState documentBytes world.document state.accountId now = .ok (state, true)) ∧
    ∀ entry record threshold cooldown now,
      let complete := Request.complete entry.idempotencyKey record threshold cooldown
      world.current.inFlight = some entry →
      Fits documentBytes world.document world.current.accountId complete now .none →
        ∃ after, submit documentBytes world.document world.current.accountId complete now .none =
          (.ok (), some after) ∧ after.inFlight = none := by
  intro world
  have hreadable : Readable documentBytes world.document := run_readable events h
  refine ⟨?_, ?_, ?_, ?_⟩
  · intro document accountId request now fault written
    exact ⟨fun hfault error hsubmit => transaction_refused documentBytes hfault hsubmit,
      submit_granted⟩
  · intro accountId request now fault
    exact atomic_iff hreadable
  · intro state now hstate
    have hloads : Loads state.accountId now world.document state := by
      rw [hstate]
      exact .stored (hreadable state hstate).2
    rw [readState_of_loads hreadable hloads, hstate]
    rfl
  · intro entry record threshold cooldown now complete hflight hfits
    have hcoupled : Coupled world.current world.history :=
      run_coupled documentBytes World.initial events coupled_initial
    have hpending := hcoupled.represents.pending_eq_nil hflight
    have hdocument : world.document = some world.current := by
      cases hdocument : world.document with
      | none => simp [World.current, hdocument, SendOutboxState.new] at hflight
      | some state => simp [World.current, hdocument]
    obtain ⟨hmakes, hidle⟩ := complete_makes record threshold cooldown
      (hreadable _ hdocument).2 hflight hpending
    rw [← hdocument] at hmakes
    exact ⟨_, (((atomic_iff hreadable).mpr hfits).readable _ hmakes).1, hidle⟩

theorem makes_fresh (h : Makes none accountId .recover now after) : after = .new accountId now := by
  obtain ⟨before, hloads, hoperation, -⟩ := h
  cases hloads with
  | fresh => exact (Prod.mk.inj hoperation).2.symm

theorem validate_new (accountId : String) (now : ℕ) :
    (SendOutboxState.new accountId now).validate accountId = .ok () := by
  simp [validate, SendOutboxState.new, unresolved, maximumReservedIdempotencyKeys,
    maximumCompletionHistory, maximumPendingReconciliation]

theorem fresh_makes (accountId : String) (now : ℕ) :
    Makes none accountId .recover now (.new accountId now) :=
  ⟨_, .fresh, rfl, validate_new accountId now⟩

theorem sampleRun_atomic :
    Meets (step encodedBytes) (Event.Fits encodedBytes) World.initial
        [.opened 0 "account" 0 .none] ∧
      (Atomic encodedBytes
          (execute (step encodedBytes) World.initial [.opened 0 "account" 0 .none]).document
          "account" .state 1 .none ↔
        Fits encodedBytes
          (execute (step encodedBytes) World.initial [.opened 0 "account" 0 .none]).document
          "account" .state 1 .none) := by
  have hfits : Meets (step encodedBytes) (Event.Fits encodedBytes) World.initial
      [.opened 0 "account" 0 .none] := by
    refine ⟨?_, trivial⟩
    intro hname
    refine ⟨?_, ?_⟩
    · intro after hmakes
      rw [makes_fresh hmakes, encodedBytes_account]
      have hfresh : { SendOutboxState.new "account" 0 with accountId := "" }.encodedBytes = 601 :=
        encodedBytes_fresh
      have haccount : Library.Json.byteCount
          ((SendOutboxState.new "account" 0).accountId.toList.flatMap Library.Json.escape) = 7 := by
        decide
      rw [hfresh, haccount]
      decide
    · intro hfault
      cases hfault
  exact ⟨hfits, (operations_atomic encodedBytes _ hfits).2.1 "account" .state 1 .none⟩

/-- A fresh document that fills the limit is written, and its file is a byte too long. -/
theorem fresh_unreadable (hbytes : encodedBytes (.new accountId 0) = maximumOutboxBytes) :
    submit encodedBytes none accountId .recover 0 .none = (.ok (), some (.new accountId 0)) ∧
      readState encodedBytes (some (.new accountId 0)) accountId 0 =
        .error (.integrity "send outbox state must be a bounded owner-only regular file") := by
  have hnone : Readable encodedBytes none := by
    intro state hstate
    cases hstate
  refine ⟨?_, ?_⟩
  · rw [submit_eq hnone (fresh_makes accountId 0), if_neg (by simp), persist, hbytes]
    simp
  · simp [readState, hbytes]

theorem encodedBytes_replicate (count : ℕ) :
    encodedBytes (.new (String.ofList (List.replicate count 'a')) 0) = count + 601 := by
  have hescape : Library.Json.escape 'a' = ['a'] := by decide
  have hone : 'a'.utf8Size = 1 := by decide
  have hfresh : { SendOutboxState.new (String.ofList (List.replicate count 'a')) 0 with
      accountId := "" }.encodedBytes = 601 := encodedBytes_fresh
  rw [encodedBytes_account, hfresh, SendOutboxState.new, String.toList_ofList,
    List.flatMap_replicate, hescape, List.flatten_replicate_singleton,
    Library.Json.byteCount_replicate, hone, Nat.mul_one]

/-- An account whose fresh document takes 8 MiB. -/
def sampleAccountId : String := String.ofList (List.replicate (maximumOutboxBytes - 601) 'a')

theorem sampleAccount_unreadable :
    submit encodedBytes World.initial.document sampleAccountId .recover 0 .none =
        (.ok (), some (.new sampleAccountId 0)) ∧
      readState encodedBytes (some (.new sampleAccountId 0)) sampleAccountId 0 =
        .error (.integrity "send outbox state must be a bounded owner-only regular file") ∧
      ¬ Atomic encodedBytes World.initial.document sampleAccountId .recover 0 .none := by
  have hbytes : encodedBytes (.new sampleAccountId 0) = maximumOutboxBytes := by
    have hlimit : 601 ≤ maximumOutboxBytes := by norm_num [maximumOutboxBytes]
    have hsize := encodedBytes_replicate (maximumOutboxBytes - 601)
    rwa [Nat.sub_add_cancel hlimit] at hsize
  obtain ⟨hwritten, hread⟩ := fresh_unreadable hbytes
  refine ⟨hwritten, hread, ?_⟩
  intro h
  have hagain := (h.readable _ (fresh_makes sampleAccountId 0)).2 0
  rw [hread] at hagain
  cases hagain

end GreenBubbles.Outbox
