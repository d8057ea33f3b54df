import GreenBubbles.Library.Runs
import GreenBubbles.Outbox.Ledger

/-! # At-most-once dispatch

Any number of processes run transactions against one outbox document and may
crash between any two of them, or be struck by an input/output error inside one.
-/
namespace GreenBubbles.Outbox

open Library.Runs Library.SingleFlight

structure World where
  document : Option SendOutboxState
  processes : List (ℕ × String)
  history : History

namespace World

def initial : World := ⟨none, [], ⟨[], [], []⟩⟩

/-- The document, or the one the first transaction materializes. -/
def current (world : World) : SendOutboxState := world.document.getD (.new "" 0)

def written (world : World) (document : Option SendOutboxState) (offers : List String) : World :=
  { world with
    document := document
    history := world.history.observe world.current (document.getD (.new "" 0)) offers }

end World

inductive Event where
  | opened (process : ℕ) (accountId : String) (now : ℕ) (fault : Fault)
  | requested (process : ℕ) (request : Request) (now : ℕ) (fault : Fault)
  | crashed (process : ℕ)

variable (documentBytes : SendOutboxState → ℕ)

def submit (document : Option SendOutboxState) (accountId : String) (request : Request)
    (now : ℕ) (fault : Fault) : Except RestoreError Unit × Option SendOutboxState :=
  transaction documentBytes document accountId (request.operation now) now fault

def step (world : World) : Event → World
  | .opened process accountId now fault =>
    match openOutbox documentBytes world.document accountId now fault with
    | (.error _, document) => world.written document []
    | (.ok _, document) =>
      let next := world.written document []
      { next with processes := (process, accountId) :: next.processes }
  | .requested process request now fault =>
    match world.processes.lookup process with
    | none => world
    | some accountId =>
      match submit documentBytes world.document accountId request now fault with
      | (.error _, document) => world.written document []
      | (.ok (), document) => world.written document request.offers
  | .crashed process =>
    { world with processes := world.processes.filter (·.1 ≠ process) }

/-- The history and the ledger of a world are in order. -/
structure Coupled (state : SendOutboxState) (history : History) : Prop where
  represents : Represents state history
  wellFormed : WellFormed (ledger state history)

/-- `after` follows from `before` by at most one step of the ledger. -/
def Advances (before : SendOutboxState) (history : History) (after : SendOutboxState)
    (offers : List String) : Prop :=
  Represents after (history.observe before after offers) ∧
    Relation.ReflGen Step (ledger before history) (ledger after (history.observe before after offers))

theorem Advances.coupled {before after : SendOutboxState} {history : History}
    {offers : List String} (h : Advances before history after offers)
    (hcoupled : Coupled before history) : Coupled after (history.observe before after offers) := by
  refine ⟨h.1, ?_⟩
  obtain hledger | hstep := (Relation.reflGen_iff Step _ _).mp h.2
  · exact hledger ▸ hcoupled.wellFormed
  · exact hstep.wellFormed hcoupled.wellFormed

theorem Coupled.unchanged {state : SendOutboxState} {history : History}
    (h : Coupled state history) : Advances state history state [] := by
  obtain ⟨hrepresents, hledger⟩ := h.represents.unchanged
  exact ⟨hrepresents, hledger ▸ .refl⟩

theorem Coupled.recover {state : SendOutboxState} {history : History} (h : Coupled state history)
    (now : ℕ) : Advances state history (state.recover now).2 [] := by
  cases hflight : state.inFlight with
  | none =>
    rw [state.recover_idle hflight]
    exact h.unchanged
  | some entry =>
    obtain ⟨hrepresents, hstep⟩ :=
      h.represents.settle h.wellFormed (SendOutboxState.recover_settles hflight)
    exact ⟨hrepresents, .single hstep⟩

/-- Every granted request advances the ledger, whether or not its caller learns of it. -/
theorem Coupled.operation {before after : SendOutboxState} {history : History}
    {request : Request} {now : ℕ} {offers : List String} (h : Coupled before history)
    (hoperation : request.operation now before = (.ok (), after))
    (hoffers : offers = [] ∨ offers = request.offers) : Advances before history after offers := by
  cases request with
  | reserve entry window limit =>
    have hreserve := SendOutboxState.reserve_ok (refusable_eq_ok.mp hoperation)
    have htold : offers = [] ∨ (offers = [entry.idempotencyKey] ∧ entry.permitSend = false) := by
      cases hpermit : entry.permitSend <;> simpa [Request.offers, hpermit] using hoffers
    obtain ⟨hrepresents, hstep⟩ := h.represents.reserve h.wellFormed hreserve htold
    exact ⟨hrepresents, .single hstep⟩
  | markAttempted key =>
    obtain ⟨entry, hflight, rfl, hpermit, hstate, hafter⟩ :=
      SendOutboxState.markAttempted_ok (refusable_eq_ok.mp hoperation)
    obtain ⟨hrepresents, hstep⟩ :=
      h.represents.markAttempted hflight hpermit hstate hafter hoffers
    exact ⟨hrepresents, .single hstep⟩
  | complete key record threshold cooldown =>
    obtain ⟨entry, -, hsettle⟩ := SendOutboxState.complete_ok (refusable_eq_ok.mp hoperation)
    obtain rfl : offers = [] := by simpa [Request.offers] using hoffers
    obtain ⟨hrepresents, hstep⟩ := h.represents.settle h.wellFormed hsettle
    exact ⟨hrepresents, .single hstep⟩
  | resolvePending key kind reconciled =>
    obtain ⟨entry, -, hresolve⟩ :=
      SendOutboxState.resolvePending_ok (refusable_eq_ok.mp hoperation)
    obtain rfl : offers = [] := by simpa [Request.offers] using hoffers
    obtain ⟨hrepresents, hstep⟩ := h.represents.resolve h.wellFormed hresolve
    exact ⟨hrepresents, .single hstep⟩
  | recover =>
    obtain rfl : offers = [] := by simpa [Request.offers] using hoffers
    obtain rfl : (before.recover now).2 = after := by simpa [Request.operation] using hoperation
    exact h.recover now
  | state =>
    obtain rfl : offers = [] := by simpa [Request.offers] using hoffers
    obtain rfl : before = after := by simpa [Request.operation] using hoperation
    exact h.unchanged

/-- A request that leaves its document as it was grants no dispatch. -/
theorem operation_unchanged {state : SendOutboxState} {request : Request} {now : ℕ}
    (h : request.operation now state = (.ok (), state)) : request.offers = [] := by
  cases request with
  | reserve entry window limit =>
    have hreserve := SendOutboxState.reserve_ok (refusable_eq_ok.mp h)
    have hidle := hreserve.idle
    rw [hreserve.inFlight] at hidle
    cases hidle
  | markAttempted key =>
    obtain ⟨entry, hflight, -, -, hstate, hafter⟩ :=
      SendOutboxState.markAttempted_ok (refusable_eq_ok.mp h)
    rw [hafter] at hflight
    have hentry := Option.some.inj hflight
    rw [← hentry] at hstate
    cases hstate
  | complete key record threshold cooldown => rfl
  | resolvePending key kind reconciled => rfl
  | recover => rfl
  | state => rfl

/-- The document a transaction loads stands for the current one. -/
theorem Loads.coupled {world : World} {accountId : String} {now : ℕ} {before : SendOutboxState}
    (hloads : Loads accountId now world.document before)
    (h : Coupled world.current world.history) :
    Coupled before world.history ∧ ledger before world.history = ledger world.current world.history ∧
      before.inFlight = world.current.inFlight := by
  obtain ⟨document, processes, history⟩ := world
  cases hloads with
  | fresh =>
    obtain ⟨⟨hkeys, hconsumed, hnewest, hreserved, hsingle, hbounded, hsettled, hburnt⟩, hwf⟩ := h
    exact ⟨⟨⟨hkeys, hconsumed, hnewest, hreserved, hsingle, hbounded, hsettled, hburnt⟩, hwf⟩,
      rfl, rfl⟩
  | stored hvalid => exact ⟨h, rfl, rfl⟩

theorem observe_inFlight {history : History} {before current after : SendOutboxState}
    {offers : List String} (h : before.inFlight = current.inFlight) :
    history.observe before after offers = history.observe current after offers := by
  simp [History.observe, h]

/-- One transaction advances the world's ledger by at most one step. -/
theorem transaction_advances {α : Type} {world : World} {written : Option SendOutboxState}
    {accountId : String} {operation : SendOutboxState → Except RestoreError α × SendOutboxState}
    {now : ℕ} {fault : Fault} {result : Except RestoreError α} {offers : List String}
    (h : Coupled world.current world.history)
    (htransaction : transaction documentBytes world.document accountId operation now fault =
      (result, written))
    (hgranted : offers = [] ∨ ∃ value, result = .ok value)
    (hadvance : ∀ before value after, Coupled before world.history →
      operation before = (.ok value, after) → Advances before world.history after offers)
    (hkept : ∀ state value, operation state = (.ok value, state) → offers = []) :
    Advances world.current world.history (written.getD (.new "" 0)) offers := by
  obtain ⟨rfl, hresult⟩ | ⟨before, value, after, hloads, hoperation, -, rfl, -⟩ :=
    transaction_cases documentBytes htransaction
  · obtain rfl : offers = [] := by
      obtain ⟨error, rfl⟩ | ⟨value, before, -, -, hoperation⟩ := hresult
      · simpa using hgranted
      · exact hkept before value hoperation
    exact h.unchanged
  · obtain ⟨hcoupled, hledger, hflight⟩ := hloads.coupled h
    have hadvances := hadvance before value after hcoupled hoperation
    unfold Advances at hadvances ⊢
    rw [hledger, observe_inFlight hflight] at hadvances
    exact hadvances

theorem step_advances (world : World) (event : Event) (h : Coupled world.current world.history) :
    Coupled (step documentBytes world event).current (step documentBytes world event).history ∧
      Relation.ReflGen Step (ledger world.current world.history)
        (ledger (step documentBytes world event).current
          (step documentBytes world event).history) := by
  have hwritten : ∀ {document offers},
      Advances world.current world.history (document.getD (.new "" 0)) offers →
      Coupled (world.written document offers).current (world.written document offers).history ∧
        Relation.ReflGen Step (ledger world.current world.history)
          (ledger (world.written document offers).current
            (world.written document offers).history) :=
    fun hadvances => ⟨hadvances.coupled h, hadvances.2⟩
  cases event with
  | crashed process => exact ⟨h, .refl⟩
  | opened process accountId now fault =>
    rcases hopen : openOutbox documentBytes world.document accountId now fault with
      ⟨result, document⟩
    have hadvances : Advances world.current world.history (document.getD (.new "" 0)) [] := by
      unfold openOutbox at hopen
      split_ifs at hopen with hempty
      · obtain ⟨-, rfl⟩ := Prod.mk.inj hopen
        exact h.unchanged
      · refine transaction_advances documentBytes h hopen (.inl rfl) ?_ fun _ _ _ => rfl
        rintro before value after hcoupled hoperation
        obtain rfl : (before.recover now).2 = after := (Prod.mk.inj hoperation).2
        exact hcoupled.recover now
    simp only [step, hopen]
    cases result with
    | error error => exact hwritten hadvances
    | ok recovery => exact hwritten hadvances
  | requested process request now fault =>
    cases hprocess : world.processes.lookup process with
    | none =>
      simp only [step, hprocess]
      exact ⟨h, .refl⟩
    | some accountId =>
      rcases hsubmit : submit documentBytes world.document accountId request now fault with
        ⟨result, document⟩
      simp only [step, hprocess, hsubmit]
      cases result with
      | error error =>
        refine hwritten (transaction_advances documentBytes h hsubmit (.inl rfl) ?_ fun _ _ _ => rfl)
        exact fun before value after hcoupled hoperation => hcoupled.operation hoperation (.inl rfl)
      | ok value =>
        refine hwritten (transaction_advances documentBytes h hsubmit (.inr ⟨_, rfl⟩) ?_ ?_)
        · exact fun before value after hcoupled hoperation =>
            hcoupled.operation hoperation (.inr rfl)
        · exact fun state value hoperation => operation_unchanged hoperation

theorem coupled_initial : Coupled World.initial.current World.initial.history := by
  refine ⟨⟨rfl, rfl, ?_, rfl, ?_, ?_, ?_, ?_⟩, ?_⟩
  · simp [World.initial, World.current, SendOutboxState.new]
  · simp [World.initial, World.current, SendOutboxState.new, SendOutboxState.unresolved]
  · simp [World.initial, maximumReservedIdempotencyKeys]
  · simp [World.initial, World.current, SendOutboxState.new]
  · simp [World.initial, World.current, SendOutboxState.new, SendOutboxState.unresolved, spentKeys]
  · have hempty : ledger World.initial.current World.initial.history = .empty := by
      rw [ledger, Ledger.empty, Ledger.mk.injEq]
      refine ⟨rfl, rfl, rfl, ?_, rfl⟩
      simp [World.initial]
    rw [hempty]
    exact .empty

theorem run_coupled (world : World) (events : List Event)
    (h : Coupled world.current world.history) :
    Coupled (execute (step documentBytes) world events).current
      (execute (step documentBytes) world events).history :=
  execute_invariant (I := fun world => Coupled world.current world.history) (step documentBytes)
    (fun world event hworld => (step_advances documentBytes world event hworld).1) world events h

theorem run_steps (world : World) (events : List Event)
    (h : Coupled world.current world.history) :
    Steps (ledger world.current world.history)
      (ledger (execute (step documentBytes) world events).current
        (execute (step documentBytes) world events).history) := by
  induction events generalizing world with
  | nil => exact .refl
  | cons event events ih =>
    obtain ⟨hnext, hstep⟩ := step_advances documentBytes world event h
    exact hstep.to_reflTransGen.trans (ih _ hnext)

structure AtMostOnce (world : World) : Prop where
  single : world.current.unresolved.length ≤ 1
  accounted : world.current.reservedAttemptTotal =
    world.current.completedAttemptTotal + world.current.pendingReconciliation.length +
      world.current.inFlight.toList.length
  keys : world.current.reservedIdempotencyKeys =
    (world.history.accepted.map (·.idempotencyKey)).toFinset
  keysOnce : (world.history.accepted.map (·.idempotencyKey)).Nodup
  approvals : world.current.consumedApprovalIds ⊆
    (world.history.accepted.map (·.approvalId)).toFinset
  approvalsOnce : (world.history.accepted.map (·.approvalId)).Nodup
  offeredOnce : world.history.offered.Nodup
  burnt : ∀ entry ∈ world.current.unresolved, entry.state ≠ .reserved →
    entry.idempotencyKey ∈ world.history.burnt

/-- The key whose attempt a granted request would start or continue towards dispatch. -/
def Request.target : Request → Option String
  | .reserve entry _ _ => some entry.idempotencyKey
  | .markAttempted key => some key
  | _ => none

/-- No offer of `key` was added on the way to `later`, none is open there, and
no process of any account obtains one there. -/
structure Retired (world later : World) (key : String) : Prop where
  unoffered : ∃ added, later.history.offered = added ++ world.history.offered ∧ key ∉ added
  closed : ∀ entry, later.current.inFlight = some entry → entry.idempotencyKey = key →
    entry.state ≠ .reserved
  refused : ∀ request accountId now fault, Request.target request = some key →
    (submit documentBytes later.document accountId request now fault).1 ≠ .ok ()

theorem Coupled.atMostOnce {world : World} (h : Coupled world.current world.history) :
    AtMostOnce world := by
  have htotal := h.wellFormed.total
  have hkeys := h.wellFormed.keys
  have happrovals := h.wellFormed.approvals
  have hsingle := h.represents.single
  have hconsumed := h.represents.consumed
  rw [ledger_keys] at hkeys
  rw [ledger_approvals] at happrovals
  refine ⟨hsingle, ?_, h.represents.keys, hkeys, ?_, happrovals, h.wellFormed.offered, ?_⟩
  · have hslot : ((ledger world.current world.history).slot.toList).length =
        world.current.unresolved.length := by
      cases hunresolved : world.current.unresolved with
      | nil => simp [ledger, hunresolved]
      | cons entry rest =>
        rw [hunresolved, List.length_cons] at hsingle
        have hrest : rest = [] := List.eq_nil_of_length_eq_zero (by omega)
        simp [ledger, hunresolved, hrest]
    rw [hslot, SendOutboxState.unresolved, List.length_append] at htotal
    simp only [ledger, List.length_map] at htotal
    rw [h.represents.reserved, htotal]
    omega
  · rw [hconsumed]
    intro approval happroval
    simp only [List.mem_toFinset] at happroval ⊢
    exact List.map_subset _ (List.drop_subset _ _) happroval
  · intro entry hentry hstate
    refine h.represents.burnt (List.mem_map.mpr ⟨entry, List.mem_filter.mpr ⟨hentry, ?_⟩, rfl⟩)
    simpa using hstate

theorem Coupled.inFlight_unburnt {state : SendOutboxState} {history : History}
    {entry : OutboxEntry} (h : Coupled state history) (hflight : state.inFlight = some entry)
    (hreserved : entry.state = .reserved) : entry.idempotencyKey ∉ history.burnt := by
  have hslot : (ledger state history).slot = some (entry.idempotencyKey, phase entry) :=
    slot_inFlight history hflight
  cases hpermit : entry.permitSend with
  | true => exact (h.wellFormed.waiting _ (by simpa [phase, hreserved, hpermit] using hslot)).2
  | false => exact h.wellFormed.rehearsing _ (by simpa [phase, hreserved, hpermit] using hslot)

/-- A burnt key is reserved, and its entry in flight cannot be marked. -/
theorem Coupled.refuses {world : World} {key : String}
    (h : Coupled world.current world.history) (hburnt : key ∈ world.history.burnt)
    {request : Request} (htarget : request.target = some key) (accountId : String) (now : ℕ)
    (fault : Fault) :
    (submit documentBytes world.document accountId request now fault).1 ≠ .ok () := by
  rcases hsubmit : submit documentBytes world.document accountId request now fault with
    ⟨result, document⟩
  rintro rfl
  have hgranted : ∃ before after, Coupled before world.history ∧
      request.operation now before = (.ok (), after) := by
    obtain ⟨-, ⟨error, herror⟩ | ⟨value, before, hdocument, -, hoperation⟩⟩ |
        ⟨before, value, after, hloads, hoperation, -, -, -⟩ :=
      transaction_cases documentBytes hsubmit
    · cases herror
    · refine ⟨before, before, ?_, hoperation⟩
      simpa [World.current, hdocument] using h
    · exact ⟨before, after, (hloads.coupled h).1, hoperation⟩
  obtain ⟨before, after, hcoupled, hoperation⟩ := hgranted
  cases request with
  | reserve entry window limit =>
    obtain rfl : entry.idempotencyKey = key := by simpa [Request.target] using htarget
    have hreserve := SendOutboxState.reserve_ok (refusable_eq_ok.mp hoperation)
    have hkey := hcoupled.wellFormed.burntKeys _ hburnt
    rw [ledger_keys] at hkey
    exact hreserve.fresh (hcoupled.represents.keys ▸ List.mem_toFinset.mpr hkey)
  | markAttempted marked =>
    obtain rfl : marked = key := by simpa [Request.target] using htarget
    obtain ⟨entry, hflight, rfl, -, hstate, -⟩ :=
      SendOutboxState.markAttempted_ok (refusable_eq_ok.mp hoperation)
    exact hcoupled.inFlight_unburnt hflight hstate hburnt
  | complete | resolvePending | recover | state => simp [Request.target] at htarget

theorem Coupled.retired {world : World} {key : String} (events : List Event)
    (h : Coupled world.current world.history) (hburnt : key ∈ world.history.burnt) :
    Retired documentBytes world (execute (step documentBytes) world events) key := by
  have hlater := run_coupled documentBytes world events h
  obtain ⟨hmonotone, added, hoffered, hlive⟩ :=
    Steps.offersOnlyLive (run_steps documentBytes world events h) h.wellFormed
  refine ⟨⟨added, hoffered, hlive key hburnt⟩, ?_, ?_⟩
  · rintro entry hflight rfl hreserved
    exact hlater.inFlight_unburnt hflight hreserved (hmonotone hburnt)
  · intro request accountId now fault htarget
    exact hlater.refuses documentBytes (hmonotone hburnt) htarget accountId now fault

/-- In every reachable state at most one entry is unresolved and every attempt
is accounted for; what was ever attempted or parked is never offered again. -/
theorem dispatch_at_most_once (events later : List Event) :
    let world := execute (step documentBytes) .initial events
    AtMostOnce world ∧ ∀ key ∈ world.history.burnt,
      Retired documentBytes world (execute (step documentBytes) world later) key := by
  have h := run_coupled documentBytes .initial events coupled_initial
  exact ⟨h.atMostOnce, fun key hburnt => h.retired documentBytes later hburnt⟩

end GreenBubbles.Outbox
