import Mathlib.Data.List.Basic

/-! # Scripts that call an environment

A script calls an environment that may answer anything, may throw and keeps local
variables. What has been called, and what came back, is its history, the newest
event first. A script carries the proof that it only adds answered calls to it.
-/
namespace GreenBubbles.Library.Scripts

variable {κ : Type} (Answer : κ → Type)

/-- A call and what came back. -/
abbrev ScriptEvent := Σ call : κ, Answer call

abbrev History := List (ScriptEvent Answer)

/-- What answers the calls; it may go by all that has happened. -/
abbrev Environment := History Answer → (call : κ) → Answer call

structure ScriptWorld (σ : Type) where
  locals : σ
  history : History Answer

variable {Answer}

/-- Calls answered by the environment lead from one history to the other. -/
inductive Grown (environment : Environment Answer) (history : History Answer) :
    History Answer → Prop
  | refl : Grown environment history history
  | call {later : History Answer} (call : κ) (h : Grown environment history later) :
      Grown environment history (⟨call, environment later call⟩ :: later)

namespace Grown

variable {environment : Environment Answer} {first middle last : History Answer}

theorem trans (h : Grown environment first middle) (hlast : Grown environment middle last) :
    Grown environment first last := by
  induction hlast with
  | refl => exact h
  | call call _ ih => exact ih.call call

theorem suffix (h : Grown environment first last) : first <:+ last := by
  induction h with
  | refl => exact List.suffix_rfl
  | call call _ ih => exact ih.trans (List.suffix_cons _ _)

/-- What is recorded is what the environment answered. -/
theorem answered (h : Grown environment [] last) :
    ∀ later event earlier, last = later ++ event :: earlier →
      event.2 = environment earlier event.1 := by
  induction h with
  | refl => simp
  | @call before call _ ih =>
    intro later event earlier hsplit
    cases later with
    | nil =>
      rw [List.nil_append, List.cons.injEq] at hsplit
      rcases hsplit with ⟨rfl, rfl⟩
      rfl
    | cons newest later =>
      rw [List.cons_append, List.cons.injEq] at hsplit
      exact ih later event earlier hsplit.2

/-- What a grown history ends in has grown too. -/
theorem before {later earlier : History Answer} {event : ScriptEvent Answer}
    (h : Grown environment [] (later ++ event :: earlier)) : Grown environment [] earlier := by
  induction later with
  | nil =>
    cases h with
    | call _ hearlier => exact hearlier
  | cons newest later ih =>
    cases h with
    | call _ hlater => exact ih hlater

end Grown

structure Script (Answer : κ → Type) (ε σ β : Type) where
  run : Environment Answer → ScriptWorld Answer σ → Except ε β × ScriptWorld Answer σ
  grows : ∀ environment world,
    Grown environment world.history (run environment world).2.history

variable {ε σ β γ : Type}

namespace Script

def pure (value : β) : Script Answer ε σ β where
  run _ world := (.ok value, world)
  grows _ _ := .refl

def bind (script : Script Answer ε σ β) (next : β → Script Answer ε σ γ) :
    Script Answer ε σ γ where
  run environment world :=
    match script.run environment world with
    | (.ok value, after) => (next value).run environment after
    | (.error error, after) => (.error error, after)
  grows environment world := by
    have hfirst := script.grows environment world
    split
    · next value after hrun =>
      rw [hrun] at hfirst
      exact hfirst.trans ((next value).grows environment after)
    · next error after hrun =>
      rw [hrun] at hfirst
      exact hfirst

instance : Monad (Script Answer ε σ) where
  pure := pure
  bind := bind

def throw (error : ε) : Script Answer ε σ β where
  run _ world := (.error error, world)
  grows _ _ := .refl

def call (call : κ) : Script Answer ε σ (Answer call) where
  run environment world :=
    (.ok (environment world.history call),
      { world with history := ⟨call, environment world.history call⟩ :: world.history })
  grows _ _ := Grown.refl.call call

def modify (change : σ → σ) : Script Answer ε σ Unit where
  run _ world := (.ok (), { world with locals := change world.locals })
  grows _ _ := .refl

def get : Script Answer ε σ σ where
  run _ world := (.ok world.locals, world)
  grows _ _ := .refl

def ofExcept : Except ε β → Script Answer ε σ β
  | .ok value => pure value
  | .error error => throw error

/-- What a script does is done; that it threw is forgotten. -/
def ignore (script : Script Answer ε σ Unit) : Script Answer ε σ Unit where
  run environment world := (.ok (), (script.run environment world).2)
  grows environment world := script.grows environment world

/-- What a script throws is caught. -/
def recover (script : Script Answer ε σ β) (handler : ε → Script Answer ε σ β) :
    Script Answer ε σ β where
  run environment world :=
    match script.run environment world with
    | (.ok value, after) => (.ok value, after)
    | (.error error, after) => (handler error).run environment after
  grows environment world := by
    have hfirst := script.grows environment world
    split
    · next value after hrun =>
      rw [hrun] at hfirst
      exact hfirst
    · next error after hrun =>
      rw [hrun] at hfirst
      exact hfirst.trans ((handler error).grows environment after)

end Script

section Wp

variable (environment : Environment Answer)

/-- Every way a script can end from a world satisfies its postcondition. -/
def wp (script : Script Answer ε σ β) (Q : β → ScriptWorld Answer σ → Prop)
    (E : ε → ScriptWorld Answer σ → Prop) (world : ScriptWorld Answer σ) : Prop :=
  match script.run environment world with
  | (.ok value, after) => Q value after
  | (.error error, after) => E error after

variable {environment} {Q : β → ScriptWorld Answer σ → Prop} {E : ε → ScriptWorld Answer σ → Prop}
  {world : ScriptWorld Answer σ}

@[simp] theorem wp_pure {value : β} :
    wp environment (Pure.pure value) Q E world ↔ Q value world := Iff.rfl

@[simp] theorem wp_bind {script : Script Answer ε σ γ} {next : γ → Script Answer ε σ β} :
    wp environment (script >>= next) Q E world ↔
      wp environment script (fun value after => wp environment (next value) Q E after) E world := by
  change (match (Script.bind script next).run environment world with
    | (.ok value, after) => Q value after
    | (.error error, after) => E error after) ↔ _
  simp only [wp, Script.bind]
  cases script.run environment world with
  | mk result after => cases result <;> rfl

@[simp] theorem wp_throw {error : ε} :
    wp environment (Script.throw error) Q E world ↔ E error world := Iff.rfl

@[simp] theorem wp_call {call : κ} {Q : Answer call → ScriptWorld Answer σ → Prop} :
    wp environment (Script.call call) Q E world ↔ Q (environment world.history call)
      { world with history := ⟨call, environment world.history call⟩ :: world.history } := Iff.rfl

@[simp] theorem wp_modify {change : σ → σ} {Q : Unit → ScriptWorld Answer σ → Prop} :
    wp environment (Script.modify change) Q E world ↔
      Q () { world with locals := change world.locals } := Iff.rfl

@[simp] theorem wp_get {Q : σ → ScriptWorld Answer σ → Prop} :
    wp environment Script.get Q E world ↔ Q world.locals world := Iff.rfl

theorem wp_ofExcept {result : Except ε β} :
    wp environment (Script.ofExcept result) Q E world ↔
      (∀ value, result = .ok value → Q value world) ∧
        (∀ error, result = .error error → E error world) := by
  cases result with
  | ok value => simp [Script.ofExcept, wp, Script.pure]
  | error error => simp [Script.ofExcept, wp, Script.throw]

theorem wp_ignore {script : Script Answer ε σ Unit} {Q : Unit → ScriptWorld Answer σ → Prop} :
    wp environment script.ignore Q E world ↔
      wp environment script (fun _ after => Q () after) (fun _ after => Q () after) world := by
  simp only [wp, Script.ignore]
  cases script.run environment world with
  | mk result after => cases result <;> rfl

theorem wp_recover {script : Script Answer ε σ β} {handler : ε → Script Answer ε σ β} :
    wp environment (script.recover handler) Q E world ↔
      wp environment script Q (fun error after => wp environment (handler error) Q E after)
        world := by
  simp only [wp, Script.recover]
  cases script.run environment world with
  | mk result after => cases result <;> rfl

/-- The consequence rule, with the growth of the history at hand. -/
theorem wp_mono {script : Script Answer ε σ β} {Q' : β → ScriptWorld Answer σ → Prop}
    {E' : ε → ScriptWorld Answer σ → Prop} (h : wp environment script Q E world)
    (hQ : ∀ value after, Grown environment world.history after.history → Q value after →
      Q' value after)
    (hE : ∀ error after, Grown environment world.history after.history → E error after →
      E' error after) : wp environment script Q' E' world := by
  have hgrown := script.grows environment world
  rw [wp] at h ⊢
  cases hrun : script.run environment world with
  | mk result after =>
    rw [hrun] at h hgrown
    cases result with
    | ok value => exact hQ value after hgrown h
    | error error => exact hE error after hgrown h

theorem wp_true {script : Script Answer ε σ β} :
    wp environment script (fun _ _ => True) (fun _ _ => True) world := by
  rw [wp]
  split <;> trivial

/-- A first step nothing need be known of. -/
theorem wp_skip {script : Script Answer ε σ γ} {next : γ → Script Answer ε σ β}
    (h : ∀ value after, wp environment (next value) Q (fun _ _ => True) after) :
    wp environment (script >>= next) Q (fun _ _ => True) world := by
  rw [wp_bind]
  exact wp_mono wp_true (fun value after _ _ => h value after) fun _ _ _ _ => trivial

/-- What a history has reached stays reached, however the rest ends. -/
theorem wp_reached {script : Script Answer ε σ β} {goal : History Answer → Prop}
    (hgoal : ∀ first last, first <:+ last → goal first → goal last) (h : goal world.history) :
    wp environment script (fun _ after => goal after.history) (fun _ after => goal after.history)
      world :=
  wp_mono wp_true (fun _ _ hgrown _ => hgoal _ _ hgrown.suffix h)
    fun _ _ hgrown _ => hgoal _ _ hgrown.suffix h

theorem wp_and {script : Script Answer ε σ β} {Q' : β → ScriptWorld Answer σ → Prop}
    {E' : ε → ScriptWorld Answer σ → Prop} (h : wp environment script Q E world)
    (h' : wp environment script Q' E' world) :
    wp environment script (fun value after => Q value after ∧ Q' value after)
      (fun error after => E error after ∧ E' error after) world := by
  rw [wp] at h h' ⊢
  cases hrun : script.run environment world with
  | mk result after =>
    rw [hrun] at h h'
    cases result with
    | ok value => exact ⟨h, h'⟩
    | error error => exact ⟨h, h'⟩

theorem history_of_wp {script : Script Answer ε σ β} {goal : History Answer → Prop}
    (h : wp environment script (fun _ after => goal after.history)
      (fun _ after => goal after.history) world) :
    goal (script.run environment world).2.history := by
  rw [wp] at h
  cases hrun : script.run environment world with
  | mk result after =>
    rw [hrun] at h
    cases result with
    | ok value => exact h
    | error error => exact h

/-- A script that cannot throw ends in a value. -/
theorem run_of_wp {script : Script Answer ε σ β}
    (h : wp environment script Q (fun _ _ => False) world) :
    ∃ value after, script.run environment world = (.ok value, after) ∧ Q value after := by
  rw [wp] at h
  cases hrun : script.run environment world with
  | mk result after =>
    rw [hrun] at h
    cases result with
    | ok value => exact ⟨value, after, rfl, h⟩
    | error error => exact h.elim

end Wp

section Calls

variable (S : κ → Prop)

/-- Nothing but calls of a kind leads from one history to the other. -/
def Added (first last : History Answer) : Prop :=
  ∃ added, last = added ++ first ∧ ∀ event ∈ added, S event.1

variable {S}

theorem Added.refl (history : History Answer) : Added S history history := ⟨[], by simp⟩

theorem Added.trans {first middle last : History Answer} (h : Added S first middle)
    (hlast : Added S middle last) : Added S first last := by
  rcases h with ⟨added, rfl, hadded⟩
  rcases hlast with ⟨later, rfl, hlater⟩
  refine ⟨later ++ added, (List.append_assoc ..).symm, ?_⟩
  intro event hevent
  rcases List.mem_append.mp hevent with hmem | hmem
  · exact hlater event hmem
  · exact hadded event hmem

theorem Added.mem {first last : History Answer} (h : Added S first last)
    {event : ScriptEvent Answer} (hevent : event ∈ last) : S event.1 ∨ event ∈ first := by
  rcases h with ⟨added, rfl, hadded⟩
  exact (List.mem_append.mp hevent).imp (hadded event) id

/-- A script that makes only calls of a kind and leaves a view of its variables alone. -/
structure Calls {τ : Type} (S : κ → Prop) (view : σ → τ) (script : Script Answer ε σ β) : Prop where
  added : ∀ environment world,
    Added S world.history (script.run environment world).2.history
  kept : ∀ environment world,
    view (script.run environment world).2.locals = view world.locals

namespace Calls

variable {τ : Type} {view : σ → τ} {script : Script Answer ε σ β}

theorem pure {value : β} :
    Calls S view (Pure.pure value : Script Answer ε σ β) :=
  ⟨fun _ _ => .refl _, fun _ _ => rfl⟩

theorem throw {error : ε} : Calls S view (Script.throw error : Script Answer ε σ β) :=
  ⟨fun _ _ => .refl _, fun _ _ => rfl⟩

theorem ofExcept {result : Except ε β} :
    Calls S view (Script.ofExcept result : Script Answer ε σ β) := by
  cases result with
  | ok value => exact pure
  | error error => exact throw

theorem get : Calls S view (Script.get : Script Answer ε σ σ) :=
  ⟨fun _ _ => .refl _, fun _ _ => rfl⟩

theorem modify {change : σ → σ} (h : ∀ locals, view (change locals) = view locals) :
    Calls S view (Script.modify change : Script Answer ε σ Unit) :=
  ⟨fun _ _ => .refl _, fun _ world => h world.locals⟩

theorem call {call : κ} (h : S call) :
    Calls S view (Script.call call : Script Answer ε σ (Answer call)) :=
  ⟨fun environment world => ⟨[⟨call, environment world.history call⟩], rfl, by simpa⟩,
    fun _ _ => rfl⟩

/-- What follows need be known of only for the values that can come out. -/
theorem bind_of {next : β → Script Answer ε σ γ} {R : β → Prop} (h : Calls S view script)
    (hvalue : ∀ environment world,
      wp environment script (fun value _ => R value) (fun _ _ => True) world)
    (hnext : ∀ value, R value → Calls S view (next value)) :
    Calls S view (script >>= next) := by
  constructor
  · intro environment world
    have hfirst := h.added environment world
    have hresult := hvalue environment world
    change Added S world.history ((Script.bind script next).run environment world).2.history
    dsimp only [Script.bind]
    rw [wp] at hresult
    split
    · next value after hrun =>
      rw [hrun] at hfirst hresult
      exact hfirst.trans ((hnext value hresult).added environment after)
    · next error after hrun =>
      rw [hrun] at hfirst
      exact hfirst
  · intro environment world
    have hfirst := h.kept environment world
    have hresult := hvalue environment world
    change view ((Script.bind script next).run environment world).2.locals = view world.locals
    dsimp only [Script.bind]
    rw [wp] at hresult
    split
    · next value after hrun =>
      rw [hrun] at hfirst hresult
      rw [(hnext value hresult).kept environment after, hfirst]
    · next error after hrun =>
      rw [hrun] at hfirst
      exact hfirst

theorem bind {next : β → Script Answer ε σ γ} (h : Calls S view script)
    (hnext : ∀ value, Calls S view (next value)) : Calls S view (script >>= next) :=
  h.bind_of (fun _ _ => wp_true) fun value _ => hnext value

/-- A coarser view is left alone too. -/
theorem comp {τ' : Type} (coarser : τ → τ') (h : Calls S view script) :
    Calls S (coarser ∘ view) script :=
  ⟨h.added, fun environment world => congrArg coarser (h.kept environment world)⟩

theorem ignore {script : Script Answer ε σ Unit} (h : Calls S view script) :
    Calls S view script.ignore :=
  ⟨h.added, h.kept⟩

theorem ite {condition : Prop} [Decidable condition] {script' : Script Answer ε σ β}
    (h : condition → Calls S view script) (h' : ¬ condition → Calls S view script') :
    Calls S view (if condition then script else script') := by
  split_ifs with hcondition
  · exact h hcondition
  · exact h' hcondition

theorem mono {S' : κ → Prop} (h : Calls S view script) (hS : ∀ call, S call → S' call) :
    Calls S' view script := by
  refine ⟨fun environment world => ?_, h.kept⟩
  rcases h.added environment world with ⟨added, hadded, hcalls⟩
  exact ⟨added, hadded, fun event hevent => hS _ (hcalls event hevent)⟩

/-- What is known at the end of such a script, however it ends. -/
theorem wp_of {environment : Environment Answer} {world : ScriptWorld Answer σ}
    (h : Calls S view script) : wp environment script
      (fun _ after => Added S world.history after.history ∧ view after.locals = view world.locals)
      (fun _ after => Added S world.history after.history ∧ view after.locals = view world.locals)
      world := by
  have hadded := h.added environment world
  have hkept := h.kept environment world
  rw [wp]
  split
  · next value after hrun =>
    rw [hrun] at hadded hkept
    exact ⟨hadded, hkept⟩
  · next error after hrun =>
    rw [hrun] at hadded hkept
    exact ⟨hadded, hkept⟩

end Calls

end Calls

section Safe

variable (guard : History Answer → κ → Prop)

/-- Every call was made where its guard held. -/
def Safe (history : History Answer) : Prop :=
  ∀ later event earlier, history = later ++ event :: earlier → guard earlier event.1

variable {guard}

theorem safe_nil : Safe guard [] := by
  intro later event earlier h
  simp at h

theorem safe_cons {event : ScriptEvent Answer} {history : History Answer} :
    Safe guard (event :: history) ↔ guard history event.1 ∧ Safe guard history := by
  constructor
  · intro h
    refine ⟨h [] event history rfl, fun later older earlier hsplit => ?_⟩
    exact h (event :: later) older earlier (by rw [hsplit, List.cons_append])
  · rintro ⟨hguard, hsafe⟩ later older earlier hsplit
    cases later with
    | nil =>
      rw [List.nil_append, List.cons.injEq] at hsplit
      rcases hsplit with ⟨rfl, rfl⟩
      exact hguard
    | cons newest later =>
      rw [List.cons_append, List.cons.injEq] at hsplit
      exact hsafe later older earlier hsplit.2

/-- Calls whose guard holds from now on keep a history safe. -/
theorem Safe.added {S : κ → Prop} {first last : History Answer} (h : Safe guard first)
    (hadded : Added S first last)
    (hguard : ∀ history call, first <:+ history → S call → guard history call) :
    Safe guard last := by
  rcases hadded with ⟨added, rfl, hcalls⟩
  induction added with
  | nil => exact h
  | cons event added ih =>
    rw [List.cons_append, safe_cons]
    rcases List.forall_mem_cons.mp hcalls with ⟨hevent, hrest⟩
    exact ⟨hguard _ _ (List.suffix_append added first) hevent, ih hrest⟩

end Safe

end GreenBubbles.Library.Scripts
