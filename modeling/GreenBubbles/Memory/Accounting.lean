import GreenBubbles.Memory.Selection
import Mathlib.Algebra.BigOperators.Group.List.Basic

/-! # What becomes of each message

Every scanned message is given one outcome. The pass counts the outcomes and
drafts its episodes of the messages that are selected.
-/
namespace GreenBubbles.Memory

open Library Library.Cut Library.Grouping Library.Ordered
open LiveQuery (CorpusMessageMetadata CorpusMetadataScan)

/-- The largest number a counter can hold. -/
def maximumCount : ℕ := 2 ^ 64 - 1

/-- A counter grows by a number as far as it can. -/
def Adds (outcome : Outcome) (earlier later : PersonalMemoryCoverage) (n : ℕ) : Prop :=
  earlier.counter outcome ≤ maximumCount →
    later.counter outcome = min (earlier.counter outcome + n) maximumCount

namespace Adds

variable {outcome : Outcome} {first second third : PersonalMemoryCoverage} {n m : ℕ}

theorem of_eq (h : second.counter outcome = first.counter outcome) :
    Adds outcome first second 0 := by
  intro hbound
  rw [h, Nat.add_zero, min_eq_left hbound]

theorem trans (h : Adds outcome first second n) (h' : Adds outcome second third m) :
    Adds outcome first third (n + m) := by
  intro hbound
  have hsecond := h hbound
  have hle : second.counter outcome ≤ maximumCount := by
    rw [hsecond]
    exact min_le_right _ _
  rw [h' hle, hsecond]
  omega

theorem count (outcome' : Outcome) (n : ℕ) :
    Adds outcome first (first.count outcome' n) (if outcome' = outcome then n else 0) := by
  by_cases h : outcome' = outcome
  · subst h
    intro _
    rw [if_pos rfl]
    cases outcome' <;> rfl
  · rw [if_neg h]
    apply of_eq
    cases outcome' <;> cases outcome <;> first | rfl | exact absurd rfl h

end Adds

theorem counter_admitMessage (coverage : PersonalMemoryCoverage) (actor : Option Bool)
    (outcome : Outcome) : (coverage.admitMessage actor).counter outcome = coverage.counter outcome := by
  cases outcome <;> rcases actor with _ | _ | _ <;> rfl

theorem counter_countMonth (coverage : PersonalMemoryCoverage) (active : Bool) (outcome : Outcome) :
    (coverage.countMonth active).counter outcome = coverage.counter outcome := by
  cases outcome <;> cases active <;> rfl

theorem scanned_count (coverage : PersonalMemoryCoverage) (outcome : Outcome) (n : ℕ) :
    (coverage.count outcome n).scannedMessageCount = coverage.scannedMessageCount := by
  cases outcome <;> rfl

namespace SelectionRules

variable (rules : SelectionRules) (messages : List CorpusMessageMetadata)

/-- Why a message falls into no month. -/
def excluded (index : Index messages) : Option Outcome :=
  let timestamp := (messages.get index).location.createTime
  if rules.outsideTimeRange timestamp then some .outsideTimeRange
  else if (rules.month timestamp).isNone then some .outsideCalendar
  else none

/-- The month a message falls into. -/
def place (index : Index messages) : Option (MonthKey × Index messages) :=
  let timestamp := (messages.get index).location.createTime
  if rules.outsideTimeRange timestamp then none
  else (rules.month timestamp).map fun month => (month, index)

/-- The parts of a session that become episodes. -/
def sessionParts (bounds : SessionBounds) (session : List (Index messages)) :
    List (List (Index messages)) :=
  if rules.corpusMode = .allMessages then if session.isEmpty then [] else [session]
  else if (anchors messages session).isEmpty then []
  else (mergedContextWindows (anchors messages session) session.length
    bounds.contextBefore bounds.contextAfter).map (part session)

/-- The outcomes of a session by the nearness of the account holder's messages. -/
def sessionOutcomes (bounds : SessionBounds) (session : List (Index messages)) :
    List (Index messages × Outcome) :=
  if rules.corpusMode = .allMessages then session.map (·, .selected)
  else if (anchors messages session).isEmpty then session.map (·, .silentSession)
  else session.zipIdx.map fun entry =>
    (entry.1, if Near (anchors messages session) bounds.contextBefore bounds.contextAfter entry.2
      then .selected else .contextBound)

def monthOutcomes (bounds : SessionBounds) (active : Bool) (indices : List (Index messages)) :
    List (Index messages × Outcome) :=
  if active then
    (splitSessions messages indices bounds.gapSeconds).flatMap (rules.sessionOutcomes messages bounds)
  else indices.map (·, .inactiveMonth)

/-- The months a conversation is divided into. -/
def months : List (MonthKey × List (Index messages)) :=
  monthIndices messages ((List.finRange messages.length).filterMap (rules.place messages))

/-- A month is active when the account holder takes part in it, and lately in the conversation. -/
def active (indices : List (Index messages)) : Bool :=
  rules.activeMonth messages indices &&
    rules.recentConversationEligible messages (rules.months messages)

/-- The outcomes of an enabled conversation. -/
def outcomes (conversation : CorpusConversation) : List (Index messages × Outcome) :=
  ((List.finRange messages.length).filterMap fun index =>
    (rules.excluded messages index).map fun outcome => (index, outcome)) ++
  (rules.months messages).flatMap fun entry =>
    rules.monthOutcomes messages (sessionBounds rules.policy conversation.kind)
      (rules.active messages entry.2) entry.2

end SelectionRules

/-- The indices with the outcome of a selected message. -/
def selectedOf {ι : Type} (outcomes : List (ι × Outcome)) : List ι :=
  (outcomes.filter fun entry => entry.2 = .selected).map Prod.fst

def countOf {ι : Type} (outcome : Outcome) (outcomes : List (ι × Outcome)) : ℕ :=
  outcomes.countP fun entry => entry.2 = outcome

section Outcomes

variable {ι : Type} {outcome : Outcome}

@[simp] theorem selectedOf_append (first second : List (ι × Outcome)) :
    selectedOf (first ++ second) = selectedOf first ++ selectedOf second := by
  simp [selectedOf]

theorem selectedOf_flatMap {α : Type} (values : List α) (f : α → List (ι × Outcome)) :
    selectedOf (values.flatMap f) = values.flatMap fun a => selectedOf (f a) := by
  induction values with
  | nil => rfl
  | cons a values ih => rw [List.flatMap_cons, selectedOf_append, ih, List.flatMap_cons]

theorem length_selectedOf (outcomes : List (ι × Outcome)) :
    (selectedOf outcomes).length = countOf .selected outcomes := by
  rw [selectedOf, List.length_map, countOf, List.countP_eq_length_filter]

theorem countOf_map_const (values : List ι) (outcome' : Outcome) :
    countOf outcome (values.map (·, outcome')) = if outcome' = outcome then values.length else 0 := by
  by_cases h : outcome' = outcome
  · simp [countOf, h, List.countP_map, Function.comp_def]
  · simp [countOf, h, List.countP_map, Function.comp_def]

theorem selectedOf_map_const (values : List ι) (outcome' : Outcome) :
    selectedOf (values.map (·, outcome')) = if outcome' = .selected then values else [] := by
  by_cases h : outcome' = .selected
  · simp [selectedOf, h, List.filter_map, Function.comp_def]
  · simp [selectedOf, h, List.filter_map, Function.comp_def]

end Outcomes

end GreenBubbles.Memory
