import GreenBubbles.Memory.Selection

/-! # The order of the units

Units are delivered in the order of time, or by a schedule that draws from the
months of each conversation in turn and from the conversations by their weight.
-/
namespace GreenBubbles.Memory

open Std Library.Grouping Library.Ordered
open Archive (ConversationKind)
open LiveQuery (CorpusMessageLocation)

structure CorpusHydratedMessage where
  location : CorpusMessageLocation
  canonicalId : String
  sender : Option String
  senderDisplayName : Option String
  isAccountHolder : Option Bool
  messageType : ℕ
  messageSubtype : ℕ
  payloadKind : String
  text : Option String
  textTruncated : Bool
  contentDecodeFailed : Bool

structure UnitDraft where
  conversationAlias : String
  conversationSourceId : String
  conversationLabel : String
  conversationKind : ConversationKind
  month : String
  messages : List CorpusHydratedMessage

/-- The time of a first or last message, zero when there is none. -/
def timeOf (message : Option CorpusHydratedMessage) : ℤ :=
  (message.map fun message => message.location.createTime).getD 0

def unitDraftKey (unit : UnitDraft) : ℤ × String × String :=
  (timeOf unit.messages.head?, unit.conversationAlias, unit.month)

def conversationKindPriority : ConversationKind → ℕ
  | .direct => 0
  | .group => 1
  | .business => 2
  | .chatbot => 3
  | .system => 4
  | .unresolved => 5

def unitSelfMessageCount (unit : UnitDraft) : ℕ :=
  unit.messages.countP fun message => message.isAccountHolder == some true

def unitLastTimestamp (unit : UnitDraft) : ℤ := timeOf unit.messages.getLast?

structure RelevanceScheduledUnit where
  unit : UnitDraft
  rankWithinConversation : ℕ
  conversationWeight : ℕ
  conversationSelfMessageCount : ℕ
  conversationActiveMonthCount : ℕ
  conversationLastTimestamp : ℤ
  conversationKind : ConversationKind
  conversationAlias : String

structure MonthScheduledUnit where
  rankWithinMonth : ℕ
  monthSelfMessageCount : ℕ
  monthLastTimestamp : ℤ
  month : String
  unit : UnitDraft

/-- Stable sorting by a comparison. -/
def sortWith {α : Type} (comparison : α → α → Ordering) (values : List α) : List α :=
  values.insertionSort fun left right => (comparison left right).isLE = true

theorem sortWith_perm {α : Type} (comparison : α → α → Ordering) (values : List α) :
    (sortWith comparison values).Perm values :=
  List.perm_insertionSort _ values

def compareMonthUnits (left right : UnitDraft) : Ordering :=
  (compare (unitSelfMessageCount right) (unitSelfMessageCount left)).then <|
    (compare right.messages.length left.messages.length).then <|
      (compare (unitLastTimestamp right) (unitLastTimestamp left)).then <|
        compare (unitDraftKey left) (unitDraftKey right)

def compareMonthScheduled (left right : MonthScheduledUnit) : Ordering :=
  (compare left.rankWithinMonth right.rankWithinMonth).then <|
    (compare right.monthSelfMessageCount left.monthSelfMessageCount).then <|
      (compare right.monthLastTimestamp left.monthLastTimestamp).then <|
        (compare left.month right.month).then <|
          compare (unitDraftKey left.unit) (unitDraftKey right.unit)

/-- The virtual finish times `(rank + 1) / weight` are compared without division. -/
def compareScheduled (left right : RelevanceScheduledUnit) : Ordering :=
  (compare ((left.rankWithinConversation + 1) * right.conversationWeight)
      ((right.rankWithinConversation + 1) * left.conversationWeight)).then <|
    (compare right.conversationSelfMessageCount left.conversationSelfMessageCount).then <|
      (compare right.conversationActiveMonthCount left.conversationActiveMonthCount).then <|
        (compare (conversationKindPriority left.conversationKind)
            (conversationKindPriority right.conversationKind)).then <|
          (compare right.conversationLastTimestamp left.conversationLastTimestamp).then <|
            (compare left.conversationAlias right.conversationAlias).then <|
              (compare left.rankWithinConversation right.rankWithinConversation).then <|
                compare (unitDraftKey left.unit) (unitDraftKey right.unit)

def lastTimestamp (units : List UnitDraft) : ℤ := ((units.map unitLastTimestamp).max?).getD 0

/-- The number of binary digits of the own messages, sixteen at most. -/
def conversationWeight (selfMessageCount : ℕ) : ℕ :=
  max 1 (min (Nat.log2 (max selfMessageCount 1) + 1) 16)

def scheduleMonth (entry : String × List UnitDraft) : List MonthScheduledUnit :=
  (sortWith compareMonthUnits entry.2).zipIdx.map fun (unit, rankWithinMonth) =>
    { rankWithinMonth
      monthSelfMessageCount := (entry.2.map unitSelfMessageCount).sum
      monthLastTimestamp := lastTimestamp entry.2
      month := entry.1
      unit }

def scheduleConversation (entry : String × List UnitDraft) : List RelevanceScheduledUnit :=
  let selfMessageCount := (entry.2.map unitSelfMessageCount).sum
  (sortWith compareMonthScheduled
      ((grouped UnitDraft.month id entry.2).flatMap scheduleMonth)).zipIdx.map
    fun (scheduled, rankWithinConversation) =>
      { unit := scheduled.unit
        rankWithinConversation
        conversationWeight := conversationWeight selfMessageCount
        conversationSelfMessageCount := selfMessageCount
        conversationActiveMonthCount := (entry.2.map UnitDraft.month).dedup.length
        conversationLastTimestamp := lastTimestamp entry.2
        conversationKind := (entry.2.head?.map UnitDraft.conversationKind).getD .unresolved
        conversationAlias := entry.1 }

def orderUnitDrafts (units : List UnitDraft) (deliveryOrder : MemoryDeliveryOrder) :
    List UnitDraft :=
  let units := sortBy unitDraftKey units
  if deliveryOrder = .chronological then units
  else (sortWith compareScheduled
    ((grouped UnitDraft.conversationAlias id units).flatMap scheduleConversation)).map
      RelevanceScheduledUnit.unit

theorem scheduleMonth_perm (entry : String × List UnitDraft) :
    ((scheduleMonth entry).map MonthScheduledUnit.unit).Perm entry.2 := by
  have hunits : (scheduleMonth entry).map MonthScheduledUnit.unit =
      sortWith compareMonthUnits entry.2 := by
    rw [scheduleMonth, List.map_map]
    exact List.zipIdx_map_fst 0 _
  rw [hunits]
  exact sortWith_perm _ _

/-- What each group is permuted into is a permutation of all groups together. -/
theorem flatMap_groups_perm {κ α β : Type} {groups : List (κ × List α)}
    {schedule : κ × List α → List β} {unit : β → α}
    (h : ∀ entry, ((schedule entry).map unit).Perm entry.2) :
    ((groups.flatMap schedule).map unit).Perm (groups.flatMap Prod.snd) := by
  rw [List.map_flatMap]
  exact List.Perm.flatMap_left groups fun entry _ => h entry

theorem scheduleConversation_perm (entry : String × List UnitDraft) :
    ((scheduleConversation entry).map RelevanceScheduledUnit.unit).Perm entry.2 := by
  have hunits : (scheduleConversation entry).map RelevanceScheduledUnit.unit =
      (sortWith compareMonthScheduled
        ((grouped UnitDraft.month id entry.2).flatMap scheduleMonth)).map
          MonthScheduledUnit.unit := by
    rw [scheduleConversation, List.map_map]
    conv_rhs => rw [← List.zipIdx_map_fst 0 (sortWith compareMonthScheduled
      ((grouped UnitDraft.month id entry.2).flatMap scheduleMonth))]
    rw [List.map_map]
    rfl
  rw [hunits]
  calc
    (sortWith compareMonthScheduled
        ((grouped UnitDraft.month id entry.2).flatMap scheduleMonth)).map MonthScheduledUnit.unit
      |>.Perm (((grouped UnitDraft.month id entry.2).flatMap scheduleMonth).map
          MonthScheduledUnit.unit) := (sortWith_perm _ _).map _
    _ |>.Perm ((grouped UnitDraft.month id entry.2).flatMap Prod.snd) :=
      flatMap_groups_perm scheduleMonth_perm
    _ |>.Perm entry.2 := grouped_perm _

theorem orderUnitDrafts_perm (units : List UnitDraft) (deliveryOrder : MemoryDeliveryOrder) :
    (orderUnitDrafts units deliveryOrder).Perm units := by
  unfold orderUnitDrafts
  by_cases horder : deliveryOrder = .chronological
  · simp only [if_pos horder]
    exact sortBy_perm _ _
  · simp only [if_neg horder]
    refine ((sortWith_perm _ _).map _).trans ?_
    refine (flatMap_groups_perm scheduleConversation_perm).trans ?_
    exact (grouped_perm _).trans (sortBy_perm _ _)

/-- Where no key repeats, the order of the units before does not matter. -/
theorem orderUnitDrafts_eq_of_perm {units units' : List UnitDraft} (h : units.Perm units')
    (hkeys : (units.map unitDraftKey).Nodup) (deliveryOrder : MemoryDeliveryOrder) :
    orderUnitDrafts units deliveryOrder = orderUnitDrafts units' deliveryOrder := by
  unfold orderUnitDrafts
  rw [sortBy_eq_of_perm unitDraftKey h hkeys]

end GreenBubbles.Memory
