import Mathlib.Algebra.Order.Ring.Cast
import Mathlib.Algebra.Order.Ring.Rat
import Mathlib.Data.List.Lex
import Mathlib.Data.List.Sort
import Mathlib.Data.Prod.Lex
import Mathlib.Order.WithBot
import GreenBubbles.Library.Bytes

/-! # Values and ordered rows of an SQL table

Storage classes with the order a table sorts them by, comparisons that are
never true of a null, and rows ordered by a key.
-/
namespace GreenBubbles.Library.Sql

open Bytes

/-- A stored value. Text that is not UTF-8 is kept apart: no string can be read from it. -/
inductive SqlValue where
  | null
  | integer (value : ℤ)
  | real (value : WithBot (WithTop ℚ))
  | text (value : String)
  | malformedText (bytes : List UInt8)
  | blob (bytes : List UInt8)
  deriving DecidableEq

abbrev SqlKey := ℕ ×ₗ WithBot (WithTop ℚ) ×ₗ List ℕ

namespace SqlValue

/-- Nulls sort first, then numbers by value, text by its bytes and blobs by theirs. -/
def key : SqlValue → SqlKey
  | .null => toLex (0, toLex (⊥, []))
  | .integer value => toLex (1, toLex (((value : ℚ) : WithTop ℚ), []))
  | .real value => toLex (1, toLex (value, []))
  | .text value => toLex (2, toLex (⊥, (utf8 value).map UInt8.toNat))
  | .malformedText bytes => toLex (2, toLex (⊥, bytes.map UInt8.toNat))
  | .blob bytes => toLex (3, toLex (⊥, bytes.map UInt8.toNat))

def equals (left right : SqlValue) : Bool :=
  left != .null && right != .null && left.key == right.key

def precedes (left right : SqlValue) : Bool :=
  left != .null && right != .null && decide (left.key < right.key)

def coalesce (value other : SqlValue) : SqlValue := if value = .null then other else value

/-- A bound parameter that is absent is a null. -/
def ofOption {α : Type*} (make : α → SqlValue) : Option α → SqlValue
  | none => .null
  | some value => make value

def getInteger : SqlValue → Option ℤ
  | .integer value => some value
  | _ => none

/-- A column that may be null. -/
def getNullable {α : Type*} (get : SqlValue → Option α) : SqlValue → Option (Option α)
  | .null => some none
  | value => (get value).map some

def getText : SqlValue → Option String
  | .text value => some value
  | _ => none

def getBlob : SqlValue → Option (List UInt8)
  | .blob bytes => some bytes
  | _ => none

@[simp] theorem getInteger_eq_some {value : SqlValue} {number : ℤ} :
    value.getInteger = some number ↔ value = .integer number := by
  cases value <;> simp [getInteger]

@[simp] theorem getText_eq_some {value : SqlValue} {text : String} :
    value.getText = some text ↔ value = .text text := by
  cases value <;> simp [getText]

theorem key_integer_lt {left right : ℤ} : key (.integer left) < key (.integer right) ↔
    left < right := by
  simp only [key, Prod.Lex.lt_iff, ofLex_toLex, lt_self_iff_false, false_or, true_and, and_false,
    or_false, WithBot.coe_lt_coe, WithTop.coe_lt_coe, Int.cast_lt]

theorem key_integer_inj {left right : ℤ} : key (.integer left) = key (.integer right) ↔
    left = right := by
  simp [key]

theorem key_text_inj {left right : String} : key (.text left) = key (.text right) ↔
    left = right := by
  constructor
  · intro h
    simp only [key, EmbeddingLike.apply_eq_iff_eq, Prod.mk.injEq, true_and] at h
    exact utf8_injective (List.map_injective_iff.mpr (fun _ _ => UInt8.toNat_inj.mp) h)
  · rintro rfl
    rfl

end SqlValue

/-- Four columns compare as a condition over them spells it out. -/
theorem four_lt_iff {κ : Type*} [LinearOrder κ] {a b c d a' b' c' d' : κ} :
    (toLex (a, toLex (b, toLex (c, d))) : κ ×ₗ κ ×ₗ κ ×ₗ κ) < toLex (a', toLex (b', toLex (c', d'))) ↔
      ((a < a' ∨ a = a' ∧ b < b') ∨ (a = a' ∧ b = b') ∧ c < c') ∨
        ((a = a' ∧ b = b') ∧ c = c') ∧ d < d' := by
  simp only [Prod.Lex.lt_iff, ofLex_toLex]
  tauto

section Ordering

variable {α κ : Type*} [LinearOrder κ] (key : α → κ)

def orderBy (rows : List α) : List α :=
  rows.insertionSort fun left right => key left ≤ key right

theorem orderBy_perm (rows : List α) : (orderBy key rows).Perm rows :=
  List.perm_insertionSort _ rows

@[simp] theorem mem_orderBy {rows : List α} {row : α} : row ∈ orderBy key rows ↔ row ∈ rows :=
  (orderBy_perm key rows).mem_iff

theorem orderBy_pairwise (rows : List α) :
    (orderBy key rows).Pairwise fun left right => key left ≤ key right := by
  have htotal : Std.Total (fun left right : α => key left ≤ key right) :=
    ⟨fun left right => le_total (key left) (key right)⟩
  have htrans : IsTrans α (fun left right => key left ≤ key right) := ⟨fun _ _ _ => le_trans⟩
  exact List.pairwise_insertionSort _ rows

/-- Where no key repeats, the rows stand in a strict order. -/
theorem orderBy_strict {rows : List α} (h : (rows.map key).Nodup) :
    (orderBy key rows).Pairwise fun left right => key left < key right := by
  have hnodup : ((orderBy key rows).map key).Nodup :=
    ((orderBy_perm key rows).map key).nodup_iff.mpr h
  have hdistinct := List.pairwise_map.mp hnodup
  exact ((orderBy_pairwise key rows).and hdistinct).imp fun h => lt_of_le_of_ne h.1 h.2

/-- Selecting rows before or after they are ordered is the same. -/
theorem orderBy_filter {rows : List α} (h : (rows.map key).Nodup) (p : α → Bool) :
    orderBy key (rows.filter p) = (orderBy key rows).filter p := by
  have hperm : (orderBy key (rows.filter p)).Perm ((orderBy key rows).filter p) :=
    (orderBy_perm key _).trans ((orderBy_perm key rows).filter p).symm
  have hsorted := (orderBy_pairwise key rows).sublist (List.filter_sublist (p := p))
  apply hperm.eq_of_pairwise _ (orderBy_pairwise key _) hsorted
  intro left right hleft hright hle hge
  have hleft' : left ∈ rows := List.mem_of_mem_filter ((mem_orderBy key).mp hleft)
  have hright' : right ∈ rows := (mem_orderBy key).mp (List.mem_of_mem_filter hright)
  exact List.inj_on_of_nodup_map h hleft' hright' (le_antisymm hle hge)

/-- Ordered rows are those up to a key, then those beyond it. -/
theorem filter_append_filter {rows : List α}
    (h : rows.Pairwise fun left right => key left < key right) (bound : κ) :
    rows.filter (fun row => decide (key row ≤ bound)) ++
      rows.filter (fun row => decide (bound < key row)) = rows := by
  induction rows with
  | nil => rfl
  | cons row rows ih =>
    rcases List.pairwise_cons.mp h with ⟨hrow, hrows⟩
    by_cases hbound : key row ≤ bound
    · rw [List.filter_cons_of_pos (by simpa using hbound),
        List.filter_cons_of_neg (by simpa using hbound), List.cons_append, ih hrows]
    · have hnone : rows.filter (fun row => decide (key row ≤ bound)) = [] := by
        apply List.filter_eq_nil_iff.mpr
        intro other hother
        rw [decide_eq_true_eq, not_le]
        exact (not_le.mp hbound).trans (hrow other hother)
      have hall : rows.filter (fun row => decide (bound < key row)) = rows := by
        apply List.filter_eq_self.mpr
        intro other hother
        exact decide_eq_true ((not_le.mp hbound).trans (hrow other hother))
      rw [List.filter_cons_of_neg (by simpa using hbound),
        List.filter_cons_of_pos (by simpa using hbound), hnone, hall, List.nil_append]

end Ordering

end GreenBubbles.Library.Sql
