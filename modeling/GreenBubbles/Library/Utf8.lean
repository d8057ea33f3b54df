import Mathlib.Algebra.GroupWithZero.Nat
import GreenBubbles.Library.Search

/-! # Text by byte offsets

A text is the list of its characters. Offsets count the bytes of its UTF-8
encoding, and a slice between two characters of the encoding fails.
-/
namespace GreenBubbles.Library.Utf8

open Search

variable {text pattern opener closer : List Char} {n m : ℕ}

/-- The offset of the character at an index. -/
def byteOffset (text : List Char) (n : ℕ) : ℕ := ((text.take n).map Char.utf8Size).sum

def sliceFrom : List Char → ℕ → Option (List Char)
  | text, 0 => some text
  | [], _ + 1 => none
  | c :: text, offset + 1 =>
    if c.utf8Size ≤ offset + 1 then sliceFrom text (offset + 1 - c.utf8Size) else none

def sliceTo : List Char → ℕ → Option (List Char)
  | _, 0 => some []
  | [], _ + 1 => none
  | c :: text, offset + 1 =>
    if c.utf8Size ≤ offset + 1 then (sliceTo text (offset + 1 - c.utf8Size)).map (c :: ·) else none

def slice (text : List Char) (start stop : ℕ) : Option (List Char) :=
  if start ≤ stop then (sliceFrom text start).bind (sliceTo · (stop - start)) else none

/-- The offset of the first occurrence. -/
def find (text pattern : List Char) : Option ℕ := (indexOf pattern text).map (byteOffset text)

/-- The offset of the last occurrence. -/
def rfind (text pattern : List Char) : Option ℕ :=
  (lastIndexOf pattern text).map (byteOffset text)

@[simp] theorem byteOffset_zero : byteOffset text 0 = 0 := rfl

theorem byteOffset_cons (c : Char) :
    byteOffset (c :: text) (n + 1) = c.utf8Size + byteOffset text n := by
  simp [byteOffset]

theorem byteOffset_add :
    byteOffset text (n + m) = byteOffset text n + byteOffset (text.drop n) m := by
  rw [byteOffset, List.take_add, List.map_append, List.sum_append]
  rfl

theorem byteOffset_le (h : n ≤ m) : byteOffset text n ≤ byteOffset text m := by
  obtain ⟨k, rfl⟩ := Nat.exists_eq_add_of_le h
  rw [byteOffset_add]
  exact Nat.le_add_right _ _

/-- Behind a pattern of ASCII characters the offset grows by its length. -/
theorem byteOffset_occurs (h : OccursAt pattern text n)
    (hascii : (pattern.all fun c => c.utf8Size == 1) = true) :
    byteOffset text (n + pattern.length) = byteOffset text n + pattern.length := by
  have htake : (text.drop n).take pattern.length = pattern := (List.prefix_iff_eq_take.mp h).symm
  rw [byteOffset_add, byteOffset.eq_def (text.drop n), htake]
  congr 1
  clear h htake
  induction pattern with
  | nil => rfl
  | cons c pattern ih =>
    rw [List.all_cons, Bool.and_eq_true, beq_iff_eq] at hascii
    rw [List.map_cons, List.sum_cons, hascii.1, ih hascii.2, List.length_cons, Nat.add_comm]

theorem byteOffset_lt (h : n < m) (hm : m ≤ text.length) : byteOffset text n < byteOffset text m := by
  obtain ⟨k, rfl⟩ := Nat.exists_eq_add_of_lt h
  rw [Nat.add_assoc, byteOffset_add]
  cases hdrop : text.drop n with
  | nil =>
    have hlength := congrArg List.length hdrop
    rw [List.length_drop, List.length_nil] at hlength
    omega
  | cons c rest =>
    rw [byteOffset_cons]
    have hpositive := c.utf8Size_pos
    omega

theorem byteOffset_lt_iff (hn : n ≤ text.length) (hm : m ≤ text.length) :
    byteOffset text n < byteOffset text m ↔ n < m := by
  constructor
  · intro h
    by_contra hle
    rcases Nat.eq_or_lt_of_le (Nat.not_lt.mp hle) with rfl | hlt
    · exact lt_irrefl _ h
    · exact lt_asymm h (byteOffset_lt hlt hn)
  · intro h
    exact byteOffset_lt h hm

theorem byteOffset_inj (hn : n ≤ text.length) (hm : m ≤ text.length) :
    byteOffset text n = byteOffset text m ↔ n = m := by
  constructor
  · intro h
    rcases lt_trichotomy n m with hlt | heq | hlt
    · exact absurd h (byteOffset_lt hlt hm).ne
    · exact heq
    · exact absurd h (byteOffset_lt hlt hn).ne'
  · rintro rfl
    rfl

/-- A change of characters that keeps their sizes keeps the offsets. -/
theorem byteOffset_map {f : Char → Char} (hf : ∀ c, (f c).utf8Size = c.utf8Size) :
    byteOffset (text.map f) n = byteOffset text n := by
  rw [byteOffset, byteOffset, ← List.map_take, List.map_map]
  congr 1
  apply List.map_congr_left
  intro c _
  exact hf c

theorem sliceFrom_byteOffset (hn : n ≤ text.length) :
    sliceFrom text (byteOffset text n) = some (text.drop n) := by
  induction text generalizing n with
  | nil =>
    obtain rfl : n = 0 := Nat.le_zero.mp hn
    rfl
  | cons c text ih =>
    cases n with
    | zero => rfl
    | succ n =>
      have hpositive := c.utf8Size_pos
      obtain ⟨size, hsize⟩ := Nat.exists_eq_succ_of_ne_zero hpositive.ne'
      rw [byteOffset_cons, hsize, Nat.succ_eq_add_one, Nat.add_right_comm, sliceFrom, hsize,
        if_pos (by omega), List.drop_succ_cons, ← ih (Nat.le_of_succ_le_succ hn)]
      congr 1
      omega

theorem sliceTo_byteOffset (hn : n ≤ text.length) :
    sliceTo text (byteOffset text n) = some (text.take n) := by
  induction text generalizing n with
  | nil =>
    obtain rfl : n = 0 := Nat.le_zero.mp hn
    rfl
  | cons c text ih =>
    cases n with
    | zero => rfl
    | succ n =>
      have hpositive := c.utf8Size_pos
      obtain ⟨size, hsize⟩ := Nat.exists_eq_succ_of_ne_zero hpositive.ne'
      have hrest : size + byteOffset text n + 1 - (size + 1) = byteOffset text n := by omega
      rw [byteOffset_cons, hsize, Nat.succ_eq_add_one, Nat.add_right_comm, sliceTo, hsize,
        if_pos (by omega), hrest, ih (Nat.le_of_succ_le_succ hn), List.take_succ_cons]
      rfl

theorem slice_byteOffset (hle : n ≤ m) (hm : m ≤ text.length) :
    slice text (byteOffset text n) (byteOffset text m) = some ((text.drop n).take (m - n)) := by
  obtain ⟨k, rfl⟩ := Nat.exists_eq_add_of_le hle
  rw [slice, byteOffset_add, if_pos (Nat.le_add_right _ _), Nat.add_sub_cancel_left,
    sliceFrom_byteOffset (by omega), Option.bind_some,
    sliceTo_byteOffset (by rw [List.length_drop]; omega), Nat.add_sub_cancel_left]

theorem find_eq_some {offset : ℕ} : find text pattern = some offset ↔
    ∃ n, indexOf pattern text = some n ∧ byteOffset text n = offset := by
  rw [find, Option.map_eq_some_iff]

theorem find_eq_none : find text pattern = none ↔ indexOf pattern text = none := by
  rw [find, Option.map_eq_none_iff]

/-- The offsets of the last occurrences decide whether an opener is closed. -/
theorem rfind_unclosed (hopener : opener ≠ []) (hcloser : closer ≠ []) :
    ((rfind text opener).any fun start => (rfind text closer).all fun stop => stop < start) = true ↔
      Unclosed opener closer text := by
  rw [unclosed_iff hopener hcloser]
  simp only [rfind, Option.any_map, Option.any_eq_true, Option.all_map, Option.all_eq_true,
    decide_eq_true_eq, Option.mem_def]
  refine exists_congr fun n => and_congr_right fun hn => forall_congr' fun m =>
    forall_congr' fun hm => ?_
  have hlength := ((lastIndexOf_eq_some hopener).mp hn).1.le_length hopener
  have hlength' := ((lastIndexOf_eq_some hcloser).mp hm).1.le_length hcloser
  exact byteOffset_lt_iff (by omega) (by omega)

end GreenBubbles.Library.Utf8
