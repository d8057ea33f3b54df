import GreenBubbles.NestedXml.Repair

/-! # What the repair removes

The loop over the declarations never fails. It removes every declaration its test
finds outside of sections, except where one begins inside a range it has removed.
-/
namespace GreenBubbles.NestedXml

open Library.Search Library.Utf8

variable {text lower : List Char} {n m : ℕ}

theorem toLower_cases (c : Char) : c.toLower = c ∨
    c.toNat ≤ 90 ∧ 65 ≤ c.toNat ∧ c.toLower.toNat = c.toNat + 32 := by
  unfold Char.toLower
  split
  · rename_i h
    refine .inr ⟨h.2, h.1, ?_⟩
    have hle : c.toNat ≤ 90 := h.2
    change (c.val + ('a'.val - 'A'.val)).toNat = c.val.toNat + 32
    rw [UInt32.toNat_add]
    change (c.toNat + 32) % 2 ^ 32 = c.toNat + 32
    omega
  · exact .inl rfl

theorem utf8Size_toLower (c : Char) : c.toLower.utf8Size = c.utf8Size := by
  rcases toLower_cases c with h | ⟨hle, -, hlower⟩
  · rw [h]
  · have hone : c.utf8Size = 1 := Char.utf8Size_eq_one_iff.mpr (show c.toNat ≤ 127 by omega)
    rw [hone]
    exact Char.utf8Size_eq_one_iff.mpr (show c.toLower.toNat ≤ 127 by omega)

/-- Not a letter of either case. -/
def caseless (d : Char) : Bool :=
  !(decide (97 ≤ d.toNat) && decide (d.toNat ≤ 122)) &&
    !(decide (65 ≤ d.toNat) && decide (d.toNat ≤ 90))

/-- Only capital letters are changed, and only into small ones. -/
theorem toLower_eq {c d : Char} (hd : caseless d = true) : c.toLower = d ↔ c = d := by
  simp only [caseless, Bool.and_eq_true, Bool.not_eq_true', Bool.and_eq_false_iff,
    decide_eq_false_iff_not] at hd
  rcases toLower_cases c with h | ⟨hle, hge, hlower⟩
  · rw [h]
  · constructor
    · rintro rfl
      omega
    · rintro rfl
      omega

/-- The test for sections at an index. -/
def Guarded (lower : List Char) (n : ℕ) : Prop :=
  Unclosed cdataStart cdataEnd (lower.take n) ∨ Unclosed commentStart commentEnd (lower.take n)

/-- A declaration at an index reaches to the next end of an instruction. -/
def Closes (text : List Char) (n m : ℕ) : Prop :=
  ∃ length, indexOf declarationEnd (text.drop n) = some length ∧ m = n + length + 2

structure Removable (lower : List Char) (n m : ℕ) : Prop where
  occurs : OccursAt declarationStart lower n
  unguarded : ¬ Guarded lower n
  closes : Closes lower n m

/-- The ranges removed from an index on. -/
structure Swept (lower : List Char) (start : ℕ) (ranges : List (ℕ × ℕ)) : Prop where
  removable : ∀ range ∈ ranges, start ≤ range.1 ∧ Removable lower range.1 range.2
  complete : ∀ n m, start ≤ n → Removable lower n m →
    (n, m) ∈ ranges ∨ ∃ range ∈ ranges, range.1 < n ∧ n < range.2
  apart : ranges.Pairwise fun range later => range.2 ≤ later.1

/-- Index ranges as byte ranges. -/
def offsets (text : List Char) (ranges : List (ℕ × ℕ)) : List (ℕ × ℕ) :=
  ranges.map fun range => (byteOffset text range.1, byteOffset text range.2)

theorem insideCdataOrComment_eq (hn : n ≤ lower.length) :
    ∃ inside, insideCdataOrComment lower (byteOffset lower n) = some inside ∧
      (inside = true ↔ Guarded lower n) := by
  refine ⟨_, by rw [insideCdataOrComment, sliceTo_byteOffset hn]; rfl, ?_⟩
  rw [Bool.or_eq_true, rfind_unclosed (by decide) (by decide),
    rfind_unclosed (by decide) (by decide), Guarded]

theorem Closes.bounds (h : Closes lower n m) : n + 2 ≤ m ∧ m ≤ lower.length := by
  obtain ⟨length, hindex, rfl⟩ := h
  have hpattern : declarationEnd ≠ [] := by decide
  have hlength := ((indexOf_eq_some hpattern).mp hindex).1.le_length hpattern
  have htwo : declarationEnd.length = 2 := rfl
  rw [List.length_drop, htwo] at hlength
  omega

theorem Closes.unique {m' : ℕ} (h : Closes lower n m) (h' : Closes lower n m') : m = m' := by
  obtain ⟨length, hindex, rfl⟩ := h
  obtain ⟨length', hindex', rfl⟩ := h'
  rw [hindex] at hindex'
  rw [Option.some.inj hindex']

/-- No declaration begins inside the first five characters of another. -/
theorem occursAt_apart (h : OccursAt declarationStart lower n) (h' : OccursAt declarationStart lower m)
    (hlt : n < m) : n + 5 ≤ m := by
  by_contra hclose
  obtain ⟨k, rfl⟩ := Nat.exists_eq_add_of_lt hlt
  obtain ⟨rest, hrest⟩ := h
  rw [Nat.add_assoc, OccursAt, ← List.drop_drop, ← hrest] at h'
  have hk : k < 4 := by omega
  obtain rfl | rfl | rfl | rfl : k = 0 ∨ k = 1 ∨ k = 2 ∨ k = 3 := by omega
  all_goals simp [declarationStart] at h'

theorem declarationRanges_swept {msgOpenEnd rounds start : ℕ} (hstart : start ≤ lower.length)
    (hopen : msgOpenEnd < byteOffset lower start) (hrounds : lower.length - start < rounds) :
    ∃ ranges, declarationRanges lower msgOpenEnd rounds (byteOffset lower start) =
      some (offsets lower ranges) ∧ Swept lower start ranges := by
  have hpattern : declarationStart ≠ [] := by decide
  have hclose : declarationEnd ≠ [] := by decide
  induction rounds generalizing start with
  | zero => omega
  | succ rounds ih =>
    rw [declarationRanges, sliceFrom_byteOffset hstart]
    simp only [Option.bind_eq_bind, Option.bind_some]
    cases hfind : indexOf declarationStart (lower.drop start) with
    | none =>
      have hnone := (indexOf_eq_none hpattern).mp hfind
      rw [find_eq_none.mpr hfind]
      refine ⟨[], rfl, by simp, ?_, List.Pairwise.nil⟩
      intro n m hn hremovable
      refine absurd ?_ (hnone (n - start))
      rw [occursAt_drop, Nat.add_sub_cancel' hn]
      exact hremovable.occurs
    | some skipped =>
      obtain ⟨hoccurs, hfirst⟩ := (indexOf_eq_some hpattern).mp hfind
      rw [occursAt_drop] at hoccurs
      have hlength := hoccurs.le_length hpattern
      have hfive : declarationStart.length = 5 := rfl
      rw [find_eq_some.mpr ⟨skipped, hfind, rfl⟩]
      simp only []
      rw [← byteOffset_add]
      have hbehind : ¬ byteOffset lower (start + skipped) ≤ msgOpenEnd := by
        have hmono : byteOffset lower start ≤ byteOffset lower (start + skipped) := by
          rw [byteOffset_add]
          exact Nat.le_add_right _ _
        omega
      -- between the search position and the first occurrence nothing is removable
      have hbetween : ∀ n, start ≤ n → OccursAt declarationStart lower n → start + skipped ≤ n := by
        intro n hn hoccurs'
        by_contra hlt
        refine hfirst (n - start) (by omega) ?_
        rw [occursAt_drop, Nat.add_sub_cancel' hn]
        exact hoccurs'
      have hplace : start + skipped ≤ lower.length := by omega
      obtain ⟨inside, hinside, hguarded⟩ := insideCdataOrComment_eq hplace
      rw [if_neg hbehind, hinside]
      simp only [Option.bind_some]
      cases inside with
      | true =>
        have hguard : Guarded lower (start + skipped) := hguarded.mp rfl
        obtain ⟨ranges, hranges, hswept⟩ := @ih (start + skipped + 5) (by omega)
          (hopen.trans (byteOffset_lt (by omega) (by omega))) (by omega)
        refine ⟨ranges, ?_, ?_, ?_, hswept.apart⟩
        · rw [← hranges, ← hfive, byteOffset_occurs hoccurs (by decide)]
          rfl
        · intro range hrange
          obtain ⟨hle, hremovable⟩ := hswept.removable range hrange
          exact ⟨by omega, hremovable⟩
        · intro n m hn hremovable
          have hle := hbetween n hn hremovable.occurs
          rcases Nat.eq_or_lt_of_le hle with rfl | hlt
          · exact absurd hguard hremovable.unguarded
          · exact hswept.complete n m (occursAt_apart hoccurs hremovable.occurs hlt) hremovable
      | false =>
        have hunguarded : ¬ Guarded lower (start + skipped) := by
          rw [← hguarded]
          exact Bool.false_ne_true
        rw [if_neg Bool.false_ne_true, sliceFrom_byteOffset (by omega)]
        simp only [Option.bind_some]
        cases hend : indexOf declarationEnd (lower.drop (start + skipped)) with
        | none =>
          have hnone := (indexOf_eq_none hclose).mp hend
          rw [find_eq_none.mpr hend]
          refine ⟨[], rfl, by simp, ?_, List.Pairwise.nil⟩
          intro n m hn hremovable
          have hle := hbetween n hn hremovable.occurs
          obtain ⟨length, hindex, -⟩ := hremovable.closes
          have hends := ((indexOf_eq_some hclose).mp hindex).1
          rw [occursAt_drop] at hends
          refine absurd ?_ (hnone (n + length - (start + skipped)))
          rw [occursAt_drop, Nat.add_sub_cancel' (by omega)]
          exact hends
        | some length =>
          have hcloses : Closes lower (start + skipped) (start + skipped + length + 2) :=
            ⟨length, hend, rfl⟩
          have hends := ((indexOf_eq_some hclose).mp hend).1
          rw [occursAt_drop] at hends
          have htwo : declarationEnd.length = 2 := rfl
          have hstop : byteOffset lower (start + skipped) +
              byteOffset (lower.drop (start + skipped)) length + 2 =
                byteOffset lower (start + skipped + length + 2) := by
            rw [← byteOffset_add, ← htwo, byteOffset_occurs hends (by decide)]
          obtain ⟨ranges, hranges, hswept⟩ := @ih (start + skipped + length + 2)
            hcloses.bounds.2 (hopen.trans (byteOffset_lt (by omega) hcloses.bounds.2)) (by omega)
          rw [find_eq_some.mpr ⟨length, hend, rfl⟩]
          simp only []
          rw [hstop, hranges]
          refine ⟨(start + skipped, start + skipped + length + 2) :: ranges, rfl, ?_, ?_, ?_⟩
          · intro range hrange
            rcases List.mem_cons.mp hrange with rfl | hrange
            · exact ⟨by omega, hoccurs, hunguarded, hcloses⟩
            · obtain ⟨hle, hremovable⟩ := hswept.removable range hrange
              exact ⟨by omega, hremovable⟩
          · intro n m hn hremovable
            have hle := hbetween n hn hremovable.occurs
            rcases Nat.eq_or_lt_of_le hle with rfl | hlt
            · rw [hremovable.closes.unique hcloses]
              exact .inl List.mem_cons_self
            · rcases Nat.lt_or_ge n (start + skipped + length + 2) with hinner | houter
              · exact .inr ⟨_, List.mem_cons_self, hlt, hinner⟩
              · rcases hswept.complete n m houter hremovable with hmem | ⟨range, hrange, hin⟩
                · exact .inl (List.mem_cons_of_mem _ hmem)
                · exact .inr ⟨range, List.mem_cons_of_mem _ hrange, hin⟩
          · refine List.pairwise_cons.mpr ⟨fun range hrange => ?_, hswept.apart⟩
            exact (hswept.removable range hrange).1

/-! The opening tag -/

/-- The index of the first `>` outside quotes. -/
def tagEndIndex : Option Char → List Char → Option ℕ
  | _, [] => none
  | some expected, value :: rest =>
    (tagEndIndex (if value = expected then none else some expected) rest).map (· + 1)
  | none, value :: rest =>
    if value = '\'' ∨ value = '"' then (tagEndIndex (some value) rest).map (· + 1)
    else if value = '>' then some 0
    else (tagEndIndex none rest).map (· + 1)

theorem tagEndFrom_eq (quote : Option Char) (index : ℕ) (text : List Char) :
    tagEndFrom quote index text =
      (tagEndIndex quote text).map fun n => index + byteOffset text n := by
  have hshift : ∀ (index : ℕ) (value : Char) (rest : List Char) (found : Option ℕ),
      (found.map fun n => index + value.utf8Size + byteOffset rest n) =
        (found.map (· + 1)).map fun n => index + byteOffset (value :: rest) n := by
    intro index value rest found
    cases found with
    | none => rfl
    | some n =>
      rw [Option.map_some, Option.map_some, Option.map_some, byteOffset_cons, Nat.add_assoc]
  induction text generalizing quote index with
  | nil => cases quote <;> rfl
  | cons value rest ih =>
    cases quote with
    | some expected => rw [tagEndFrom, tagEndIndex, ih, hshift]
    | none =>
      rw [tagEndFrom, tagEndIndex]
      by_cases hquote : value = '\'' ∨ value = '"'
      · rw [if_pos hquote, if_pos hquote, ih, hshift]
      · rw [if_neg hquote, if_neg hquote]
        by_cases hend : value = '>'
        · rw [if_pos hend, if_pos hend]
          rfl
        · rw [if_neg hend, if_neg hend, ih, hshift]

theorem tagEndIndex_occurs {quote : Option Char} (h : tagEndIndex quote text = some n) :
    OccursAt ['>'] text n := by
  induction text generalizing quote n with
  | nil => cases quote <;> cases h
  | cons value rest ih =>
    have hlater : ∀ {quote : Option Char},
        (tagEndIndex quote rest).map (· + 1) = some n → OccursAt ['>'] (value :: rest) n := by
      intro quote h
      obtain ⟨m, hm, rfl⟩ := Option.map_eq_some_iff.mp h
      exact ih hm
    cases quote with
    | some expected =>
      rw [tagEndIndex] at h
      exact hlater h
    | none =>
      rw [tagEndIndex] at h
      split_ifs at h with hquote hend
      · exact hlater h
      · obtain rfl := Option.some.inj h
        exact ⟨rest, by rw [hend]; rfl⟩
      · exact hlater h

/-- The index behind the first opening tag of a message. -/
def openingEnd (text : List Char) : Option ℕ :=
  (indexOf msgTag (toAsciiLowercase text)).bind fun start =>
    (tagEndIndex none (text.drop start)).map fun length => start + length + 1

def Behind (text : List Char) (n : ℕ) : Prop := ∃ stop ∈ openingEnd text, stop ≤ n

/-- What the repair of a text removes. -/
structure Sweeps (text : List Char) (ranges : List (ℕ × ℕ)) : Prop where
  removable : ∀ range ∈ ranges,
    Behind text range.1 ∧ Removable (toAsciiLowercase text) range.1 range.2
  complete : ∀ n m, Behind text n → Removable (toAsciiLowercase text) n m →
    (n, m) ∈ ranges ∨ ∃ range ∈ ranges, range.1 < n ∧ n < range.2
  apart : ranges.Pairwise fun range later => range.2 ≤ later.1

theorem length_toAsciiLowercase : (toAsciiLowercase text).length = text.length := List.length_map _

theorem byteOffset_toAsciiLowercase : byteOffset (toAsciiLowercase text) n = byteOffset text n :=
  byteOffset_map utf8Size_toLower

theorem misplacedDeclarations_sweeps (text : List Char) :
    ∃ ranges, misplacedDeclarations text = some (offsets text ranges) ∧ Sweeps text ranges := by
  have hmsg : msgTag ≠ [] := by decide
  have hnothing : openingEnd text = none → Sweeps text [] := by
    intro hnone
    refine ⟨by simp, ?_, List.Pairwise.nil⟩
    rintro n m ⟨stop, hstop, -⟩ -
    rw [hnone] at hstop
    cases hstop
  simp only [misplacedDeclarations]
  cases hfind : indexOf msgTag (toAsciiLowercase text) with
  | none =>
    rw [find_eq_none.mpr hfind]
    exact ⟨[], rfl, hnothing (by rw [openingEnd, hfind]; rfl)⟩
  | some start =>
    have hstart := ((indexOf_eq_some hmsg).mp hfind).1.le_length hmsg
    rw [length_toAsciiLowercase] at hstart
    rw [find_eq_some.mpr ⟨start, hfind, rfl⟩]
    simp only [byteOffset_toAsciiLowercase]
    rw [sliceFrom_byteOffset (by omega)]
    simp only [Option.bind_eq_bind, Option.bind_some, findTagEnd]
    rw [tagEndFrom_eq]
    cases htag : tagEndIndex none (text.drop start) with
    | none => exact ⟨[], rfl, hnothing (by rw [openingEnd, hfind, Option.bind_some, htag]; rfl)⟩
    | some length =>
      have hopening : openingEnd text = some (start + length + 1) := by
        rw [openingEnd, hfind, Option.bind_some, htag, Option.map_some]
      have hoccurs := tagEndIndex_occurs htag
      rw [occursAt_drop] at hoccurs
      have hinside := hoccurs.le_length (by decide)
      have hone : byteOffset text (start + length + 1) = byteOffset text (start + length) + 1 :=
        byteOffset_occurs hoccurs (by decide)
      have hlower : byteOffset (toAsciiLowercase text) (start + length + 1) =
          byteOffset text start + (0 + byteOffset (text.drop start) length) + 1 := by
        rw [byteOffset_toAsciiLowercase, hone, byteOffset_add, Nat.zero_add]
      obtain ⟨ranges, hranges, hswept⟩ := @declarationRanges_swept (toAsciiLowercase text)
        (byteOffset text start + (0 + byteOffset (text.drop start) length)) (text.length + 1)
        (start + length + 1) (by rw [length_toAsciiLowercase]; exact hinside) (by omega)
        (by rw [length_toAsciiLowercase]; omega)
      refine ⟨ranges, ?_, ?_, ?_, hswept.apart⟩
      · rw [hlower] at hranges
        simp only [Option.map_some]
        rw [hranges, offsets, offsets]
        simp only [byteOffset_toAsciiLowercase]
      · intro range hrange
        obtain ⟨hle, hremovable⟩ := hswept.removable range hrange
        exact ⟨⟨_, hopening, hle⟩, hremovable⟩
      · rintro n m ⟨stop, hstop, hle⟩ hremovable
        rw [hopening] at hstop
        obtain rfl := Option.some.inj hstop
        exact hswept.complete n m hle hremovable

end GreenBubbles.NestedXml
