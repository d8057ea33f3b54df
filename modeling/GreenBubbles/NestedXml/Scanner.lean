import GreenBubbles.NestedXml.Sweep

/-! # Sections as XML has them

A text is read construct by construct: CDATA sections, comments and processing
instructions as wholes, everything else by the character. An opener inside a
construct opens nothing. The declarations to remove are instructions of this reading.
-/
namespace GreenBubbles.NestedXml

open Library.Search Library.Utf8

variable {text rest : List Char} {n m : ℕ}

inductive Construct where
  | cdata
  | comment
  | instruction
  | character
  deriving DecidableEq

def xmlCdataStart : List Char := ['<', '!', '[', 'C', 'D', 'A', 'T', 'A', '[']
def instructionStart : List Char := ['<', '?']

def constructAt (rest : List Char) : Construct :=
  if xmlCdataStart <+: rest then .cdata
  else if commentStart <+: rest then .comment
  else if instructionStart <+: rest then .instruction
  else .character

/-- A construct that is never closed reaches to the end. -/
def sectionLength (opener closer rest : List Char) : ℕ :=
  match indexOf closer (rest.drop opener.length) with
  | some length => opener.length + length + closer.length
  | none => rest.length

def constructLength (rest : List Char) : ℕ :=
  match constructAt rest with
  | .cdata => sectionLength xmlCdataStart cdataEnd rest
  | .comment => sectionLength commentStart commentEnd rest
  | .instruction => sectionLength instructionStart declarationEnd rest
  | .character => 1

/-- A construct begins at an index. -/
inductive Begins (text : List Char) : ℕ → Prop
  | first : Begins text 0
  | next {n : ℕ} : Begins text n → n < text.length →
      Begins text (n + constructLength (text.drop n))

theorem constructLength_pos (h : rest ≠ []) : 0 < constructLength rest := by
  have hrest := List.length_pos_iff.mpr h
  have hsection : ∀ opener closer : List Char, opener ≠ [] → 0 < sectionLength opener closer rest := by
    intro opener closer hopener
    have hpositive := List.length_pos_iff.mpr hopener
    unfold sectionLength
    split <;> omega
  unfold constructLength
  cases constructAt rest with
  | cdata => exact hsection _ _ (by decide)
  | comment => exact hsection _ _ (by decide)
  | instruction => exact hsection _ _ (by decide)
  | character => exact Nat.one_pos

/-- Constructs do not overlap. -/
theorem Begins.apart (h : Begins text n) (h' : Begins text m) (hlt : n < m) :
    n + constructLength (text.drop n) ≤ m := by
  induction m using Nat.strong_induction_on generalizing n with
  | _ m ih =>
    cases h' with
    | first => exact absurd hlt (Nat.not_lt_zero n)
    | @next before hbefore hinside =>
      have hpositive : 0 < constructLength (text.drop before) := by
        apply constructLength_pos
        intro hempty
        have hlength := congrArg List.length hempty
        rw [List.length_drop, List.length_nil] at hlength
        omega
      rcases lt_trichotomy n before with hearlier | rfl | hlater
      · have hle := ih before (by omega) h hbefore hearlier
        omega
      · exact le_refl _
      · have hle := ih n hlt hbefore h hlater
        omega

/-- The target of the instruction is `xml` itself: a blank or the end follows. -/
def EndsTarget (rest : List Char) : Prop :=
  (∃ c ∈ rest.head?, c ∈ [' ', '\t', '\r', '\n']) ∨ declarationEnd <+: rest

/-- A declaration in the wrong place: behind the opening tag and outside of every section. -/
structure Declaration (text : List Char) (n m : ℕ) : Prop where
  behind : Behind text n
  begins : Begins text n
  occurs : OccursAt declarationStart (toAsciiLowercase text) n
  target : EndsTarget (text.drop (n + 5))
  closes : Closes text n m

theorem occursAt_lower {pattern : List Char} (hpattern : pattern.all caseless = true) :
    OccursAt pattern (toAsciiLowercase text) n ↔ OccursAt pattern text n := by
  rw [OccursAt, OccursAt, toAsciiLowercase, ← List.map_drop]
  generalize text.drop n = rest
  induction pattern generalizing rest with
  | nil => simp
  | cons d pattern ih =>
    cases rest with
    | nil => simp
    | cons c rest =>
      rw [List.all_cons, Bool.and_eq_true] at hpattern
      rw [List.map_cons, List.cons_prefix_cons, List.cons_prefix_cons, ih hpattern.2 rest, eq_comm,
        toLower_eq hpattern.1, eq_comm]

theorem closes_lower : Closes (toAsciiLowercase text) n m ↔ Closes text n m := by
  have hpattern : declarationEnd ≠ [] := by decide
  simp only [Closes, indexOf_eq_some hpattern, occursAt_drop]
  simp only [occursAt_lower (show declarationEnd.all caseless = true by decide)]

theorem Declaration.head (h : Declaration text n m) :
    ∃ c rest, text.drop n = '<' :: '?' :: c :: rest ∧ c ≠ '>' := by
  have hoccurs := h.occurs
  rw [OccursAt, toAsciiLowercase, ← List.map_drop] at hoccurs
  have hless : ∀ c : Char, c.toLower = '<' ↔ c = '<' := fun c => toLower_eq (by decide)
  have hmark : ∀ c : Char, c.toLower = '?' ↔ c = '?' := fun c => toLower_eq (by decide)
  rcases hdrop : text.drop n with _ | ⟨first, _ | ⟨second, _ | ⟨third, rest⟩⟩⟩
  · simp [hdrop, declarationStart] at hoccurs
  · simp [hdrop, declarationStart] at hoccurs
  · simp [hdrop, declarationStart] at hoccurs
  · simp only [hdrop, declarationStart, List.map_cons, List.cons_prefix_cons] at hoccurs
    obtain ⟨hfirst, hsecond, hthird, -⟩ := hoccurs
    refine ⟨third, rest, by rw [(hless _).mp hfirst.symm, (hmark _).mp hsecond.symm], ?_⟩
    rintro rfl
    exact absurd hthird (by decide)

theorem Declaration.instruction (h : Declaration text n m) :
    constructAt (text.drop n) = .instruction := by
  obtain ⟨c, rest, hdrop, -⟩ := h.head
  simp [constructAt, hdrop, xmlCdataStart, commentStart, instructionStart]

/-- A declaration ends where the instruction does. -/
theorem Declaration.length_eq (h : Declaration text n m) :
    m = n + constructLength (text.drop n) := by
  have hpattern : declarationEnd ≠ [] := by decide
  obtain ⟨c, rest, hdrop, hc⟩ := h.head
  obtain ⟨length, hindex, rfl⟩ := h.closes
  obtain ⟨hends, hfirst⟩ := (indexOf_eq_some hpattern).mp hindex
  -- the first two characters and the third end nothing
  have htwo : 2 ≤ length := by
    by_contra hshort
    obtain rfl | rfl : length = 0 ∨ length = 1 := by omega
    · simp [OccursAt, hdrop, declarationEnd] at hends
    · simp [OccursAt, hdrop, declarationEnd, hc.symm] at hends
  obtain ⟨k, rfl⟩ := Nat.exists_eq_add_of_le htwo
  have hinner : indexOf declarationEnd ((text.drop n).drop instructionStart.length) = some k := by
    refine (indexOf_eq_some hpattern).mpr ⟨occursAt_drop.mpr hends, fun l hl hoccurs => ?_⟩
    exact hfirst (2 + l) (by omega) (occursAt_drop.mp hoccurs)
  have hlengths : instructionStart.length = 2 ∧ declarationEnd.length = 2 := ⟨rfl, rfl⟩
  rw [constructLength, h.instruction]
  simp only [sectionLength, hinner]
  omega

theorem Declaration.apart {n' m' : ℕ} (h : Declaration text n m) (h' : Declaration text n' m')
    (hlt : n < n') : m ≤ n' := by
  rw [h.length_eq]
  exact h.begins.apart h'.begins hlt

/-- No declaration meets a CDATA section or a comment. -/
theorem Declaration.outside {start : ℕ} (h : Declaration text n m) (hstart : Begins text start)
    (hsection : constructAt (text.drop start) = .cdata ∨ constructAt (text.drop start) = .comment) :
    m ≤ start ∨ start + constructLength (text.drop start) ≤ n := by
  rcases lt_trichotomy n start with hearlier | rfl | hlater
  · rw [h.length_eq]
    exact .inl (h.begins.apart hstart hearlier)
  · rw [h.instruction] at hsection
    rcases hsection with hcdata | hcomment
    · cases hcdata
    · cases hcomment
  · exact .inr (hstart.apart h.begins hlater)

end GreenBubbles.NestedXml
