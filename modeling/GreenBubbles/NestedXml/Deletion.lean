import GreenBubbles.Library.Cut
import GreenBubbles.NestedXml.Exact

/-! # What the repair leaves

The repair cuts the declarations it finds out of the text. The text it leaves
is repaired again into itself when the cuts bring no new declaration together.
-/
namespace GreenBubbles.NestedXml

open Library.Search Library.Utf8 Library.Cut

variable {text : List Char} {ranges : List (ℕ × ℕ)} {cursor : ℕ}

theorem withoutRanges_offsets (h : Ordered text cursor ranges) :
    withoutRanges text (byteOffset text cursor) (offsets text ranges) =
      some (cut text cursor ranges) := by
  induction ranges generalizing cursor with
  | nil => exact sliceFrom_byteOffset h.fits
  | cons range ranges ih =>
    have hbounds := h.bounds range List.mem_cons_self
    have hrest : withoutRanges text (byteOffset text range.2) (offsets text ranges) =
        some (cut text range.2 ranges) := ih h.tail
    rw [offsets, List.map_cons, ← offsets, withoutRanges,
      slice_byteOffset hbounds.1 (by omega), hrest]
    rfl

theorem Sweeps.ordered (h : Sweeps text ranges) : Ordered text 0 ranges :=
  ⟨Nat.zero_le _, fun _ hrange => ⟨Nat.zero_le _, h.bounds hrange⟩, h.apart⟩

theorem repairMisplacedXmlDeclarations_eq
    (hranges : misplacedDeclarations text = some (offsets text ranges)) (h : Sweeps text ranges) :
    repairMisplacedXmlDeclarations text = some (cut text 0 ranges) := by
  have hcut := withoutRanges_offsets h.ordered
  rw [byteOffset_zero] at hcut
  rw [repairMisplacedXmlDeclarations, hranges]
  simp only [Option.bind_eq_bind, Option.bind_some, hcut]
  cases ranges with
  | nil => rfl
  | cons range ranges => rfl

theorem repairInvalidXmlCharacters_idempotent :
    repairInvalidXmlCharacters (repairInvalidXmlCharacters text) =
      repairInvalidXmlCharacters text := by
  simp [repairInvalidXmlCharacters, List.filter_filter]

/-- A text without invalid characters is stable just if the repair finds nothing in it. -/
theorem repairXmlForParsing_stable_iff (hvalid : repairInvalidXmlCharacters text = text) :
    repairXmlForParsing text = some text ↔
      ∀ n m, Behind text n → ¬ Removable (toAsciiLowercase text) n m := by
  obtain ⟨ranges, hranges, hsweeps⟩ := misplacedDeclarations_sweeps text
  rw [repairXmlForParsing, repairMisplacedXmlDeclarations_eq hranges hsweeps, Option.map_some]
  constructor
  · intro hstable n m hbehind hremovable
    have hempty : ranges = [] := by
      by_contra hne
      have hshorter := cut_length_lt hsweeps.ordered hne
      have hfilter : (repairInvalidXmlCharacters (cut text 0 ranges)).length ≤
          (cut text 0 ranges).length := List.length_filter_le _ _
      rw [Option.some.inj hstable] at hfilter
      omega
    rcases hsweeps.complete n m hbehind hremovable with hmem | ⟨range, hrange, -⟩
    · rw [hempty] at hmem
      cases hmem
    · rw [hempty] at hrange
      cases hrange
  · intro hnothing
    have hempty : ranges = [] := by
      apply List.eq_nil_iff_forall_not_mem.mpr
      intro range hrange
      obtain ⟨hbehind, hremovable⟩ := hsweeps.removable range hrange
      exact hnothing _ _ hbehind hremovable
    rw [hempty]
    exact congrArg some hvalid

/-- A character of a misplaced declaration. -/
def Misplaced (text : List Char) (i : ℕ) : Prop := ∃ n m, Declaration text n m ∧ n ≤ i ∧ i < m

open Classical in
/-- What is left when just the misplaced declarations are removed. -/
noncomputable def remainder (text : List Char) : List Char := keepFrom (Misplaced text) 0 text

/-- Behind its opening tag the remainder holds nothing that the test for sections lets through. -/
def Settled (text : List Char) : Prop :=
  ∀ n m, Behind (repairInvalidXmlCharacters (remainder text)) n →
    ¬ Removable (toAsciiLowercase (repairInvalidXmlCharacters (remainder text))) n m

theorem Sweeps.cut_eq (h : Sweeps text ranges) (hset : ∀ n m, (n, m) ∈ ranges ↔ Declaration text n m) :
    cut text 0 ranges = remainder text := by
  classical
  rw [cut_eq_keepFrom h.ordered, List.drop_zero]
  apply keepFrom_congr
  intro k _
  constructor
  · rintro ⟨⟨n, m⟩, hmem, hin⟩
    exact ⟨n, m, (hset n m).mp hmem, hin⟩
  · rintro ⟨n, m, hdeclaration, hin⟩
    exact ⟨(n, m), (hset n m).mpr hdeclaration, hin⟩

theorem Declaration.bounds {n m : ℕ} (h : Declaration text n m) :
    n ≤ text.length ∧ m ≤ text.length := by
  have hbounds := h.closes.bounds
  omega

theorem Sweeps.set_iff (h : Sweeps text ranges) :
    (∀ range, range ∈ offsets text ranges ↔
      ∃ n m, Declaration text n m ∧ range = (byteOffset text n, byteOffset text m)) ↔
        ∀ n m, (n, m) ∈ ranges ↔ Declaration text n m := by
  have hfits : ∀ {n m}, (n, m) ∈ ranges → n ≤ text.length ∧ m ≤ text.length := by
    intro n m hmem
    have hbounds := h.bounds hmem
    dsimp only at hbounds
    omega
  -- on indices inside the text the offsets determine the range
  have hinj : ∀ {n m n' m' : ℕ}, n ≤ text.length ∧ m ≤ text.length →
      n' ≤ text.length ∧ m' ≤ text.length →
        (byteOffset text n, byteOffset text m) = (byteOffset text n', byteOffset text m') →
          n = n' ∧ m = m' := by
    intro n m n' m' hfit hfit' heq
    obtain ⟨hstart, hstop⟩ := Prod.mk.inj heq
    exact ⟨(byteOffset_inj hfit.1 hfit'.1).mp hstart, (byteOffset_inj hfit.2 hfit'.2).mp hstop⟩
  constructor
  · intro hoffsets n m
    constructor
    · intro hmem
      obtain ⟨n', m', hdeclaration, heq⟩ := (hoffsets _).mp (List.mem_map.mpr ⟨_, hmem, rfl⟩)
      obtain ⟨rfl, rfl⟩ := hinj (hfits hmem) hdeclaration.bounds heq
      exact hdeclaration
    · intro hdeclaration
      obtain ⟨⟨n', m'⟩, hmem, heq⟩ := List.mem_map.mp ((hoffsets _).mpr ⟨n, m, hdeclaration, rfl⟩)
      obtain ⟨rfl, rfl⟩ := hinj (hfits hmem) hdeclaration.bounds heq
      exact hmem
  · intro hset range
    constructor
    · intro hoffset
      obtain ⟨⟨n, m⟩, hmem, rfl⟩ := List.mem_map.mp hoffset
      exact ⟨n, m, (hset n m).mp hmem, rfl⟩
    · rintro ⟨n, m, hdeclaration, rfl⟩
      exact List.mem_map.mpr ⟨(n, m), (hset n m).mpr hdeclaration, rfl⟩

/-- The repair of a text deletes only what it may. -/
structure Exact (text : List Char) : Prop where
  ranges : ∃ ranges, misplacedDeclarations text = some ranges ∧ ∀ range, range ∈ ranges ↔
    ∃ n m, Declaration text n m ∧ range = (byteOffset text n, byteOffset text m)
  outcome : repairMisplacedXmlDeclarations text = some (remainder text)
  /-- The text of CDATA sections and of comments stays. -/
  sections : ∀ ranges ∈ misplacedDeclarations text, ∀ range ∈ ranges, ∀ start, Begins text start →
    constructAt (text.drop start) = .cdata ∨ constructAt (text.drop start) = .comment →
      range.2 ≤ byteOffset text start ∨
        byteOffset text (start + constructLength (text.drop start)) ≤ range.1
  /-- A well-formed document has no instruction with the target of a declaration behind a tag. -/
  unchanged : (∀ n m, ¬ Declaration text n m) → repairMisplacedXmlDeclarations text = some text
  idempotent : ∃ repaired, repairXmlForParsing text = some repaired ∧
    repairXmlForParsing repaired = some repaired

/-- The repair never fails and only deletes. It deletes what it may, and is idempotent, just where
the test for sections agrees with the reading of XML and the remainder holds nothing new. -/
theorem repairXmlForParsing_exact_iff (text : List Char) :
    (∃ kept, repairMisplacedXmlDeclarations text = some kept ∧ kept.Sublist text) ∧
      (Exact text ↔ Agrees text ∧ Settled text) := by
  obtain ⟨ranges, hranges, hsweeps⟩ := misplacedDeclarations_sweeps text
  have hrepaired := repairMisplacedXmlDeclarations_eq hranges hsweeps
  have hsublist := cut_sublist hsweeps.ordered
  rw [List.drop_zero] at hsublist
  refine ⟨⟨_, hrepaired, hsublist⟩, ?_⟩
  have hstable : repairXmlForParsing text = some (repairInvalidXmlCharacters (remainder text)) →
      ((∃ repaired, repairXmlForParsing text = some repaired ∧
        repairXmlForParsing repaired = some repaired) ↔ Settled text) := by
    intro hparsing
    rw [Settled, ← repairXmlForParsing_stable_iff repairInvalidXmlCharacters_idempotent, hparsing]
    constructor
    · rintro ⟨repaired, heq, hstable⟩
      obtain rfl := Option.some.inj heq
      exact hstable
    · intro hstable
      exact ⟨_, rfl, hstable⟩
  constructor
  · intro hexact
    obtain ⟨ranges', hranges', hset⟩ := hexact.ranges
    rw [hranges] at hranges'
    obtain rfl := Option.some.inj hranges'
    refine ⟨hsweeps.exact_iff.mp (hsweeps.set_iff.mp hset), (hstable ?_).mp hexact.idempotent⟩
    rw [repairXmlForParsing, hexact.outcome, Option.map_some]
  · rintro ⟨hagrees, hsettled⟩
    have hset := hsweeps.exact_iff.mpr hagrees
    have houtcome : repairMisplacedXmlDeclarations text = some (remainder text) := by
      rw [hrepaired, hsweeps.cut_eq hset]
    refine ⟨⟨_, hranges, hsweeps.set_iff.mpr hset⟩, houtcome, ?_, ?_, (hstable ?_).mpr hsettled⟩
    · intro ranges' hranges' range hrange start hbegins hsection
      rw [hranges] at hranges'
      obtain rfl := Option.some.inj hranges'
      obtain ⟨⟨n, m⟩, hmem, rfl⟩ := List.mem_map.mp hrange
      rcases ((hset n m).mp hmem).outside hbegins hsection with hbefore | hbehind
      · exact .inl (byteOffset_le hbefore)
      · exact .inr (byteOffset_le hbehind)
    · intro hnone
      have hempty : ranges = [] := by
        apply List.eq_nil_iff_forall_not_mem.mpr
        intro range hrange
        exact hnone _ _ ((hset _ _).mp hrange)
      rw [hrepaired, hempty]
      rfl
    · rw [repairXmlForParsing, houtcome, Option.map_some]

/-- A comment that begins with `>`: to the test its opener and its first character close it. -/
def abruptComment : List Char := "<msg><!--><?xml a?>--></msg>".toList

theorem abruptComment_not_exact : ¬ Exact abruptComment := by
  intro hexact
  have hranges : misplacedDeclarations abruptComment = some [(10, 19)] := by decide +kernel
  have hbegins : Begins abruptComment 5 := by
    have hstep : ∀ n < 5, constructLength (abruptComment.drop n) = 1 ∧
        n < abruptComment.length := by decide +kernel
    have hall : ∀ n ≤ 5, Begins abruptComment n := by
      intro n hn
      induction n with
      | zero => exact .first
      | succ n ih =>
        have hnext := (ih (by omega)).next (hstep n (by omega)).2
        rwa [(hstep n (by omega)).1] at hnext
    exact hall 5 le_rfl
  have hcomment : constructAt (abruptComment.drop 5) = .comment := by decide +kernel
  have hlength : byteOffset abruptComment (5 + constructLength (abruptComment.drop 5)) = 22 := by
    decide +kernel
  rcases hexact.sections _ hranges (10, 19) List.mem_cons_self 5 hbegins (.inr hcomment) with
    hbefore | hbehind
  · exact absurd hbefore (by decide +kernel)
  · rw [hlength] at hbehind
    exact absurd hbehind (by decide)

end GreenBubbles.NestedXml
