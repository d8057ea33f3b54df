import Mathlib.Data.List.DropRight
import Mathlib.Data.List.GetD

/-! # Stores written in place

A store is a list of cells that reads as blank behind its end. A run of cells
is written at an offset, and the store grows to hold it. Where every run is a
page of a paged store, a page holds the last run written there.
-/
namespace GreenBubbles.Library.Overlay

variable {α : Type*} {blank : α} {store other cells more : List α} {offset size i n m : ℕ}

/-- A store after a run of cells is written at an offset. The cells it skips are blank. -/
def writeAt (blank : α) (store : List α) (offset : ℕ) (cells : List α) : List α :=
  store.take offset ++ List.replicate (offset - store.length) blank ++ cells ++
    store.drop (offset + cells.length)

theorem length_writeAt :
    (writeAt blank store offset cells).length = max store.length (offset + cells.length) := by
  simp only [writeAt, List.length_append, List.length_take, List.length_replicate,
    List.length_drop]
  omega

theorem getD_writeAt :
    (writeAt blank store offset cells).getD i blank =
      if offset ≤ i ∧ i < offset + cells.length then cells.getD (i - offset) blank
      else store.getD i blank := by
  have hfront : (store.take offset ++ List.replicate (offset - store.length) blank).length =
      offset := by
    rw [List.length_append, List.length_take, List.length_replicate]
    omega
  simp only [writeAt, List.getD_eq_getElem?_getD, List.append_assoc _ cells]
  by_cases hbefore : i < offset
  · rw [List.getElem?_append_left (by omega), if_neg (by omega)]
    by_cases hin : i < store.length
    · rw [List.getElem?_append_left (by rw [List.length_take]; omega),
        List.getElem?_take_of_lt hbefore]
    · rw [List.getElem?_append_right (by rw [List.length_take]; omega),
        List.getElem?_eq_none (Nat.le_of_not_lt hin), List.getElem?_replicate, Option.getD_none]
      split_ifs <;> rfl
  · rw [List.getElem?_append_right (by omega), hfront]
    by_cases hin : i < offset + cells.length
    · rw [List.getElem?_append_left (by omega), if_pos (by omega)]
    · rw [List.getElem?_append_right (by omega), if_neg (by omega), List.getElem?_drop]
      congr 2
      omega

theorem eq_of_getD (blank : α) (hlength : store.length = other.length)
    (h : ∀ i, store.getD i blank = other.getD i blank) : store = other := by
  apply List.ext_getElem hlength
  intro i hi hi'
  have hcell := h i
  rwa [List.getD_eq_getElem _ _ hi, List.getD_eq_getElem _ _ hi'] at hcell

/-- A run written right behind another one is one run. -/
theorem writeAt_behind :
    writeAt blank (writeAt blank store offset cells) (offset + cells.length) more =
      writeAt blank store offset (cells ++ more) := by
  apply eq_of_getD blank
  · simp only [length_writeAt, List.length_append]
    omega
  · intro i
    simp only [getD_writeAt, List.length_append]
    by_cases hcells : offset ≤ i ∧ i < offset + cells.length
    · rw [if_neg (by omega), if_pos hcells, if_pos (by omega), List.getD_append _ _ _ _ (by omega)]
    · rw [if_neg hcells]
      by_cases hmore : offset + cells.length ≤ i ∧ i < offset + cells.length + more.length
      · rw [if_pos hmore, if_pos (by omega), List.getD_append_right _ _ _ _ (by omega)]
        congr 1
        omega
      · rw [if_neg hmore, if_neg (by omega)]

/-! Pages -/

/-- One page of a store. -/
def page (blank : α) (size : ℕ) (store : List α) (n : ℕ) : List α :=
  (List.range size).map fun k => store.getD (n * size + k) blank

@[simp] theorem length_page : (page blank size store n).length = size := by
  rw [page, List.length_map, List.length_range]

theorem getD_page (hi : i < size) :
    (page blank size store n).getD i blank = store.getD (n * size + i) blank := by
  rw [List.getD_eq_getElem _ _ (by rw [length_page]; exact hi)]
  simp [page]

/-- A cell lies on one page only. -/
theorem page_of_cell (hi : i < size) (hlow : m * size ≤ n * size + i)
    (hhigh : n * size + i < m * size + size) : n = m := by
  have hn : (n * size + i) / size = n := by
    rw [Nat.mul_comm, Nat.mul_add_div (by omega), Nat.div_eq_of_lt hi, Nat.add_zero]
  have hm : (n * size + i) / size = m :=
    Nat.div_eq_of_lt_le hlow (by rw [Nat.succ_mul]; exact hhigh)
  exact hn.symm.trans hm

theorem page_writeAt (hcells : cells.length = size) :
    page blank size (writeAt blank store (m * size) cells) n =
      if m = n then cells else page blank size store n := by
  apply eq_of_getD blank
  · split_ifs <;> simp [hcells]
  · intro i
    by_cases hi : i < size
    · rw [getD_page hi, getD_writeAt, hcells]
      by_cases hpage : m = n
      · subst hpage
        rw [if_pos (by omega), if_pos rfl, Nat.add_sub_cancel_left]
      · rw [if_neg hpage, getD_page hi, if_neg]
        rintro ⟨hlow, hhigh⟩
        exact hpage (page_of_cell hi hlow hhigh).symm
    · rw [List.getD_eq_default _ _ (by rw [length_page]; omega), List.getD_eq_default]
      split_ifs
      · omega
      · rw [length_page]
        omega

theorem page_append_zero (hcells : cells.length = size) :
    page blank size (cells ++ more) 0 = cells := by
  apply eq_of_getD blank (by rw [length_page, hcells])
  intro i
  by_cases hi : i < size
  · rw [getD_page hi, Nat.zero_mul, Nat.zero_add, List.getD_append _ _ _ _ (by omega)]
  · rw [List.getD_eq_default _ _ (by rw [length_page]; omega), List.getD_eq_default _ _ (by omega)]

theorem page_append_succ (hcells : cells.length = size) :
    page blank size (cells ++ more) (n + 1) = page blank size more n := by
  simp only [page]
  apply List.map_congr_left
  intro k _
  rw [List.getD_append_right _ _ _ _ (by rw [Nat.succ_mul]; omega)]
  congr 1
  rw [Nat.succ_mul]
  omega

/-- Pages put together are the pages of the store. -/
theorem page_flatten {pages : List (List α)} (hpages : ∀ cells ∈ pages, cells.length = size)
    (hn : n < pages.length) : page blank size pages.flatten n = pages[n] := by
  induction pages generalizing n with
  | nil => exact absurd hn (Nat.not_lt_zero n)
  | cons cells pages ih =>
    rw [List.forall_mem_cons] at hpages
    rw [List.flatten_cons]
    cases n with
    | zero => exact page_append_zero hpages.1
    | succ n =>
      rw [page_append_succ hpages.1]
      exact ih hpages.2 (Nat.lt_of_succ_lt_succ hn)

theorem length_flatten {pages : List (List α)} (hpages : ∀ cells ∈ pages, cells.length = size) :
    pages.flatten.length = pages.length * size := by
  rw [List.length_flatten, List.map_congr_left hpages, List.map_const', List.sum_replicate_nat]

/-- Stores of whole pages are the same where their pages are. -/
theorem eq_of_pages (hsize : 0 < size) (hstore : store.length = n * size)
    (hother : other.length = n * size)
    (h : ∀ m < n, page blank size store m = page blank size other m) : store = other := by
  apply eq_of_getD blank (hstore.trans hother.symm)
  intro i
  by_cases hi : i < n * size
  · have hcell := congrArg (·.getD (i % size) blank) (h _ ((Nat.div_lt_iff_lt_mul hsize).mpr hi))
    have hmod := Nat.mod_lt i hsize
    simp only [getD_page hmod] at hcell
    rwa [Nat.div_add_mod'] at hcell
  · rw [List.getD_eq_default _ _ (by omega), List.getD_eq_default _ _ (by omega)]

/-- The pages that are all there, in order. -/
theorem mapM_range_eq_some {f : ℕ → Option (List α)} {pages : List (List α)} :
    (List.range n).mapM f = some pages ↔
      pages.length = n ∧ ∀ m (hm : m < pages.length), f m = some pages[m] := by
  have hmapM : ∀ numbers : List ℕ, numbers.mapM f = some pages ↔
      numbers.map f = pages.map some := by
    intro numbers
    induction numbers generalizing pages with
    | nil => cases pages <;> simp
    | cons number numbers ih =>
      rw [List.mapM_cons]
      cases pages with
      | nil => cases f number <;> cases numbers.mapM f <;> simp
      | cons cells pages =>
        cases hf : f number with
        | none => simp [hf]
        | some first => cases hrest : numbers.mapM f <;> simp [hf, ← ih, hrest]
  rw [hmapM]
  constructor
  · intro h
    have hlength : pages.length = n := by simpa using (congrArg List.length h).symm
    refine ⟨hlength, fun m hm => ?_⟩
    have hpage := congrArg (·[m]?) h
    simpa [hm, hlength ▸ hm] using hpage
  · rintro ⟨rfl, h⟩
    apply List.ext_getElem (by simp)
    intro m _ hm
    simpa using h m (by simpa using hm)

/-! Runs of pages -/

/-- The store after pages are written one after the other, each under its number. -/
def writePages (blank : α) (size : ℕ) (store : List α) (writes : List (ℕ × List α)) : List α :=
  writes.foldl (fun store write => writeAt blank store (write.1 * size) write.2) store

/-- The last page written under a number. -/
def latest (writes : List (ℕ × List α)) (n : ℕ) : Option (List α) :=
  (writes.reverse.find? fun write => write.1 = n).map (·.2)

/-- The pages of a store that holds the pages of the numbers. -/
def extent (count : ℕ) (numbers : List ℕ) : ℕ :=
  numbers.foldl (fun count number => max count (number + 1)) count

theorem page_writePages {writes : List (ℕ × List α)}
    (hwrites : ∀ write ∈ writes, write.2.length = size) :
    page blank size (writePages blank size store writes) n =
      (latest writes n).getD (page blank size store n) := by
  induction writes using List.reverseRecOn with
  | nil => rfl
  | append_singleton writes write ih =>
    rw [List.forall_mem_append, List.forall_mem_singleton] at hwrites
    have hlast : writePages blank size store (writes ++ [write]) =
        writeAt blank (writePages blank size store writes) (write.1 * size) write.2 := by
      simp [writePages]
    rw [hlast, page_writeAt hwrites.2, ih hwrites.1, latest, latest, List.reverse_append]
    by_cases hwrite : write.1 = n
    · simp [hwrite]
    · simp [hwrite]

theorem length_writePages {writes : List (ℕ × List α)}
    (hwrites : ∀ write ∈ writes, write.2.length = size) (hstore : store.length = n * size) :
    (writePages blank size store writes).length = extent n (writes.map (·.1)) * size := by
  induction writes generalizing store n with
  | nil => exact hstore
  | cons write writes ih =>
    rw [List.forall_mem_cons] at hwrites
    rw [writePages, List.foldl_cons, ← writePages, List.map_cons, extent, List.foldl_cons,
      ← extent]
    apply ih hwrites.2
    rw [length_writeAt, hstore, hwrites.1, ← Nat.succ_mul]
    exact (Nat.mul_max_mul_right n (write.1 + 1) size)

/-! Logs -/

section Logs

variable {β : Type*} {commits : β → Bool} {log : List β}

/-- A log without what stands behind its last commit. -/
def committed (commits : β → Bool) (log : List β) : List β := log.rdropWhile (!commits ·)

/-- The entries that are valid one after the other. -/
def accepted {σ : Type*} (step : σ → β → Option σ) : σ → List β → List β
  | _, [] => []
  | state, entry :: log =>
    match step state entry with
    | none => []
    | some next => entry :: accepted step next log

theorem accepted_starts {σ : Type*} (step : σ → β → Option σ) (state : σ) (log : List β) :
    accepted step state log <+: log := by
  induction log generalizing state with
  | nil => exact List.prefix_rfl
  | cons entry log ih =>
    rw [accepted]
    cases step state entry with
    | none => exact List.nil_prefix
    | some next => exact List.cons_prefix_cons.mpr ⟨rfl, ih next⟩

theorem step_of_mem_accepted {σ : Type*} {step : σ → β → Option σ} {state : σ} {entry : β}
    (h : entry ∈ accepted step state log) : ∃ before after, step before entry = some after := by
  induction log generalizing state with
  | nil => cases h
  | cons first log ih =>
    rw [accepted] at h
    cases hstep : step state first with
    | none => simp [hstep] at h
    | some next =>
      rw [hstep] at h
      rcases List.mem_cons.mp h with rfl | hrest
      · exact ⟨state, next, hstep⟩
      · exact ih hrest

theorem committed_append {more : List β} (h : ∀ entry ∈ more, commits entry = false) :
    committed commits (log ++ more) = committed commits log := by
  induction more using List.reverseRecOn with
  | nil => rw [List.append_nil]
  | append_singleton more entry ih =>
    rw [List.forall_mem_append, List.forall_mem_singleton] at h
    rw [← List.append_assoc, committed, List.rdropWhile_concat_pos _ _ _ (by simp [h.2]),
      ← committed, ih h.1]

theorem committed_congr {other : β → Bool} (h : ∀ entry ∈ log, commits entry = other entry) :
    committed commits log = committed other log := by
  induction log using List.reverseRecOn with
  | nil => rfl
  | append_singleton log entry ih =>
    rw [List.forall_mem_append, List.forall_mem_singleton] at h
    rw [committed, committed, List.rdropWhile_concat, List.rdropWhile_concat, h.2, ← committed,
      ← committed, ih h.1]

theorem committed_sublist : (committed commits log).Sublist log :=
  (List.rdropWhile_prefix _ log).sublist

/-- A scan that remembers the index of the last commit keeps the log up to it. -/
theorem scan_committed (entry : ℕ → β) (n : ℕ) :
    let last := (List.range n).foldl
      (fun last i => if commits (entry i) then some i else last) none
    ((List.range n).map entry).take (last.elim 0 (· + 1)) =
      committed commits ((List.range n).map entry) ∧ ∀ i ∈ last, i < n := by
  induction n with
  | zero => exact ⟨rfl, fun i hi => by cases hi⟩
  | succ n ih =>
    simp only [List.range_succ, List.foldl_append, List.foldl_cons, List.foldl_nil,
      List.map_append, List.map_cons, List.map_nil] at ih ⊢
    by_cases hcommit : commits (entry n) = true
    · rw [if_pos hcommit, committed, List.rdropWhile_concat_neg _ _ _ (by simp [hcommit])]
      constructor
      · rw [Option.elim_some, List.take_of_length_le (by simp)]
      · intro i hi
        obtain rfl := Option.some.inj hi
        exact Nat.lt_succ_self n
    · rw [if_neg hcommit, committed, List.rdropWhile_concat_pos _ _ _ (by simp [hcommit]),
        ← committed, ← ih.1]
      constructor
      · rw [List.take_append_of_le_length]
        rw [List.length_map, List.length_range]
        cases hlast : (List.range n).foldl
            (fun last i => if commits (entry i) = true then some i else last) none with
        | none => exact Nat.zero_le n
        | some i => exact ih.2 i hlast
      · exact fun i hi => Nat.lt_succ_of_lt (ih.2 i hi)

end Logs

end GreenBubbles.Library.Overlay
