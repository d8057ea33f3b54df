import GreenBubbles.Library.Paging
import Mathlib.Order.Lattice

/-! # Pages that are asked for in many ways

A reader may ask for every page anew: of another size, in another name, at
another time. Following the cursors drains a query if it comes to the same items
however the pages are asked for.
-/
namespace GreenBubbles.Library.Paging

variable {σ τ ε ε' ι ι' κ κ' : Type*}

/-- However the pages are asked for, following the cursors from here ends after so many pages
at most, without an error and with these items. -/
def Drains (query : σ → Option κ → Except ε (Page ι κ)) : ℕ → Option κ → List ι → Prop
  | 0, _, _ => False
  | pages + 1, cursor, items => ∀ asked, ∃ page rest, query asked cursor = .ok page ∧
      items = page.items ++ rest ∧
      match page.next with
      | none => rest = []
      | some next => Drains query pages (some next) rest

/-- The cursors that readers come by, however they ask. -/
inductive Visited (query : σ → Option κ → Except ε (Page ι κ)) : Option κ → Prop
  | start : Visited query none
  | next {cursor : Option κ} {asked : σ} {items : List ι} {next : κ}
      (hvisited : Visited query cursor) (hpage : query asked cursor = .ok ⟨items, some next⟩) :
      Visited query (some next)

variable {query : σ → Option κ → Except ε (Page ι κ)} {cursor : Option κ} {items : List ι}
  {pages : ℕ}

/-- A query whose pages and cursors are those of another one, dressed, is drained with it. -/
theorem Drains.dressed {outer : τ → Option κ' → Except ε' (Page ι' κ')} {inward : τ → σ}
    {shown : ι → ι'} {dress : κ → κ'}
    (hstep : ∀ asked cursor page, Visited query cursor → query (inward asked) cursor = .ok page →
      outer asked (cursor.map dress) = .ok ⟨page.items.map shown, page.next.map dress⟩)
    (hvisited : Visited query cursor) (h : Drains query pages cursor items) :
    Drains outer pages (cursor.map dress) (items.map shown) := by
  induction pages generalizing cursor items with
  | zero => exact h.elim
  | succ pages ih =>
    intro asked
    obtain ⟨⟨part, next⟩, rest, hquery, rfl, hrest⟩ := h (inward asked)
    refine ⟨_, rest.map shown, hstep asked cursor _ hvisited hquery, List.map_append, ?_⟩
    cases next with
    | none =>
      have hnil : rest = [] := hrest
      simp [hnil]
    | some next => exact ih (hvisited.next hquery) hrest

/-! Pages of an ordered list -/

section Ordered

variable {α : Type*} [LinearOrder κ] {key : α → κ} {entries : List α}

/-- The entries that come behind a key. -/
def behind (key : α → κ) (entries : List α) (after : Option κ) : List α :=
  entries.filter fun entry => after.all fun passed => decide (passed < key entry)

/-- An entry has this key, and there are entries behind it. -/
def Passed (key : α → κ) (entries : List α) (passed : κ) : Prop :=
  passed ∈ entries.map key ∧ behind key entries (some passed) ≠ []

theorem mem_behind {after : Option κ} {entry : α} :
    entry ∈ behind key entries after ↔
      entry ∈ entries ∧ ∀ passed, after = some passed → passed < key entry := by
  cases after <;> simp [behind]

theorem behind_none : behind key entries none = entries :=
  List.filter_eq_self.mpr fun _ _ => rfl

/-- Behind the last of the first entries are all the others. -/
theorem behind_last (hordered : entries.Pairwise (key · < key ·)) {size : ℕ} {last : α}
    (hlast : (entries.take size).getLast? = some last) :
    behind key entries (some (key last)) = entries.drop size := by
  obtain ⟨front, hfront⟩ := List.getLast?_eq_some_iff.mp hlast
  have hentries : entries = front ++ last :: entries.drop size := by
    have hsplit := List.take_append_drop size entries
    rw [hfront, List.append_assoc, List.singleton_append] at hsplit
    exact hsplit.symm
  generalize entries.drop size = back at hentries
  subst hentries
  rw [List.pairwise_append, List.pairwise_cons] at hordered
  obtain ⟨-, ⟨hback, -⟩, hacross⟩ := hordered
  have hbefore : front.filter (fun entry => decide (key last < key entry)) = [] := by
    rw [List.filter_eq_nil_iff]
    intro entry hentry
    simpa using (hacross entry hentry last List.mem_cons_self).le
  have hbehind : back.filter (fun entry => decide (key last < key entry)) = back := by
    rw [List.filter_eq_self]
    intro entry hentry
    simpa using hback entry hentry
  simp [behind, List.filter_append, hbefore, hbehind]

/-- What is behind an entry behind a key is behind the entry. -/
theorem behind_behind {after : Option κ} {entry : α} (hentry : entry ∈ behind key entries after) :
    behind key (behind key entries after) (some (key entry)) =
      behind key entries (some (key entry)) := by
  rw [behind, behind, List.filter_filter, behind]
  apply List.filter_congr
  intro other _
  have hpassed := (mem_behind.mp hentry).2
  cases after with
  | none => simp
  | some passed =>
    have hless := hpassed passed rfl
    by_cases hother : key entry < key other
    · simp [hother, hless.trans hother]
    · simp [hother]

/-- Pages that show the next entries of an ordered list and go on behind the last of them, as
long as there are more, drain the list. -/
theorem drains_behind {outer : σ → Option κ' → Except ε (Page ι κ')} {size : σ → ℕ}
    {shown : α → ι} {mint : κ → κ'} (hordered : entries.Pairwise (key · < key ·))
    (hsize : ∀ asked, 0 < size asked)
    (hstep : ∀ asked after, (∀ passed, after = some passed → Passed key entries passed) →
      outer asked (after.map mint) = .ok
        ⟨((behind key entries after).take (size asked)).map shown,
          if size asked < (behind key entries after).length then
            ((behind key entries after).take (size asked)).getLast?.map (mint <| key ·)
          else none⟩) :
    Drains outer (entries.length + 1) none (entries.map shown) := by
  suffices h : ∀ pages after, (∀ passed, after = some passed → Passed key entries passed) →
      (behind key entries after).length < pages →
      Drains outer pages (after.map mint) ((behind key entries after).map shown) by
    have hstart := h (entries.length + 1) none nofun (by rw [behind_none]; omega)
    rw [behind_none] at hstart
    exact hstart
  intro pages
  induction pages with
  | zero =>
    intro after hafter hlength
    omega
  | succ pages ih =>
    intro after hafter hlength asked
    have hpositive := hsize asked
    have hpage := hstep asked after hafter
    have hsorted : (behind key entries after).Pairwise (key · < key ·) := hordered.filter _
    have hsplit := List.take_append_drop (size asked) (behind key entries after)
    by_cases hmore : size asked < (behind key entries after).length
    · rw [if_pos hmore] at hpage
      obtain ⟨last, hlast⟩ : ∃ last,
          ((behind key entries after).take (size asked)).getLast? = some last := by
        apply Option.isSome_iff_exists.mp
        rw [List.getLast?_isSome]
        apply List.ne_nil_of_length_pos
        rw [List.length_take]
        omega
      have hmem : last ∈ behind key entries after :=
        List.mem_of_mem_take (List.mem_of_getLast? hlast)
      have hbehind : behind key entries (some (key last)) =
          (behind key entries after).drop (size asked) := by
        rw [← behind_behind hmem, behind_last hsorted hlast]
      rw [hlast] at hpage
      refine ⟨_, (behind key entries (some (key last))).map shown, hpage, ?_, ?_⟩
      · rw [hbehind, ← List.map_append, hsplit]
      · apply ih (some (key last))
        · intro passed hpassed
          obtain rfl := Option.some.inj hpassed
          refine ⟨List.mem_map_of_mem (mem_behind.mp hmem).1, ?_⟩
          apply List.ne_nil_of_length_pos
          rw [hbehind, List.length_drop]
          omega
        · rw [hbehind, List.length_drop]
          omega
    · rw [if_neg hmore] at hpage
      refine ⟨_, [], hpage, ?_, rfl⟩
      rw [List.append_nil, List.take_of_length_le (Nat.le_of_not_lt hmore)]

end Ordered

end GreenBubbles.Library.Paging
