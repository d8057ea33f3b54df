import Mathlib.Data.List.Basic
import Mathlib.Order.Basic

/-! # Following the pages of a query

A page lists items and, unless it is the last one, the cursor of the next page.
What a reader gathers by following cursors is compared with the items that were
still expected at each of them.
-/
namespace GreenBubbles.Library.Paging

structure Page (ι κ : Type*) where
  items : List ι
  next : Option κ

variable {ε ι κ : Type*}

/-- Following the cursors from here ends, without an error, with these items. -/
inductive Collected (page : Option κ → Except ε (Page ι κ)) : Option κ → List ι → Prop
  | last {cursor : Option κ} {items : List ι} (h : page cursor = .ok ⟨items, none⟩) :
      Collected page cursor items
  | more {cursor : Option κ} {items rest : List ι} {next : κ}
      (h : page cursor = .ok ⟨items, some next⟩) (hrest : Collected page (some next) rest) :
      Collected page cursor (items ++ rest)

/-- The cursors a reader that starts here comes by. -/
inductive Reached (page : Option κ → Except ε (Page ι κ)) (start : Option κ) : Option κ → Prop
  | start : Reached page start start
  | next {cursor : Option κ} {items : List ι} {next : κ} (hreached : Reached page start cursor)
      (h : page cursor = .ok ⟨items, some next⟩) : Reached page start (some next)

variable {page : Option κ → Except ε (Page ι κ)} {start cursor : Option κ}

theorem Reached.trans {middle : Option κ} (h : Reached page start middle)
    (hcursor : Reached page middle cursor) : Reached page start cursor := by
  induction hcursor with
  | start => exact h
  | next _ hpage ih => exact ih.next hpage

/-- Whatever is reached is the start or comes after its page. -/
theorem Reached.start_or {items : List ι} {next : κ} (h : Reached page start cursor)
    (hpage : page start = .ok ⟨items, some next⟩) :
    cursor = start ∨ Reached page (some next) cursor := by
  induction h with
  | start => exact .inl rfl
  | next _ hpage' ih =>
    rcases ih with rfl | hlater
    · rw [hpage] at hpage'
      cases hpage'
      exact .inr .start
    · exact .inr (hlater.next hpage')

/-- Nothing is reached beyond a last page. -/
theorem Reached.last_eq {items : List ι} (h : Reached page start cursor)
    (hpage : page start = .ok ⟨items, none⟩) : cursor = start := by
  induction h with
  | start => rfl
  | next _ hpage' ih =>
    rw [ih, hpage] at hpage'
    cases hpage'

theorem Collected.unique {items other : List ι} (h : Collected page cursor items)
    (hother : Collected page cursor other) : items = other := by
  induction h generalizing other with
  | last hpage =>
    cases hother with
    | last hpage' =>
      rw [hpage] at hpage'
      cases hpage'
      rfl
    | more hpage' =>
      rw [hpage] at hpage'
      cases hpage'
  | more hpage _ ih =>
    cases hother with
    | last hpage' =>
      rw [hpage] at hpage'
      cases hpage'
    | more hpage' hrest =>
      rw [hpage] at hpage'
      cases hpage'
      rw [ih hrest]

/-- What a page must do of the items expected at its cursor: it shows `seen`,
leaves out `lost` and goes on strictly closer to the end. -/
structure Accounts (page : Option κ → Except ε (Page ι κ)) (expected : Option κ → List ι)
    (seen lost : Option κ → List ι) (remaining : Option κ → ℕ) (cursor : Option κ) : Prop where
  answers : ∃ result, page cursor = .ok result
  last : ∀ items, page cursor = .ok ⟨items, none⟩ → expected cursor = seen cursor ++ lost cursor
  more : ∀ items next, page cursor = .ok ⟨items, some next⟩ →
    expected cursor = seen cursor ++ lost cursor ++ expected (some next) ∧
      remaining (some next) < remaining cursor

variable {expected seen lost : Option κ → List ι} {remaining : Option κ → ℕ}

/-- A reader is shown everything if every page it comes by shows what it
accounts for and leaves out nothing. -/
theorem collected_of_accounts
    (haccounts : ∀ cursor, Reached page start cursor →
      Accounts page expected seen lost remaining cursor)
    (hshown : ∀ cursor result, Reached page start cursor → page cursor = .ok result →
      result.items = seen cursor ∧ lost cursor = []) :
    Collected page start (expected start) := by
  suffices h : ∀ cursor, Reached page start cursor → Collected page cursor (expected cursor) from
    h start .start
  intro cursor hreached
  induction hbound : remaining cursor using Nat.strongRecOn generalizing cursor with
  | ind bound ih =>
    rcases (haccounts cursor hreached).answers with ⟨⟨items, next⟩, hpage⟩
    rcases hshown cursor _ hreached hpage with ⟨hitems, hlost⟩
    cases next with
    | none =>
      rw [(haccounts cursor hreached).last _ hpage, hlost, List.append_nil, ← hitems]
      exact .last hpage
    | some next =>
      rcases (haccounts cursor hreached).more _ next hpage with ⟨hsplit, hless⟩
      rw [hsplit, hlost, List.append_nil, ← hitems]
      apply Collected.more hpage
      exact ih _ (hbound ▸ hless) (some next) (hreached.next hpage) rfl

/-- What is gathered from a cursor on ends what is gathered from the start. -/
theorem Collected.suffix {items : List ι} (h : Collected page start items)
    (hreached : Reached page start cursor) :
    ∃ before rest, items = before ++ rest ∧ Collected page cursor rest := by
  induction hreached with
  | start => exact ⟨[], items, rfl, h⟩
  | next _ hpage ih =>
    rcases ih with ⟨before, rest, rfl, hrest⟩
    cases hrest with
    | last hpage' =>
      rw [hpage] at hpage'
      cases hpage'
    | more hpage' hrest =>
      rw [hpage] at hpage'
      cases hpage'
      exact ⟨_, _, (List.append_assoc ..).symm, hrest⟩

theorem Collected.mem {items : List ι} (h : Collected page start items)
    (hreached : Reached page start cursor) {result : Page ι κ} (hpage : page cursor = .ok result)
    {a : ι} (ha : a ∈ result.items) : a ∈ items := by
  rcases h.suffix hreached with ⟨before, rest, rfl, hrest⟩
  apply List.mem_append_right
  cases hrest with
  | last hpage' =>
    rw [hpage] at hpage'
    cases hpage'
    exact ha
  | more hpage' _ =>
    rw [hpage] at hpage'
    cases hpage'
    exact List.mem_append_left _ ha

/-- Pages that show no more than they account for gather no more than was
expected, and less as soon as one of them leaves something out. -/
theorem Collected.length_le {items : List ι} (h : Collected page cursor items)
    (haccounts : ∀ middle, Reached page cursor middle →
      Accounts page expected seen lost remaining middle)
    (hseen : ∀ middle result, Reached page cursor middle → page middle = .ok result →
      result.items.length ≤ (seen middle).length) :
    items.length ≤ (expected cursor).length ∧
      (items.length = (expected cursor).length →
        ∀ middle, Reached page cursor middle → lost middle = []) := by
  induction h with
  | @last cursor items hpage =>
    have hsplit := (haccounts cursor .start).last _ hpage
    have hshown : items.length ≤ (seen cursor).length := hseen cursor _ .start hpage
    have hlength := congrArg List.length hsplit
    rw [List.length_append] at hlength
    constructor
    · omega
    · intro hequal middle hreached
      have hlost : lost cursor = [] := List.eq_nil_of_length_eq_zero (by omega)
      cases hreached with
      | start => exact hlost
      | next hbefore hpage' =>
        have hsame := hbefore.last_eq hpage
        subst hsame
        rw [hpage] at hpage'
        cases hpage'
  | @more cursor items rest next hpage _ ih =>
    have hsplit := ((haccounts cursor .start).more _ next hpage).1
    have hshown : items.length ≤ (seen cursor).length := hseen cursor _ .start hpage
    have hlength := congrArg List.length hsplit
    simp only [List.length_append] at hlength
    have hnext : Reached page cursor (some next) := .next .start hpage
    have hrest := ih (fun middle hmiddle => haccounts middle (hnext.trans hmiddle))
      (fun middle result hmiddle => hseen middle result (hnext.trans hmiddle))
    rw [List.length_append]
    constructor
    · omega
    · intro hequal middle hreached
      have hlost : lost cursor = [] := List.eq_nil_of_length_eq_zero (by omega)
      rcases hreached.start_or hpage with rfl | hlater
      · exact hlost
      · exact hrest.2 (by omega) middle hlater

/-- A reader is shown exactly what is expected at its start if and only if no
page it comes by shows an item that is not, or leaves one out. -/
theorem collected_iff
    (haccounts : ∀ cursor, Reached page start cursor →
      Accounts page expected seen lost remaining cursor)
    (hseen : ∀ cursor result, Reached page start cursor → page cursor = .ok result →
      (∀ a ∈ result.items, a ∈ expected start) → result.items = seen cursor) :
    Collected page start (expected start) ↔
      ∀ cursor result, Reached page start cursor → page cursor = .ok result →
        (∀ a ∈ result.items, a ∈ expected start) ∧ lost cursor = [] := by
  constructor
  · intro h cursor result hreached hpage
    have hmem : ∀ cursor result, Reached page start cursor → page cursor = .ok result →
        ∀ a ∈ result.items, a ∈ expected start :=
      fun _ _ hreached hpage _ ha => h.mem hreached hpage ha
    have hshown : ∀ middle result, Reached page start middle → page middle = .ok result →
        result.items.length ≤ (seen middle).length := by
      intro middle result hmiddle hpage'
      exact Nat.le_of_eq (congrArg List.length
        (hseen middle result hmiddle hpage' (hmem middle result hmiddle hpage')))
    exact ⟨hmem cursor result hreached hpage,
      (h.length_le haccounts hshown).2 rfl cursor hreached⟩
  · intro h
    apply collected_of_accounts haccounts
    intro cursor result hreached hpage
    have hpages := h cursor result hreached hpage
    exact ⟨hseen cursor result hreached hpage hpages.1, hpages.2⟩

end GreenBubbles.Library.Paging
