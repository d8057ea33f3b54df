import Mathlib.Data.List.Basic

/-! # Hash chains

Every entry of a log names the digest of the entry before it. The last digest
then determines the whole log, as long as the entries that are compared have
no digest in common. Chains are listed newest first.
-/
namespace GreenBubbles.Library.HashChain

variable {α δ : Type} (digest : α → δ) (back : α → Option δ)

/-- The oldest entry names no predecessor. -/
def Linked : List α → Prop
  | [] => True
  | entry :: older => back entry = older.head?.map digest ∧ Linked older

@[simp] theorem linked_nil : Linked digest back [] := trivial

@[simp] theorem linked_cons {entry : α} {older : List α} :
    Linked digest back (entry :: older) ↔
      back entry = older.head?.map digest ∧ Linked digest back older := Iff.rfl

/-- Entries at the same distance from the newest one differ in their digests. -/
def Distinguished (first second : List α) : Prop :=
  ∀ pair ∈ first.zip second, digest pair.1 = digest pair.2 → pair.1 = pair.2

variable {digest back}

theorem Distinguished.refl (chain : List α) : Distinguished digest chain chain := by
  induction chain with
  | nil => simp [Distinguished]
  | cons entry older ih =>
    intro pair hpair
    rw [List.zip_cons_cons, List.mem_cons] at hpair
    rcases hpair with rfl | hpair
    · exact fun _ => rfl
    · exact ih pair hpair

/-- The newest digest commits to the chain. -/
theorem Linked.eq_of_head {first second : List α} (hfirst : Linked digest back first)
    (hsecond : Linked digest back second) (hdistinct : Distinguished digest first second)
    (hhead : first.head?.map digest = second.head?.map digest) : first = second := by
  induction first generalizing second with
  | nil =>
    cases second with
    | nil => rfl
    | cons entry older => simp at hhead
  | cons entry older ih =>
    cases second with
    | nil => simp at hhead
    | cons other rest =>
      have hsame : entry = other := by
        apply hdistinct (entry, other) (by simp)
        simpa using hhead
      subst hsame
      have holder : older.head?.map digest = rest.head?.map digest := by
        rw [← hfirst.1, ← hsecond.1]
      have hrest : Distinguished digest older rest := by
        intro pair hpair
        apply hdistinct pair
        rw [List.zip_cons_cons]
        exact List.mem_cons_of_mem _ hpair
      rw [ih hfirst.2 hsecond.2 hrest holder]

end GreenBubbles.Library.HashChain
