import Mathlib.Data.List.Basic
import Mathlib.Data.Option.Basic
import Mathlib.Logic.Function.Basic
import GreenBubbles.Basic

/-! # Bringing a table up to a list

A list says which value stands under which key, no key twice. A table is gone
through with it: what the list says is written, and what it does not name is
deleted at the end.
-/
namespace GreenBubbles.Library.Upserts

/-! Folds that may fail -/

section Folds

variable {ε σ α : Type*} {step : σ → α → Except ε σ} {I : List α → σ → Prop}

/-- What holds of the values gone through so far is kept by the next one. -/
theorem foldlM_prefix (hstep : ∀ done a s s', I done s → step s a = .ok s' → I (done ++ [a]) s')
    {values : List α} {s s' : σ} (h : values.foldlM step s = .ok s') (hI : I [] s) :
    I values s' := by
  have hfrom : ∀ (values done : List α) (s : σ), values.foldlM step s = .ok s' → I done s →
      I (done ++ values) s' := by
    intro values
    induction values with
    | nil =>
      intro done s h hI
      obtain rfl := Except.ok.inj h
      rwa [List.append_nil]
    | cons a values ih =>
      intro done s h hI
      rw [List.foldlM_cons] at h
      cases hfirst : step s a with
      | error error => simp [hfirst, bind, Except.bind] at h
      | ok next =>
        rw [hfirst] at h
        rw [List.append_cons]
        exact ih (done ++ [a]) next h (hstep done a s next hI hfirst)
  exact hfrom values [] s h hI

/-- What each value gone through was accepted for. -/
theorem foldlM_accepted {C : List α → α → Prop}
    (hstep : ∀ done a s s', I done s → step s a = .ok s' → I (done ++ [a]) s' ∧ C done a)
    {values : List α} {s s' : σ} (h : values.foldlM step s = .ok s') (hI : I [] s) :
    ∀ front a rest, values = front ++ a :: rest → C front a := by
  have hfrom : ∀ (values done : List α) (s : σ), values.foldlM step s = .ok s' → I done s →
      ∀ front a rest, values = front ++ a :: rest → C (done ++ front) a := by
    intro values
    induction values with
    | nil =>
      intro done s _ _ front a rest hsplit
      cases front <;> cases hsplit
    | cons a values ih =>
      intro done s h hI front b rest hsplit
      rw [List.foldlM_cons] at h
      cases hfirst : step s a with
      | error error => simp [hfirst, bind, Except.bind] at h
      | ok next =>
        rw [hfirst] at h
        obtain ⟨hnext, haccepted⟩ := hstep done a s next hI hfirst
        rcases List.cons_eq_append_iff.mp hsplit with ⟨rfl, hb⟩ | ⟨front', rfl, hvalues⟩
        · obtain ⟨rfl, rfl⟩ := List.cons.inj hb
          rwa [List.append_nil]
        · rw [List.append_cons]
          exact ih (done ++ [a]) next h hnext front' b rest hvalues
  exact hfrom values [] s h hI

/-- All values are gone through when each is acceptable after the ones before it. -/
theorem foldlM_ok {C : List α → α → Prop}
    (hstep : ∀ done a s, I done s → C done a → ∃ s', step s a = .ok s' ∧ I (done ++ [a]) s')
    {values : List α} {s : σ} (hI : I [] s)
    (h : ∀ front a rest, values = front ++ a :: rest → C front a) :
    ∃ s', values.foldlM step s = .ok s' ∧ I values s' := by
  have hfrom : ∀ (values done : List α) (s : σ), I done s →
      (∀ front a rest, values = front ++ a :: rest → C (done ++ front) a) →
        ∃ s', values.foldlM step s = .ok s' ∧ I (done ++ values) s' := by
    intro values
    induction values with
    | nil => exact fun done s hI _ => ⟨s, rfl, by rwa [List.append_nil]⟩
    | cons a values ih =>
      intro done s hI h
      have hfirst := h [] a values rfl
      rw [List.append_nil] at hfirst
      obtain ⟨next, hnext, hnextI⟩ := hstep done a s hI hfirst
      obtain ⟨s', hs', hI'⟩ := ih (done ++ [a]) next hnextI fun front b rest hsplit => by
        rw [← List.append_cons]
        exact h (a :: front) b rest (by rw [hsplit, List.cons_append])
      refine ⟨s', ?_, by rwa [List.append_cons]⟩
      rw [List.foldlM_cons, hnext]
      exact hs'
  exact hfrom values [] s hI h

end Folds

/-! Lists of keyed values -/

section Lists

variable {α κ ρ : Type*} {row : α → Option (κ × ρ)} {values done : List α} {k : κ} {r : ρ}

variable (row values k) in
/-- The list says something of the key. -/
def Names : Prop := ∃ a ∈ values, ∃ r, row a = some (k, r)

variable (row values k r) in
/-- The list says that the value stands under the key. -/
def Says : Prop := ∃ a ∈ values, row a = some (k, r)

theorem Says.names (h : Says row values k r) : Names row values k := by
  obtain ⟨a, ha, hrow⟩ := h
  exact ⟨a, ha, r, hrow⟩

theorem says_append {a : α} (ha : row a = some (k, r)) {k' : κ} {r' : ρ} :
    Says row (done ++ [a]) k' r' ↔ Says row done k' r' ∨ (k' = k ∧ r' = r) := by
  simp only [Says, List.mem_append, List.mem_singleton]
  constructor
  · rintro ⟨b, hb | rfl, hrow⟩
    · exact .inl ⟨b, hb, hrow⟩
    · rw [ha, Option.some.injEq, Prod.mk.injEq] at hrow
      exact .inr ⟨hrow.1.symm, hrow.2.symm⟩
  · rintro (⟨b, hb, hrow⟩ | ⟨rfl, rfl⟩)
    · exact ⟨b, .inl hb, hrow⟩
    · exact ⟨a, .inr rfl, ha⟩

theorem names_append {a : α} (ha : row a = some (k, r)) {k' : κ} :
    Names row (done ++ [a]) k' ↔ Names row done k' ∨ k' = k := by
  have hsaid : ∀ values, Names row values k' ↔ ∃ r', Says row values k' r' := fun values =>
    ⟨fun ⟨b, hb, r', hrow⟩ => ⟨r', b, hb, hrow⟩, fun ⟨r', hsaid⟩ => hsaid.names⟩
  rw [hsaid, hsaid]
  constructor
  · rintro ⟨r', h⟩
    rcases (says_append ha).mp h with h | ⟨rfl, -⟩
    · exact .inl ⟨r', h⟩
    · exact .inr rfl
  · rintro (⟨r', h⟩ | rfl)
    · exact ⟨r', (says_append ha).mpr (.inl h)⟩
    · exact ⟨r, (says_append ha).mpr (.inr ⟨rfl, rfl⟩)⟩

variable (row) in
/-- A table after the part of a list that has been written into it. -/
def Upserted (before : κ → Option ρ) (done : List α) (after : κ → Option ρ) : Prop :=
  ∀ k r, after k = some r ↔ Says row done k r ∨ (before k = some r ∧ ¬Names row done k)

variable {before middle after : κ → Option ρ}

theorem upserted_nil : Upserted row before [] before := by
  intro k r
  simp [Says, Names]

/-- A key the list has not named yet still stands as it did. -/
theorem Upserted.unnamed (h : Upserted row before done middle) (hk : ¬Names row done k) :
    middle k = before k := by
  ext r
  rw [h k r]
  constructor
  · rintro (hsaid | ⟨hbefore, -⟩)
    · exact absurd hsaid.names hk
    · exact hbefore
  · exact fun hbefore => .inr ⟨hbefore, hk⟩

theorem Upserted.write [DecidableEq κ] (h : Upserted row before done middle) {a : α}
    (ha : row a = some (k, r)) (hfresh : ¬Names row done k) :
    Upserted row before (done ++ [a]) (Function.update middle k (some r)) := by
  intro k' r'
  rw [says_append ha, names_append ha]
  by_cases hk : k' = k
  · subst hk
    rw [Function.update_self, Option.some.injEq]
    constructor
    · rintro rfl
      exact .inl (.inr ⟨rfl, rfl⟩)
    · rintro ((hsaid | ⟨-, rfl⟩) | ⟨-, hnames⟩)
      · exact absurd hsaid.names hfresh
      · rfl
      · exact absurd (.inr rfl) hnames
  · rw [Function.update_of_ne hk, h k' r']
    simp [hk]

/-- What is left once all that the list does not name is gone is what the list says. -/
theorem Upserted.retained (h : Upserted row before values middle)
    (hnamed : ∀ k, Names row values k → after k = middle k)
    (hgone : ∀ k, ¬Names row values k → after k = none) (k : κ) (r : ρ) :
    after k = some r ↔ Says row values k r := by
  by_cases hk : Names row values k
  · rw [hnamed k hk, h k r]
    constructor
    · rintro (hsaid | ⟨-, hnames⟩)
      · exact hsaid
      · exact absurd hk hnames
    · exact .inl
  · rw [hgone k hk]
    constructor
    · exact fun hnone => absurd hnone (by simp)
    · exact fun hsaid => absurd hsaid.names hk

end Lists

end GreenBubbles.Library.Upserts
