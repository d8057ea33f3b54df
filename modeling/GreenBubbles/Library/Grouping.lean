import GreenBubbles.Library.Ordered
import Mathlib.Data.List.Dedup

/-! # Grouping by a key

The values of a list under each of their keys, in the order of the keys, and
merging of spans that touch.
-/
namespace GreenBubbles.Library.Grouping

open Ordered

section Grouping

variable {α κ ο : Type*} [DecidableEq κ] [Ord ο] (key : α → κ) (order : κ → ο)

def grouped (values : List α) : List (κ × List α) :=
  (sortBy order (values.map key).dedup).map fun k => (k, values.filter (key · = k))

variable {key order}

theorem mem_grouped {values : List α} {k : κ} {group : List α} :
    (k, group) ∈ grouped key order values ↔
      (∃ a ∈ values, key a = k) ∧ group = values.filter (key · = k) := by
  simp only [grouped, List.mem_map, mem_sortBy, List.mem_dedup, Prod.mk.injEq]
  constructor
  · rintro ⟨k', ⟨a, ha, hkey⟩, rfl, rfl⟩
    exact ⟨⟨a, ha, hkey⟩, rfl⟩
  · rintro ⟨⟨a, ha, hkey⟩, rfl⟩
    exact ⟨k, ⟨a, ha, hkey⟩, rfl, rfl⟩

/-- A list is put together again from what stands under its keys. -/
theorem filter_perm {keys : List κ} {values : List α} (hnodup : keys.Nodup)
    (hcovers : ∀ a ∈ values, key a ∈ keys) :
    (keys.flatMap fun k => values.filter (key · = k)).Perm values := by
  induction keys generalizing values with
  | nil =>
    have hempty : values = [] := List.eq_nil_iff_forall_not_mem.mpr fun a ha => by
      simpa using hcovers a ha
    simp [hempty]
  | cons k keys ih =>
    have hnot : k ∉ keys := (List.nodup_cons.mp hnodup).1
    have hrest : (keys.flatMap fun k' => values.filter (key · = k')) =
        keys.flatMap fun k' => (values.filter fun a => ¬ key a = k).filter (key · = k') := by
      rw [List.flatMap_def, List.flatMap_def]
      congr 1
      apply List.map_congr_left
      intro k' hk'
      rw [List.filter_filter]
      apply List.filter_congr
      intro a _
      by_cases ha : key a = k'
      · have hne : ¬ key a = k := fun h => hnot (h ▸ ha ▸ hk')
        rw [decide_eq_true ha, decide_eq_true hne]
        rfl
      · rw [decide_eq_false ha, Bool.false_and]
    have hcovers' : ∀ a ∈ values.filter (fun a => ¬ key a = k), key a ∈ keys := by
      intro a ha
      rw [List.mem_filter, decide_eq_true_eq] at ha
      exact (List.mem_cons.mp (hcovers a ha.1)).resolve_left ha.2
    have hsplit := List.filter_append_perm (fun a => decide (key a = k)) values
    rw [List.flatMap_cons, hrest]
    refine (List.Perm.append_left _ (ih (List.nodup_cons.mp hnodup).2 hcovers')).trans ?_
    simpa only [decide_not] using hsplit

theorem grouped_perm (values : List α) :
    ((grouped key order values).flatMap Prod.snd).Perm values := by
  rw [grouped, List.flatMap_map]
  apply filter_perm
  · exact (sortBy_perm order _).nodup_iff.mpr (List.nodup_dedup _)
  · intro a ha
    rw [mem_sortBy, List.mem_dedup]
    exact List.mem_map_of_mem ha

end Grouping

section Spans

/-- A span joins the one before it when it starts in it or right behind it. -/
def absorb : List (ℕ × ℕ) → ℕ × ℕ → List (ℕ × ℕ)
  | [], span => [span]
  | previous :: merged, span =>
    if span.1 ≤ previous.2 + 1 then (previous.1, max previous.2 span.2) :: merged
    else span :: previous :: merged

def mergeSpans (spans : List (ℕ × ℕ)) : List (ℕ × ℕ) :=
  ((sortBy id spans).foldl absorb []).reverse

/-- A position lies in one of the spans. -/
def Within (spans : List (ℕ × ℕ)) (n : ℕ) : Prop := ∃ span ∈ spans, span.1 ≤ n ∧ n ≤ span.2

/-- Spans in reverse order, none of which touches the next. -/
structure Separate (merged : List (ℕ × ℕ)) : Prop where
  proper : ∀ span ∈ merged, span.1 ≤ span.2
  apart : merged.Pairwise fun later earlier => earlier.2 < later.1

theorem Separate.absorb {merged : List (ℕ × ℕ)} {span : ℕ × ℕ} (h : Separate merged)
    (hproper : span.1 ≤ span.2) (hlast : ∀ previous ∈ merged, previous.1 ≤ span.1) :
    Separate (absorb merged span) ∧
      ∀ n, Within (Grouping.absorb merged span) n ↔ Within merged n ∨ span.1 ≤ n ∧ n ≤ span.2 := by
  cases merged with
  | nil =>
    refine ⟨⟨by simpa [Grouping.absorb] using hproper, by simp [Grouping.absorb]⟩, ?_⟩
    simp [Grouping.absorb, Within]
  | cons previous merged =>
    have hprevious := hlast previous List.mem_cons_self
    have hfirst := h.proper previous List.mem_cons_self
    obtain ⟨hbehind, hapart⟩ := List.pairwise_cons.mp h.apart
    have hrest : ∀ other ∈ merged, other.1 ≤ other.2 := fun other hother =>
      h.proper other (List.mem_cons_of_mem previous hother)
    by_cases htouch : span.1 ≤ previous.2 + 1
    · rw [Grouping.absorb, if_pos htouch]
      refine ⟨⟨?_, List.pairwise_cons.mpr ⟨hbehind, hapart⟩⟩, fun n => ?_⟩
      · rw [List.forall_mem_cons]
        exact ⟨by simp only; omega, hrest⟩
      · simp only [Within, List.exists_mem_cons_iff]
        constructor
        · rintro (⟨hle, hle'⟩ | hother)
          · by_cases hinside : n ≤ previous.2
            · exact .inl (.inl ⟨hle, hinside⟩)
            · exact .inr (by omega)
          · exact .inl (.inr hother)
        · rintro ((⟨hle, hle'⟩ | hother) | ⟨hle, hle'⟩)
          · exact .inl ⟨hle, by omega⟩
          · exact .inr hother
          · exact .inl ⟨by omega, by omega⟩
    · rw [Grouping.absorb, if_neg htouch]
      refine ⟨⟨?_, ?_⟩, fun n => ?_⟩
      · rw [List.forall_mem_cons]
        exact ⟨hproper, h.proper⟩
      · refine List.pairwise_cons.mpr ⟨?_, h.apart⟩
        rw [List.forall_mem_cons]
        refine ⟨by omega, fun other hother => ?_⟩
        have hearlier := hbehind other hother
        omega
      · simp only [Within, List.exists_mem_cons_iff]
        exact or_comm

/-- Merged spans lie apart and cover the same positions. -/
theorem mergeSpans_spec {spans : List (ℕ × ℕ)} (hproper : ∀ span ∈ spans, span.1 ≤ span.2) :
    (∀ span ∈ mergeSpans spans, span.1 ≤ span.2) ∧
      (mergeSpans spans).Pairwise (fun earlier later => earlier.2 < later.1) ∧
        ∀ n, Within (mergeSpans spans) n ↔ Within spans n := by
  have hfold : ∀ (rest merged : List (ℕ × ℕ)), (∀ span ∈ rest, span.1 ≤ span.2) →
      rest.Pairwise (fun earlier later => earlier.1 ≤ later.1) → Separate merged →
        (∀ previous ∈ merged, ∀ span ∈ rest, previous.1 ≤ span.1) →
          Separate (rest.foldl absorb merged) ∧
            ∀ n, Within (rest.foldl absorb merged) n ↔ Within merged n ∨ Within rest n := by
    intro rest
    induction rest with
    | nil =>
      intro merged _ _ hmerged _
      exact ⟨hmerged, fun n => by simp [Within]⟩
    | cons span rest ih =>
      intro merged hrest hsorted hmerged hlast
      obtain ⟨hnext, hsorted⟩ := List.pairwise_cons.mp hsorted
      rw [List.forall_mem_cons] at hrest
      obtain ⟨hseparate, hwithin⟩ := hmerged.absorb hrest.1
        fun previous hprevious => hlast previous hprevious span List.mem_cons_self
      have hstarts : ∀ previous ∈ absorb merged span, ∀ later ∈ rest, previous.1 ≤ later.1 := by
        intro previous hprevious later hlater
        have hbound : previous.1 ≤ span.1 := by
          cases merged with
          | nil =>
            obtain rfl := List.mem_singleton.mp hprevious
            exact le_refl _
          | cons first merged =>
            have hfirst := hlast first List.mem_cons_self span List.mem_cons_self
            rw [absorb] at hprevious
            split_ifs at hprevious with htouch
            · rcases List.mem_cons.mp hprevious with rfl | hmem
              · exact hfirst
              · exact hlast previous (List.mem_cons_of_mem first hmem) span List.mem_cons_self
            · rcases List.mem_cons.mp hprevious with rfl | hmem
              · exact le_refl _
              · exact hlast previous hmem span List.mem_cons_self
        exact hbound.trans (hnext later hlater)
      obtain ⟨hresult, hcover⟩ := ih (absorb merged span) hrest.2 hsorted hseparate hstarts
      refine ⟨hresult, fun n => ?_⟩
      rw [List.foldl_cons, hcover n, hwithin n, or_assoc]
      simp only [Within, List.exists_mem_cons_iff]
  have hsorted : (sortBy id spans).Pairwise fun earlier later => earlier.1 ≤ later.1 := by
    refine (sortBy_pairwise id spans).imp fun {earlier later} hle => ?_
    by_contra hlt
    have hgt : compare earlier.1 later.1 = .gt := Nat.compare_eq_gt.mpr (by omega)
    simp only [id, compare, compareLex] at hle
    simp [compareOn, hgt] at hle
  obtain ⟨hseparate, hcover⟩ := hfold (sortBy id spans) []
    (fun span hspan => hproper span (by simpa using hspan)) hsorted
    ⟨by simp, List.Pairwise.nil⟩ (by simp)
  refine ⟨fun span hspan => hseparate.proper span (List.mem_reverse.mp hspan),
    List.pairwise_reverse.mpr hseparate.apart, fun n => ?_⟩
  have hn := hcover n
  simp only [Within, List.not_mem_nil, false_and, exists_false, false_or, mem_sortBy] at hn
  simpa only [mergeSpans, Within, List.mem_reverse] using hn

end Spans

end GreenBubbles.Library.Grouping
