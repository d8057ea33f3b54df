import Mathlib.Data.List.Sort
import Mathlib.Data.String.Basic
import Std.Data.ExtTreeMap
import Std.Data.ExtTreeSet

/-! # Ordered collections

Stable sorting by a key, and ordered maps filled with records that must not
share a key.
-/
namespace GreenBubbles.Library.Ordered

open Std
open scoped List

/-- Pairs compare by their first component, then by their second. -/
instance lexicographic {α β : Type*} [Ord α] [Ord β] : Ord (α × β) := lexOrd

section Sorting

variable {α κ : Type*} [Ord κ] (key : α → κ)

def sortBy (values : List α) : List α :=
  values.insertionSort (fun left right => (compare (key left) (key right)).isLE = true)

theorem sortBy_perm (values : List α) : (sortBy key values).Perm values :=
  List.perm_insertionSort _ values

@[simp] theorem mem_sortBy {values : List α} {a : α} : a ∈ sortBy key values ↔ a ∈ values :=
  (sortBy_perm key values).mem_iff

theorem sortBy_pairwise [TransOrd κ] (values : List α) :
    (sortBy key values).Pairwise (fun left right => (compare (key left) (key right)).isLE) := by
  have htotal : Std.Total (fun left right : α => (compare (key left) (key right)).isLE = true) := by
    constructor
    intro left right
    cases h : compare (key left) (key right) with
    | lt => exact .inl rfl
    | eq => exact .inl rfl
    | gt => exact .inr (by rw [OrientedOrd.eq_swap, h]; rfl)
  have htrans : IsTrans α (fun left right => (compare (key left) (key right)).isLE = true) :=
    ⟨fun _ _ _ h₁ h₂ => TransCmp.isLE_trans h₁ h₂⟩
  exact List.pairwise_insertionSort _ values

/-- Sorting keeps the order of values under one key. -/
theorem sortBy_filter [TransOrd κ] [DecidableEq κ] (values : List α) (k : κ) :
    (sortBy key values).filter (key · = k) = values.filter (key · = k) := by
  have hsorted : (values.filter (key · = k)).Pairwise
      (fun left right => (compare (key left) (key right)).isLE = true) := by
    apply List.pairwise_of_forall_mem_list
    intro left hleft right hright
    have hself : compare k k = .eq := ReflCmp.compare_self
    rw [List.mem_filter, decide_eq_true_eq] at hleft hright
    rw [hleft.2, hright.2, hself]
    rfl
  have hsub := (List.sublist_insertionSort hsorted List.filter_sublist).filter (key · = k)
  rw [List.filter_filter] at hsub
  simp only [Bool.and_self] at hsub
  apply (hsub.eq_of_length _).symm
  exact ((sortBy_perm key values).filter _).length_eq.symm

/-- Where no key repeats, the sorted list does not depend on the order before. -/
theorem sortBy_eq_of_perm [TransOrd κ] [LawfulEqOrd κ] {left right : List α}
    (h : left.Perm right) (hnodup : (left.map key).Nodup) :
    sortBy key left = sortBy key right := by
  have hperm : (sortBy key left).Perm (sortBy key right) :=
    (sortBy_perm key left).trans (h.trans (sortBy_perm key right).symm)
  apply hperm.eq_of_pairwise _ (sortBy_pairwise key left) (sortBy_pairwise key right)
  intro a b ha hb hle hge
  rw [mem_sortBy] at ha hb
  apply List.inj_on_of_nodup_map hnodup ha (h.mem_iff.mpr hb)
  exact Std.compare_eq_iff_eq.mp (Std.OrientedCmp.isLE_antisymm hle hge)

theorem find?_sortBy [TransOrd κ] [DecidableEq κ] (values : List α) (k : κ) :
    (sortBy key values).find? (key · = k) = values.find? (key · = k) := by
  rw [← List.head?_filter, sortBy_filter, List.head?_filter]

end Sorting

/-- Where no key repeats, a search by key finds the one value under it. -/
theorem find?_key {α κ : Type*} [BEq κ] [LawfulBEq κ] {key : α → κ} {values : List α}
    (h : (values.map key).Nodup) {k : κ} {a : α} :
    values.find? (key · == k) = some a ↔ a ∈ values ∧ key a = k := by
  constructor
  · intro hfound
    exact ⟨List.mem_of_find?_eq_some hfound, by simpa using List.find?_some hfound⟩
  · rintro ⟨hmem, rfl⟩
    cases hfound : values.find? (key · == key a) with
    | none => simpa using List.find?_eq_none.mp hfound a hmem
    | some b =>
      have hkey : key b = key a := by simpa using List.find?_some hfound
      rw [List.inj_on_of_nodup_map h (List.mem_of_find?_eq_some hfound) hmem hkey]

section Maps

variable {κ α : Type*} [Ord κ] [TransOrd κ]

/-- The records of a map in the order of their keys. -/
def records (map : ExtTreeMap κ α) : List α := map.toList.map Prod.snd

@[simp] theorem records_empty : records (∅ : ExtTreeMap κ α) = [] := by simp [records]

variable [LawfulEqOrd κ]

theorem mem_records {map : ExtTreeMap κ α} {a : α} :
    a ∈ records map ↔ ∃ k : κ, map[k]? = some a := by
  simp only [records, List.mem_map, Prod.exists, exists_eq_right]
  exact exists_congr fun k => ExtTreeMap.mem_toList_iff_getElem?_eq_some

theorem nodup_toList (map : ExtTreeMap κ α) : map.toList.Nodup := by
  refine ExtTreeMap.distinct_keys_toList.imp ?_
  rintro left right hkeys rfl
  exact hkeys ReflCmp.compare_self

theorem toList_insert_perm {map : ExtTreeMap κ α} {k : κ} {a : α} (h : k ∉ map) :
    (map.insert k a).toList.Perm ((k, a) :: map.toList) := by
  have hfresh : (k, a) ∉ map.toList := by
    intro hmem
    rw [ExtTreeMap.mem_toList_iff_getElem?_eq_some] at hmem
    rw [ExtTreeMap.mem_iff_isSome_getElem?, hmem] at h
    exact h rfl
  rw [List.perm_ext_iff_of_nodup (nodup_toList _)
    (List.nodup_cons.mpr ⟨hfresh, nodup_toList map⟩)]
  rintro ⟨k', a'⟩
  rw [List.mem_cons, ExtTreeMap.mem_toList_iff_getElem?_eq_some,
    ExtTreeMap.mem_toList_iff_getElem?_eq_some, ExtTreeMap.getElem?_insert]
  by_cases hk : k = k'
  · subst hk
    have hnone : map[k]? = none := ExtTreeMap.getElem?_eq_none h
    simp [ReflCmp.compare_self, hnone, eq_comm]
  · have hne : compare k k' ≠ .eq := fun heq => hk (LawfulEqCmp.eq_of_compare heq)
    simp [hne, Ne.symm hk]

theorem records_insert_perm {map : ExtTreeMap κ α} {k : κ} {a : α} (h : k ∉ map) :
    (records (map.insert k a)).Perm (a :: records map) :=
  (toList_insert_perm h).map Prod.snd

variable (key : α → κ)

/-- Adds the records one by one and fails on the first key already taken. -/
def insertUnique (map : ExtTreeMap κ α) : List α → Option (ExtTreeMap κ α)
  | [] => some map
  | a :: values => if key a ∈ map then none else insertUnique (map.insert (key a) a) values

theorem insertUnique_perm {map filled : ExtTreeMap κ α} {values : List α}
    (h : insertUnique key map values = some filled) :
    (records filled).Perm (values ++ records map) := by
  induction values generalizing map with
  | nil =>
    obtain rfl := Option.some.inj h
    rfl
  | cons a values ih =>
    rw [insertUnique] at h
    split_ifs at h with hmem
    calc
      records filled ~ values ++ records (map.insert (key a) a) := ih h
      _ ~ values ++ a :: records map := List.Perm.append_left values (records_insert_perm hmem)
      _ ~ a :: values ++ records map := List.perm_middle

theorem insertUnique_getElem? {map filled : ExtTreeMap κ α} {values : List α}
    (h : insertUnique key map values = some filled) (k : κ) (a : α) :
    filled[k]? = some a ↔ map[k]? = some a ∨ (a ∈ values ∧ key a = k) := by
  induction values generalizing map with
  | nil =>
    obtain rfl := Option.some.inj h
    simp
  | cons b values ih =>
    rw [insertUnique] at h
    split_ifs at h with hmem
    rw [ih h, ExtTreeMap.getElem?_insert]
    by_cases hk : key b = k
    · subst hk
      have hnone : map[key b]? = none := ExtTreeMap.getElem?_eq_none hmem
      rw [if_pos ReflCmp.compare_self, hnone]
      simp only [Option.some.injEq, reduceCtorEq, false_or, List.mem_cons]
      constructor
      · rintro (rfl | ⟨ha, hkey⟩)
        · exact ⟨.inl rfl, rfl⟩
        · exact ⟨.inr ha, hkey⟩
      · rintro ⟨rfl | ha, hkey⟩
        · exact .inl rfl
        · exact .inr ⟨ha, hkey⟩
    · have hne : compare (key b) k ≠ .eq := fun heq => hk (LawfulEqCmp.eq_of_compare heq)
      rw [if_neg hne]
      simp only [List.mem_cons]
      constructor
      · rintro (hmap | ⟨ha, hkey⟩)
        · exact .inl hmap
        · exact .inr ⟨.inr ha, hkey⟩
      · rintro (hmap | ⟨rfl | ha, hkey⟩)
        · exact .inl hmap
        · exact absurd hkey hk
        · exact .inr ⟨ha, hkey⟩

/-- The keys of added records are pairwise distinct and new. -/
theorem insertUnique_nodup {map filled : ExtTreeMap κ α} {values : List α}
    (h : insertUnique key map values = some filled) :
    (values.map key).Nodup ∧ ∀ a ∈ values, key a ∉ map := by
  induction values generalizing map with
  | nil => simp
  | cons b values ih =>
    rw [insertUnique] at h
    split_ifs at h with hmem
    obtain ⟨hnodup, hnew⟩ := ih h
    simp only [ExtTreeMap.mem_insert, not_or] at hnew
    refine ⟨List.nodup_cons.mpr ⟨?_, hnodup⟩, ?_⟩
    · intro hkey
      obtain ⟨a, ha, hab⟩ := List.mem_map.mp hkey
      exact (hnew a ha).1 (hab ▸ ReflCmp.compare_self)
    · rw [List.forall_mem_cons]
      exact ⟨hmem, fun a ha => (hnew a ha).2⟩

/-- Distinct new keys are all accepted. -/
theorem insertUnique_isSome {map : ExtTreeMap κ α} {values : List α}
    (hnodup : (values.map key).Nodup) (hnew : ∀ a ∈ values, key a ∉ map) :
    (insertUnique key map values).isSome := by
  induction values generalizing map with
  | nil => rfl
  | cons b values ih =>
    rw [List.map_cons, List.nodup_cons] at hnodup
    rw [insertUnique, if_neg (hnew b List.mem_cons_self)]
    apply ih hnodup.2
    intro a ha hmem
    rw [ExtTreeMap.mem_insert] at hmem
    obtain hcompare | hmem := hmem
    · have hkey := LawfulEqCmp.eq_of_compare hcompare
      exact hnodup.1 (hkey ▸ List.mem_map_of_mem ha)
    · exact hnew a (List.mem_cons_of_mem b ha) hmem

theorem insertUnique_empty_getElem? {filled : ExtTreeMap κ α} {values : List α}
    (h : insertUnique key ∅ values = some filled) {k : κ} {a : α} :
    filled[k]? = some a ↔ a ∈ values ∧ key a = k := by
  rw [insertUnique_getElem? key h]
  simp

/-- Values in strictly increasing order of their keys. -/
def Ascending (values : List α) : Prop :=
  values.Pairwise fun left right => compare (key left) (key right) = .lt

variable {key} in
omit [TransOrd κ] in
theorem Ascending.nodup {values : List α} (h : Ascending key values) :
    (values.map key).Nodup := by
  rw [List.Nodup, List.pairwise_map]
  apply h.imp
  intro left right hlt heq
  have hself : compare (key right) (key right) = .eq := ReflCmp.compare_self
  rw [heq, hself] at hlt
  cases hlt

variable {key} in
/-- Ascending lists with the same members are equal. -/
theorem Ascending.ext {left right : List α} (hleft : Ascending key left)
    (hright : Ascending key right) (h : ∀ a, a ∈ left ↔ a ∈ right) : left = right := by
  have hperm : left.Perm right :=
    (List.perm_ext_iff_of_nodup hleft.nodup.of_map hright.nodup.of_map).mpr h
  apply hperm.eq_of_pairwise _ hleft hright
  intro a b _ _ hlt hgt
  rw [OrientedOrd.eq_swap, hlt] at hgt
  cases hgt

/-- Records taken from a map filled by key come back in the order of their keys. -/
theorem ascending_records {map : ExtTreeMap κ α} (hkey : ∀ k a, map[k]? = some a → key a = k) :
    Ascending key (records map) := by
  rw [Ascending, records, List.pairwise_map]
  apply ExtTreeMap.ordered_keys_toList.imp_of_mem
  rintro ⟨k, a⟩ ⟨k', a'⟩ hmem hmem' hlt
  rw [hkey k a (ExtTreeMap.mem_toList_iff_getElem?_eq_some.mp hmem),
    hkey k' a' (ExtTreeMap.mem_toList_iff_getElem?_eq_some.mp hmem')]
  exact hlt

variable {key} in
/-- Ascending lists are compared key by key. -/
theorem Ascending.eq_iff_find? [DecidableEq κ] {left right : List α}
    (hleft : Ascending key left) (hright : Ascending key right) :
    left = right ↔ ∀ k, left.find? (key · = k) = right.find? (key · = k) := by
  constructor
  · rintro rfl k
    rfl
  · intro h
    apply hleft.ext hright
    intro a
    have hfind := h (key a)
    have hl := find?_key hleft.nodup (k := key a) (a := a)
    have hr := find?_key hright.nodup (k := key a) (a := a)
    simp only [beq_eq_decide, and_true] at hl hr
    rw [← hl, ← hr, hfind]

variable {key} in
/-- Ascending lists have equal images when each value has a partner in the other. -/
theorem Ascending.map_eq_iff {left right : List α} (hleft : Ascending key left)
    (hright : Ascending key right) {image : α → α} (himage : ∀ a, key (image a) = key a) :
    left.map image = right.map image ↔ (∀ a ∈ left, ∃ b ∈ right, image b = image a) ∧
      ∀ b ∈ right, ∃ a ∈ left, image a = image b := by
  have hmap : ∀ {values : List α}, Ascending key values → Ascending key (values.map image) := by
    intro values h
    rw [Ascending] at h ⊢
    simpa only [List.pairwise_map, himage] using h
  constructor
  · intro h
    constructor
    · intro a ha
      exact List.mem_map.mp (h ▸ List.mem_map_of_mem ha)
    · intro b hb
      exact List.mem_map.mp (h ▸ List.mem_map_of_mem hb)
  · rintro ⟨hsub, hsup⟩
    apply (hmap hleft).ext (hmap hright)
    intro c
    constructor
    · intro hc
      obtain ⟨a, ha, rfl⟩ := List.mem_map.mp hc
      exact List.mem_map.mpr (hsub a ha)
    · intro hc
      obtain ⟨b, hb, rfl⟩ := List.mem_map.mp hc
      exact List.mem_map.mpr (hsup b hb)

/-- A map filled by key is searched by key. -/
theorem find?_records [DecidableEq κ] {map : ExtTreeMap κ α}
    (hkey : ∀ k a, map[k]? = some a → key a = k) (k : κ) :
    (records map).find? (key · = k) = map[k]? := by
  ext a
  have hfind := find?_key (ascending_records key hkey).nodup (k := k) (a := a)
  simp only [beq_eq_decide] at hfind
  rw [hfind, mem_records]
  constructor
  · rintro ⟨⟨k', hk'⟩, rfl⟩
    rw [hkey k' a hk']
    exact hk'
  · intro hk
    exact ⟨⟨k, hk⟩, hkey k a hk⟩

/-- Records inserted one after the other: the last one under a key stays. -/
theorem foldl_insert_getElem? [DecidableEq κ] (values : List α) (map : ExtTreeMap κ α) (k : κ) :
    (values.foldl (fun map a => map.insert (key a) a) map)[k]? =
      (values.reverse.find? (key · = k)).or map[k]? := by
  induction values generalizing map with
  | nil => rfl
  | cons a values ih =>
    rw [List.foldl_cons, ih, List.reverse_cons, List.find?_append, ExtTreeMap.getElem?_insert]
    by_cases hk : key a = k
    · subst hk
      cases values.reverse.find? (key · = key a) <;> simp [ReflCmp.compare_self]
    · have hne : compare (key a) k ≠ .eq := fun heq => hk (LawfulEqCmp.eq_of_compare heq)
      cases values.reverse.find? (key · = k) <;> simp [hne, hk]

/-- A fold that writes one entry for each value, computed from the entry it finds there. -/
theorem foldlM_insert_getElem? {β ε : Type} {step : ExtTreeMap κ α → β → Except ε (ExtTreeMap κ α)}
    {key : β → κ} {Joins : Option α → β → α → Prop}
    (hstep : ∀ map b filled, step map b = .ok filled →
      ∃ a, Joins map[key b]? b a ∧ filled = map.insert (key b) a)
    {values : List β} (hnodup : (values.map key).Nodup) {map filled : ExtTreeMap κ α}
    (h : values.foldlM step map = Except.ok filled) :
    (∀ b ∈ values, ∃ a, Joins map[key b]? b a ∧ filled[key b]? = some a) ∧
      ∀ k, (∀ b ∈ values, key b ≠ k) → filled[k]? = map[k]? := by
  induction values generalizing map with
  | nil =>
    obtain rfl := Except.ok.inj h
    simp
  | cons b values ih =>
    rw [List.map_cons, List.nodup_cons] at hnodup
    rw [List.foldlM_cons] at h
    cases hfirst : step map b with
    | error error => simp [hfirst, bind, Except.bind] at h
    | ok next =>
      rw [hfirst] at h
      obtain ⟨a, ha, rfl⟩ := hstep map b next hfirst
      obtain ⟨hwritten, hother⟩ := ih hnodup.2 h
      have hfar : ∀ {k : κ}, key b ≠ k → (map.insert (key b) a)[k]? = map[k]? := by
        intro k hk
        have hne : compare (key b) k ≠ .eq := fun heq => hk (LawfulEqCmp.eq_of_compare heq)
        rw [ExtTreeMap.getElem?_insert, if_neg hne]
      have hfresh : ∀ c ∈ values, key c ≠ key b := by
        intro c hc heq
        exact hnodup.1 (heq ▸ List.mem_map_of_mem hc)
      constructor
      · rw [List.forall_mem_cons]
        constructor
        · refine ⟨a, ha, ?_⟩
          rw [hother (key b) hfresh, ExtTreeMap.getElem?_insert_self]
        · intro c hc
          obtain ⟨w, hw, hfound⟩ := hwritten c hc
          rw [hfar (hfresh c hc).symm] at hw
          exact ⟨w, hw, hfound⟩
      · intro k hk
        rw [List.forall_mem_cons] at hk
        rw [hother k hk.2, hfar hk.1]

/-- Writing one entry for each value under a fresh key succeeds when every step does. -/
theorem foldlM_insert_fresh {β ε : Type} {step : ExtTreeMap κ α → β → Except ε (ExtTreeMap κ α)}
    {key : β → κ} {values : List β} (hnodup : (values.map key).Nodup) {map : ExtTreeMap κ α}
    (hnew : ∀ b ∈ values, map[key b]? = none)
    (hstep : ∀ b ∈ values, ∀ map : ExtTreeMap κ α, map[key b]? = none →
      ∃ a, step map b = .ok (map.insert (key b) a)) :
    ∃ filled, values.foldlM step map = Except.ok filled := by
  induction values generalizing map with
  | nil => exact ⟨map, rfl⟩
  | cons b values ih =>
    rw [List.map_cons, List.nodup_cons] at hnodup
    rw [List.forall_mem_cons] at hnew hstep
    obtain ⟨a, ha⟩ := hstep.1 map hnew.1
    rw [List.foldlM_cons, ha]
    apply ih hnodup.2 _ hstep.2
    intro c hc
    have hne : compare (key b) (key c) ≠ .eq := by
      intro heq
      have hkey : key b = key c := LawfulEqCmp.eq_of_compare heq
      exact hnodup.1 (hkey ▸ List.mem_map_of_mem hc)
    rw [ExtTreeMap.getElem?_insert, if_neg hne]
    exact hnew.2 c hc

/-- What an updated and filtered map holds, for a map known by its records. -/
theorem records_filter_map {β : Type*} {map : ExtTreeMap κ α} {Holds : α → Prop}
    (hmap : ∀ k a, map[k]? = some a ↔ Holds a ∧ key a = k) (update : κ → α → β) (key' : β → κ)
    (hkey : ∀ a, key' (update (key a) a) = key a) (keep : κ → β → Bool) :
    Ascending key' (records ((map.map update).filter keep)) ∧
      ∀ b, b ∈ records ((map.map update).filter keep) ↔
        ∃ a, Holds a ∧ b = update (key a) a ∧ keep (key a) b = true := by
  have hfound : ∀ k b, ((map.map update).filter keep)[k]? = some b ↔
      ∃ a, (Holds a ∧ key a = k) ∧ b = update k a ∧ keep k b = true := by
    intro k b
    rw [ExtTreeMap.getElem?_filter', ExtTreeMap.getElem?_map, Option.filter_eq_some_iff,
      Option.map_eq_some_iff]
    simp only [hmap]
    constructor
    · rintro ⟨⟨a, ha, rfl⟩, hkeep⟩
      exact ⟨a, ha, rfl, hkeep⟩
    · rintro ⟨a, ha, rfl, hkeep⟩
      exact ⟨⟨a, ha, rfl⟩, hkeep⟩
  constructor
  · apply ascending_records
    intro k b hb
    obtain ⟨a, ⟨_, rfl⟩, rfl, _⟩ := (hfound k b).mp hb
    exact hkey a
  · intro b
    rw [mem_records]
    simp only [hfound]
    constructor
    · rintro ⟨k, a, ⟨ha, rfl⟩, hb⟩
      exact ⟨a, ha, hb⟩
    · rintro ⟨a, ha, hb⟩
      exact ⟨key a, a, ⟨ha, rfl⟩, hb⟩

end Maps

section Collecting

variable {α ρ ε : Type} {step : List ρ → α → Except ε (List ρ)} {Accepts : α → Prop}
  {rows : α → List ρ}

/-- A fold that accepts values one by one and refuses rows already collected. -/
theorem foldlM_collect
    (hstep : ∀ seen a seen', step seen a = .ok seen' ↔ Accepts a ∧ (rows a).Nodup ∧
      (∀ row ∈ rows a, row ∉ seen) ∧ seen' = seen ++ rows a)
    {seen seen' : List ρ} {values : List α} :
    values.foldlM step seen = Except.ok seen' ↔ (∀ a ∈ values, Accepts a) ∧
      (values.flatMap rows).Nodup ∧ (∀ row ∈ values.flatMap rows, row ∉ seen) ∧
      seen' = seen ++ values.flatMap rows := by
  induction values generalizing seen with
  | nil => simp [pure, Except.pure, eq_comm]
  | cons a values ih =>
    rw [List.foldlM_cons, List.flatMap_cons, List.forall_mem_cons, List.nodup_append']
    constructor
    · intro h
      cases hfirst : step seen a with
      | error error => simp [hfirst, bind, Except.bind] at h
      | ok next =>
        rw [hfirst] at h
        obtain ⟨haccepts, hrows, hfresh, rfl⟩ := (hstep seen a next).mp hfirst
        obtain ⟨hrest, hnodup, hlater, rfl⟩ := ih.mp h
        refine ⟨⟨haccepts, hrest⟩, ⟨hrows, hnodup, ?_⟩, ?_, by rw [List.append_assoc]⟩
        · intro row hhere hthere
          exact hlater row hthere (List.mem_append_right _ hhere)
        · intro row hrow
          rw [List.mem_append] at hrow
          cases hrow with
          | inl hhere => exact hfresh row hhere
          | inr hthere => exact fun hseen => hlater row hthere (List.mem_append_left _ hseen)
    · rintro ⟨⟨haccepts, hrest⟩, ⟨hrows, hnodup, hapart⟩, hfresh, rfl⟩
      have hfirst : step seen a = .ok (seen ++ rows a) :=
        (hstep seen a _).mpr ⟨haccepts, hrows,
          fun row hrow => hfresh row (List.mem_append_left _ hrow), rfl⟩
      rw [hfirst]
      refine ih.mpr ⟨hrest, hnodup, ?_, by rw [List.append_assoc]⟩
      intro row hrow hmem
      rw [List.mem_append] at hmem
      cases hmem with
      | inl hseen => exact hfresh row (List.mem_append_right _ hrow) hseen
      | inr hhere => exact hapart hhere hrow

end Collecting

section Grouping

variable {α β κ υ : Type*}

/-- Groups taken one key after the other make up the values under those keys. -/
theorem flatMap_filter_perm [DecidableEq κ] (key : α → κ) (values : List α) {keys : List κ}
    (h : keys.Nodup) :
    (keys.flatMap fun k => values.filter (key · = k)).Perm (values.filter (key · ∈ keys)) := by
  induction keys with
  | nil => simp
  | cons k keys ih =>
    rw [List.nodup_cons] at h
    have hhere : (values.filter (key · ∈ k :: keys)).filter (key · = k) =
        values.filter (key · = k) := by
      rw [List.filter_filter]
      congr 1
      funext a
      by_cases ha : key a = k <;> simp [ha]
    have hrest : (values.filter (key · ∈ k :: keys)).filter (fun a => !decide (key a = k)) =
        values.filter (key · ∈ keys) := by
      rw [List.filter_filter]
      congr 1
      funext a
      by_cases ha : key a = k
      · simp [ha, h.1]
      · simp [ha]
    calc
      (k :: keys).flatMap (fun k => values.filter (key · = k)) ~
          values.filter (key · = k) ++ values.filter (key · ∈ keys) := by
        rw [List.flatMap_cons]
        exact (ih h.2).append_left _
      _ = (values.filter (key · ∈ k :: keys)).filter (key · = k) ++
          (values.filter (key · ∈ k :: keys)).filter (fun a => !decide (key a = k)) := by
        rw [hhere, hrest]
      _ ~ values.filter (key · ∈ k :: keys) := List.filter_append_perm _ _

/-- Two lists keyed alike have the same images when equal keys have equal images. -/
theorem map_perm_of_keys {left : List α} {right : List β} (key : α → κ) (key' : β → κ)
    {image : α → υ} {image' : β → υ} (hleft : (left.map key).Nodup)
    (hright : (right.map key').Nodup) (hsub : ∀ a ∈ left, ∃ b ∈ right, key' b = key a)
    (hsup : ∀ b ∈ right, ∃ a ∈ left, key a = key' b)
    (hsame : ∀ a ∈ left, ∀ b ∈ right, key a = key' b → image a = image' b) :
    (left.map image).Perm (right.map image') := by
  have hpairs : (left.map fun a => (key a, image a)).Perm
      (right.map fun b => (key' b, image' b)) := by
    rw [List.perm_ext_iff_of_nodup]
    · rintro ⟨k, u⟩
      simp only [List.mem_map, Prod.mk.injEq]
      constructor
      · rintro ⟨a, ha, rfl, rfl⟩
        obtain ⟨b, hb, hkey⟩ := hsub a ha
        exact ⟨b, hb, hkey, (hsame a ha b hb hkey.symm).symm⟩
      · rintro ⟨b, hb, rfl, rfl⟩
        obtain ⟨a, ha, hkey⟩ := hsup b hb
        exact ⟨a, ha, hkey, hsame a ha b hb hkey⟩
    · apply List.Nodup.of_map Prod.fst
      simpa [List.map_map, Function.comp_def] using hleft
    · apply List.Nodup.of_map Prod.fst
      simpa [List.map_map, Function.comp_def] using hright
  simpa [List.map_map, Function.comp_def] using hpairs.map Prod.snd

end Grouping

end GreenBubbles.Library.Ordered
