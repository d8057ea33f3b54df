import GreenBubbles.Cached.Moments
import GreenBubbles.Library.Markup
import GreenBubbles.NestedXml.Sweep
import Mathlib.Data.Bool.AllAny

/-! # Where the searches for tags end up

An element stands in a text behind a sealed part. The searches cut out its content
exactly where the tag is written as they look for it and no other occurrence is
found first. They cut nothing where no closing tag follows an opening one.
-/
namespace GreenBubbles.Cached

open Library.Search Library.Probing Library.Markup
open NestedXml (toAsciiLowercase caseless toLower_eq)

variable {lower tag name text : List Char} {n m start : ℕ}

/-! Lower case -/

section Lower

theorem mem_lower {c : Char} (hc : caseless c = true) : c ∈ toAsciiLowercase text ↔ c ∈ text := by
  rw [toAsciiLowercase, List.mem_map]
  constructor
  · rintro ⟨d, hd, hlower⟩
    rw [toLower_eq hc] at hlower
    exact hlower ▸ hd
  · intro hmem
    exact ⟨c, hmem, (toLower_eq hc).mpr rfl⟩

theorem sealed_lower (h : Sealed '<' '>' text) : Sealed '<' '>' (toAsciiLowercase text) := by
  intro n hn
  rw [toAsciiLowercase, List.getElem?_map, Option.map_eq_some_iff] at hn
  obtain ⟨c, hc, hlower⟩ := hn
  have hless : c = '<' := (toLower_eq (by decide)).mp hlower
  rw [hless] at hc
  rw [toAsciiLowercase, ← List.map_drop]
  exact (mem_lower (by decide)).mpr (h n hc)

theorem plain_lower (h : ∀ c ∈ name, c ∉ nameEnds) : ∀ c ∈ toAsciiLowercase name, c ∉ nameEnds := by
  intro c hc hend
  have hcaseless : ∀ d ∈ nameEnds, caseless d = true :=
    List.all_iff_forall_prop.mp (by decide)
  exact h c ((mem_lower (hcaseless c hend)).mp hc) hend

end Lower

/-! Patterns -/

section Patterns

variable (hplain : ∀ c ∈ tag, c ∉ nameEnds)

include hplain

theorem not_mem_name {c : Char} (hc : c ∈ nameEnds) : c ∉ toAsciiLowercase tag :=
  fun hmem => plain_lower hplain c hmem hc

theorem probe_openTag : Probe '<' '>' (openTag tag) where
  head := rfl
  inner := by
    have hname := not_mem_name hplain (c := '>') (by decide)
    rw [openTag, ← List.cons_append, List.dropLast_concat]
    simp [hname]

theorem probe_openTagWithAttributes : Probe '<' '>' (openTagWithAttributes tag) where
  head := rfl
  inner := by
    have hname := not_mem_name hplain (c := '>') (by decide)
    rw [openTagWithAttributes, ← List.cons_append, List.dropLast_concat]
    simp [hname]

theorem probe_openPrefix : Probe '<' '>' (openPrefix tag) where
  head := rfl
  inner := by
    have hname := not_mem_name hplain (c := '>') (by decide)
    intro hmem
    have hall := List.mem_of_mem_dropLast hmem
    simp [openPrefix, hname] at hall

theorem probe_closeTag : Probe '<' '>' (closeTag tag) where
  head := rfl
  inner := by
    have hname := not_mem_name hplain (c := '>') (by decide)
    rw [closeTag, ← List.cons_append, ← List.cons_append, List.dropLast_concat]
    simp [hname]

end Patterns

/-! The next end of a tag -/

section TagEnd

theorem behindTagEnd_eq : behindTagEnd lower n = some start ↔
    ∃ offset, indexOf ['>'] (lower.drop n) = some offset ∧ start = n + offset + 1 := by
  rw [behindTagEnd, Option.map_eq_some_iff]
  simp only [eq_comm]

/-- From an earlier index the next end is no later. -/
theorem behindTagEnd_le (h : behindTagEnd lower n = some start) (hle : m ≤ n) :
    ∃ first ≤ start, behindTagEnd lower m = some first := by
  obtain ⟨offset, hoffset, rfl⟩ := behindTagEnd_eq.mp h
  obtain ⟨hoccurs, -⟩ := (indexOf_eq_some (List.cons_ne_nil _ _)).mp hoffset
  rw [occursAt_drop] at hoccurs
  obtain ⟨k, rfl⟩ := Nat.exists_eq_add_of_le hle
  rw [Nat.add_assoc, ← occursAt_drop] at hoccurs
  cases hfound : indexOf ['>'] (lower.drop m) with
  | none => exact absurd hoccurs ((indexOf_eq_none (List.cons_ne_nil _ _)).mp hfound _)
  | some found =>
    obtain ⟨-, hfirst⟩ := (indexOf_eq_some (List.cons_ne_nil _ _)).mp hfound
    have hle' : found ≤ k + offset := Nat.not_lt.mp fun hlt => hfirst _ hlt hoccurs
    exact ⟨m + found + 1, by omega, behindTagEnd_eq.mpr ⟨found, hfound, rfl⟩⟩

end TagEnd

/-! An element behind a sealed text -/

/-- A text with an element of a name in it, all in lower case. -/
structure Shown (tag before rest content trailing after : List Char) : Prop where
  plain : ∀ c ∈ tag, c ∉ nameEnds
  clear : Sealed '<' '>' before
  unopened : '<' ∉ rest
  inside : Sealed '<' '>' content
  blank : ∀ c ∈ trailing, c ∈ blanks

section Element

variable {before rest content trailing after : List Char}

/-- The opening tag without its first mark. -/
def openBody (tag rest : List Char) : List Char := toAsciiLowercase tag ++ rest ++ ['>']

def closeBody (tag trailing : List Char) : List Char :=
  '/' :: (toAsciiLowercase tag ++ trailing) ++ ['>']

def shownText (tag before rest content trailing after : List Char) : List Char :=
  before ++ ('<' :: openBody tag rest ++
    (content ++ ('<' :: closeBody tag trailing ++ after)))

/-- Where the content starts. -/
def contentStart (tag before rest : List Char) : ℕ :=
  before.length + (openBody tag rest).length + 1

theorem length_openBody : (openBody tag rest).length = tag.length + rest.length + 1 := by
  simp [openBody, toAsciiLowercase]
  omega

theorem drop_contentStart :
    (shownText tag before rest content trailing after).drop (contentStart tag before rest) =
      content ++ ('<' :: closeBody tag trailing ++ after) := by
  have hlength : contentStart tag before rest = (before ++ '<' :: openBody tag rest).length := by
    simp [contentStart]
    omega
  rw [shownText, ← List.append_assoc, hlength, List.drop_left]

variable (h : Shown tag before rest content trailing after)

include h

theorem Shown.unopened_body : '<' ∉ openBody tag rest := by
  have hname := not_mem_name h.plain (c := '<') (by decide)
  simp [openBody, hname, h.unopened]

/-- The end of a tag that is looked for from inside what stands before is found there. -/
theorem Shown.behindTagEnd_before (hn : before[n]? = some '<') :
    ∃ first ≤ before.length,
      behindTagEnd (shownText tag before rest content trailing after) n = some first := by
  have hlt := (List.getElem?_eq_some_iff.mp hn).1
  obtain ⟨offset, hoffset, hfound⟩ : ∃ offset < (before.drop n).length,
      indexOf ['>'] (before.drop n ++ ('<' :: openBody tag rest ++
        (content ++ ('<' :: closeBody tag trailing ++ after)))) = some offset :=
    indexOf_last_inside (h.clear n hn)
  rw [List.length_drop] at hoffset
  refine ⟨n + offset + 1, by omega, behindTagEnd_eq.mpr ⟨offset, ?_, rfl⟩⟩
  rw [shownText, List.drop_append_of_le_length (by omega), hfound]

/-- The end of the opening tag is the next one where the tag holds no other. -/
theorem Shown.behindTagEnd_open :
    behindTagEnd (shownText tag before rest content trailing after) before.length =
      some (contentStart tag before rest) ↔ '>' ∉ rest := by
  have hname := not_mem_name h.plain (c := '>') (by decide)
  have hdrop : (shownText tag before rest content trailing after).drop before.length =
      '<' :: (toAsciiLowercase tag ++ rest) ++
        '>' :: (content ++ ('<' :: closeBody tag trailing ++ after)) := by
    rw [shownText, List.drop_left]
    simp [openBody]
  have hlength : ('<' :: (toAsciiLowercase tag ++ rest)).length = (openBody tag rest).length := by
    simp [openBody]
    omega
  rw [behindTagEnd_eq, hdrop]
  constructor
  · rintro ⟨offset, hoffset, hstart⟩
    have hoffset' : offset = ('<' :: (toAsciiLowercase tag ++ rest)).length := by
      rw [hlength]
      unfold contentStart at hstart
      omega
    rw [hoffset', indexOf_last_end] at hoffset
    exact fun hmem => hoffset (by simp [hmem])
  · intro hrest
    refine ⟨('<' :: (toAsciiLowercase tag ++ rest)).length, ?_, ?_⟩
    · rw [indexOf_last_end]
      simp [hname, hrest]
    · rw [hlength, contentStart]

/-- What the search with the exact opening tag finds in front of the content. -/
theorem Shown.openTag_start (n : ℕ)
    (hfound : indexOf (openTag tag) (shownText tag before rest content trailing after) = some n) :
    n + (openTag tag).length = contentStart tag before rest ↔
      rest = [] ∧ Free (openTag tag) before := by
  have hprobe := probe_openTag h.plain
  have hpattern : (openTag tag).length = tag.length + 2 := by simp [openTag, toAsciiLowercase]
  have hbody := @length_openBody tag rest
  constructor
  · intro hstart
    have hoccurs := ((indexOf_eq_some hprobe.ne_nil).mp hfound).1
    rcases hprobe.occursAt_cases h.clear h.unopened_body hoccurs with hinside | rfl | hbehind
    · have hle := hinside.le_length hprobe.ne_nil
      unfold contentStart at hstart
      omega
    · refine ⟨List.length_eq_zero_iff.mp ?_, ((hprobe.indexOf_behind h.clear).mp hfound).1⟩
      unfold contentStart at hstart
      omega
    · unfold contentStart at hstart
      omega
  · rintro ⟨rfl, hfree⟩
    have hbegin : openTag tag <+: '<' :: openBody tag [] ++
        (content ++ ('<' :: closeBody tag trailing ++ after)) :=
      ⟨content ++ ('<' :: closeBody tag trailing ++ after), by simp [openTag, openBody]⟩
    have hbefore := (hprobe.indexOf_behind h.clear).mpr ⟨hfree, hbegin⟩
    rw [shownText, hbefore] at hfound
    cases hfound
    rw [contentStart, hbody, hpattern, List.length_nil]
    omega

/-- What the search for a start of the tag and its end finds in front of the content. -/
theorem Shown.opening_start {pattern : List Char} (hprobe : Probe '<' '>' pattern) :
    ((indexOf pattern (shownText tag before rest content trailing after)).bind
      (behindTagEnd (shownText tag before rest content trailing after))) =
        some (contentStart tag before rest) ↔
      Free pattern before ∧ pattern <+: '<' :: openBody tag rest ++
        (content ++ ('<' :: closeBody tag trailing ++ after)) ∧ '>' ∉ rest := by
  rw [Option.bind_eq_some_iff]
  constructor
  · rintro ⟨n, hfound, hend⟩
    have hoccurs := ((indexOf_eq_some hprobe.ne_nil).mp hfound).1
    rcases hprobe.occursAt_cases h.clear h.unopened_body hoccurs with hinside | rfl | hbehind
    · obtain ⟨first, hfirst, hend'⟩ := h.behindTagEnd_before (hprobe.getElem hinside)
      rw [hend', Option.some.injEq] at hend
      unfold contentStart at hend
      omega
    · obtain ⟨hfree, hbegin⟩ := (hprobe.indexOf_behind h.clear).mp hfound
      exact ⟨hfree, hbegin, h.behindTagEnd_open.mp hend⟩
    · obtain ⟨offset, -, hstart⟩ := behindTagEnd_eq.mp hend
      unfold contentStart at hstart
      omega
  · rintro ⟨hfree, hbegin, hrest⟩
    exact ⟨before.length, (hprobe.indexOf_behind h.clear).mpr ⟨hfree, hbegin⟩,
      h.behindTagEnd_open.mpr hrest⟩

/-- The closing tag is found where the content ends. -/
theorem Shown.closed :
    closedRange (shownText tag before rest content trailing after) tag
        (contentStart tag before rest) =
      some (contentStart tag before rest, contentStart tag before rest + content.length) ↔
      Free (closeTag tag) content ∧ trailing = [] := by
  have hprobe := probe_closeTag h.plain
  have hbegin : closeTag tag <+: '<' :: closeBody tag trailing ++ after ↔ trailing = [] := by
    have hcancel : closeTag tag <+: '<' :: closeBody tag trailing ++ after ↔
        ['>'] <+: trailing ++ '>' :: after := by
      simp [closeTag, closeBody, List.prefix_append_right_inj]
    rw [hcancel]
    cases trailing with
    | nil => simp
    | cons c trailing =>
      have hc := h.blank c List.mem_cons_self
      have hne : '>' ≠ c := by
        rintro rfl
        exact absurd hc (by decide)
      simp [hne]
  rw [closedRange, drop_contentStart, Option.map_eq_some_iff]
  constructor
  · rintro ⟨offset, hfound, hrange⟩
    have hoffset : offset = content.length := by
      have hsecond := congrArg Prod.snd hrange
      exact Nat.add_left_cancel hsecond
    rw [hoffset, hprobe.indexOf_behind h.inside, hbegin] at hfound
    exact hfound
  · intro hclosed
    refine ⟨content.length, ?_, rfl⟩
    rw [hprobe.indexOf_behind h.inside, hbegin]
    exact hclosed

/-- The exact opening tag, or the one with attributes behind a single blank where the exact one
is nowhere. -/
theorem Shown.tagStart :
    tagStart (shownText tag before rest content trailing after) tag =
        some (contentStart tag before rest) ↔
      (rest = [] ∧ Free (openTag tag) before) ∨
      ((∃ attributes, rest = ' ' :: attributes ∧ '>' ∉ attributes) ∧
        Free (openTagWithAttributes tag) before ∧
        Free (openTag tag) (shownText tag before rest content trailing after)) := by
  have hprobe := probe_openTag h.plain
  have hattributes : openTagWithAttributes tag <+: '<' :: openBody tag rest ++
      (content ++ ('<' :: closeBody tag trailing ++ after)) ↔ ∃ attributes, rest = ' ' :: attributes := by
    have hcancel : openTagWithAttributes tag <+: '<' :: openBody tag rest ++
        (content ++ ('<' :: closeBody tag trailing ++ after)) ↔
          [' '] <+: rest ++ '>' :: (content ++ ('<' :: closeBody tag trailing ++ after)) := by
      simp [openTagWithAttributes, openBody, List.prefix_append_right_inj]
    rw [hcancel]
    cases rest with
    | nil => simp
    | cons c rest => simp [eq_comm]
  unfold Cached.tagStart
  cases hfound : indexOf (openTag tag) (shownText tag before rest content trailing after) with
  | some n =>
    have hopened : ¬ Free (openTag tag) (shownText tag before rest content trailing after) :=
      fun hfree => hfree n ((indexOf_eq_some hprobe.ne_nil).mp hfound).1
    rw [Option.map_some, Option.some_or, Option.some.injEq, h.openTag_start n hfound]
    constructor
    · exact .inl
    · rintro (hexact | ⟨-, -, hfree⟩)
      · exact hexact
      · exact absurd hfree hopened
  | none =>
    have hfree : Free (openTag tag) (shownText tag before rest content trailing after) :=
      (indexOf_eq_none hprobe.ne_nil).mp hfound
    rw [Option.map_none, Option.none_or,
      h.opening_start (probe_openTagWithAttributes h.plain), hattributes]
    constructor
    · rintro ⟨hbefore, ⟨attributes, rfl⟩, hrest⟩
      exact .inr ⟨⟨attributes, rfl, fun hmem => hrest (List.mem_cons_of_mem _ hmem)⟩, hbefore, hfree⟩
    · rintro (⟨rfl, -⟩ | ⟨⟨attributes, rfl, hrest⟩, hbefore, -⟩)
      · refine absurd ?_ (hfree before.length)
        rw [OccursAt, shownText, List.drop_left]
        exact ⟨content ++ ('<' :: closeBody tag trailing ++ after), by simp [openTag, openBody]⟩
      · exact ⟨hbefore, ⟨attributes, rfl⟩, by simp [hrest]⟩

theorem Shown.sectionStart :
    ((indexOf (openPrefix tag) (shownText tag before rest content trailing after)).bind
      (behindTagEnd (shownText tag before rest content trailing after))) =
        some (contentStart tag before rest) ↔ Free (openPrefix tag) before ∧ '>' ∉ rest := by
  have hbegin : openPrefix tag <+: '<' :: openBody tag rest ++
      (content ++ ('<' :: closeBody tag trailing ++ after)) :=
    ⟨rest ++ '>' :: (content ++ ('<' :: closeBody tag trailing ++ after)),
      by simp [openPrefix, openBody]⟩
  rw [h.opening_start (probe_openPrefix h.plain)]
  constructor
  · rintro ⟨hbefore, -, hrest⟩
    exact ⟨hbefore, hrest⟩
  · rintro ⟨hbefore, hrest⟩
    exact ⟨hbefore, hbegin, hrest⟩

end Element

/-! Nothing to cut -/

section Missing

/-- A range ends with its closing tag, so its start is the start that was looked for. -/
theorem closedRange_start {start' stop : ℕ}
    (hrange : closedRange lower tag start = some (start', stop)) : start = start' := by
  rw [closedRange, Option.map_eq_some_iff] at hrange
  obtain ⟨offset, -, hpair⟩ := hrange
  exact congrArg Prod.fst hpair

theorem closedRange_eq_none : closedRange lower tag start = none ↔
    ∀ n, start ≤ n → ¬ OccursAt (closeTag tag) lower n := by
  have hpattern : closeTag tag ≠ [] := List.cons_ne_nil _ _
  rw [closedRange, Option.map_eq_none_iff, indexOf_eq_none hpattern]
  simp only [occursAt_drop]
  constructor
  · intro hnone n hle
    obtain ⟨k, rfl⟩ := Nat.exists_eq_add_of_le hle
    exact hnone k
  · intro hnone k
    exact hnone (start + k) (Nat.le_add_right _ _)

/-- Behind an opening tag, as the search for a text accepts it. -/
def Opens (lower tag : List Char) (start : ℕ) : Prop :=
  (∃ n, OccursAt (openTag tag) lower n ∧ start = n + (openTag tag).length) ∨
    (Free (openTag tag) lower ∧ ∃ n, OccursAt (openTagWithAttributes tag) lower n ∧
      behindTagEnd lower n = some start)

/-- Behind an opening tag, as the search for a section accepts it. -/
def OpensSection (lower tag : List Char) (start : ℕ) : Prop :=
  ∃ n, OccursAt (openPrefix tag) lower n ∧ behindTagEnd lower n = some start

/-- The first occurrence of a pattern has an end of its tag, and no later one has an earlier. -/
theorem first_opening {pattern : List Char} (hpattern : pattern ≠ [])
    (hoccurs : OccursAt pattern lower n) (hend : behindTagEnd lower n = some start) :
    ∃ first ≤ start, (indexOf pattern lower).bind (behindTagEnd lower) = some first := by
  cases hfound : indexOf pattern lower with
  | none => exact absurd hoccurs ((indexOf_eq_none hpattern).mp hfound n)
  | some found =>
    have hle : found ≤ n := Nat.not_lt.mp fun hlt =>
      ((indexOf_eq_some hpattern).mp hfound).2 n hlt hoccurs
    exact behindTagEnd_le hend hle

theorem bind_opening {pattern : List Char} (hpattern : pattern ≠ [])
    (hfound : (indexOf pattern lower).bind (behindTagEnd lower) = some start) :
    ∃ n, OccursAt pattern lower n ∧ behindTagEnd lower n = some start := by
  obtain ⟨n, hn, hend⟩ := Option.bind_eq_some_iff.mp hfound
  exact ⟨n, ((indexOf_eq_some hpattern).mp hn).1, hend⟩

theorem sectionRange_eq_none :
    sectionRange text tag = none ↔
      ∀ start n, OpensSection (toAsciiLowercase text) tag start → start ≤ n →
        ¬ OccursAt (closeTag tag) (toAsciiLowercase text) n := by
  have hpattern : openPrefix tag ≠ [] := List.cons_ne_nil _ _
  unfold sectionRange
  constructor
  · rintro hnone start n ⟨m, hoccurs, hend⟩ hle
    obtain ⟨first, hfirst, hstart⟩ := first_opening hpattern hoccurs hend
    simp only [hstart, Option.bind_some] at hnone
    exact closedRange_eq_none.mp hnone n (hfirst.trans hle)
  · intro hnone
    rw [Option.bind_eq_none_iff]
    intro start hstart
    exact closedRange_eq_none.mpr fun n hle => hnone start n (bind_opening hpattern hstart) hle

theorem tagRange_eq_none :
    tagRange text tag = none ↔
      ∀ start n, Opens (toAsciiLowercase text) tag start → start ≤ n →
        ¬ OccursAt (closeTag tag) (toAsciiLowercase text) n := by
  have hexact : openTag tag ≠ [] := List.cons_ne_nil _ _
  have hattributes : openTagWithAttributes tag ≠ [] := List.cons_ne_nil _ _
  unfold tagRange Cached.tagStart
  cases hfound : indexOf (openTag tag) (toAsciiLowercase text) with
  | some found =>
    obtain ⟨hoccurs, hfirst⟩ := (indexOf_eq_some hexact).mp hfound
    simp only [hfound, Option.map_some, Option.some_or, Option.bind_some, closedRange_eq_none]
    constructor
    · rintro hnone start n (⟨m, hm, rfl⟩ | ⟨hfree, -⟩) hle
      · have hfoundle : found ≤ m := Nat.not_lt.mp fun hlt => hfirst m hlt hm
        exact hnone n (by omega)
      · exact absurd hoccurs (hfree found)
    · intro hnone n hle
      exact hnone _ n (.inl ⟨found, hoccurs, rfl⟩) hle
  | none =>
    have hfree : Free (openTag tag) (toAsciiLowercase text) := (indexOf_eq_none hexact).mp hfound
    simp only [hfound, Option.map_none, Option.none_or]
    constructor
    · rintro hnone start n (⟨m, hm, -⟩ | ⟨-, m, hm, hend⟩) hle
      · exact absurd hm (hfree m)
      · obtain ⟨first, hfirst, hstart⟩ := first_opening hattributes hm hend
        rw [hstart, Option.bind_some] at hnone
        exact closedRange_eq_none.mp hnone n (hfirst.trans hle)
    · intro hnone
      rw [Option.bind_eq_none_iff]
      intro start hstart
      exact closedRange_eq_none.mpr fun n hle =>
        hnone start n (.inr ⟨hfree, bind_opening hattributes hstart⟩) hle

end Missing

end GreenBubbles.Cached
