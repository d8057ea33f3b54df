import GreenBubbles.Cached.Elements

/-! # Counting elements

The loop over the starts of a tag counts the places where a tag of the name opens.
These are the elements of the name and what looks like one in an enclosed section.
-/
namespace GreenBubbles.Cached

open Library.Search Library.Probing Library.Markup
open NestedXml (toAsciiLowercase caseless toLower_eq)

variable {tag text rest : List Char} {n : ℕ}

/-- A tag of the name, all of it, is opened at the start of a text. -/
def opensTag (tag rest : List Char) : Bool :=
  (openPrefix tag).isPrefixOf rest &&
    (rest.drop (openPrefix tag).length).head?.any (tagDelimiters.contains ·)

def openings (tag text : List Char) : ℕ :=
  (List.range text.length).countP fun n => opensTag tag (text.drop n)

theorem opensTag_iff : opensTag tag (text.drop n) = true ↔
    ∃ d ∈ tagDelimiters, OccursAt (openPrefix tag ++ [d]) text n := by
  rw [opensTag, Bool.and_eq_true, List.isPrefixOf_iff_prefix, Option.any_eq_true]
  constructor
  · rintro ⟨⟨more, hmore⟩, d, hd, hdelimiter⟩
    refine ⟨d, by simpa using hdelimiter, ?_⟩
    rw [← hmore, List.drop_left] at hd
    obtain ⟨tail, rfl⟩ := List.head?_eq_some_iff.mp hd
    exact ⟨tail, by simpa using hmore⟩
  · rintro ⟨d, hd, tail, htail⟩
    rw [List.append_assoc] at htail
    refine ⟨⟨_, htail⟩, d, ?_, by simpa using hd⟩
    rw [← htail, List.drop_left]
    rfl

section Openings

variable (hplain : ∀ c ∈ tag, c ∉ nameEnds)

theorem openings_cons (c : Char) : openings tag (c :: text) =
    (if opensTag tag (c :: text) then 1 else 0) + openings tag text := by
  rw [openings, List.length_cons, List.range_succ_eq_map, List.countP_cons, List.countP_map,
    Nat.add_comm]
  rfl

theorem openings_drop (h : ∀ m < n, opensTag tag (text.drop m) = false) :
    openings tag text = openings tag (text.drop n) := by
  induction n generalizing text with
  | zero => rfl
  | succ n ih =>
    cases text with
    | nil => rfl
    | cons c text =>
      have hfirst : opensTag tag (c :: text) = false := h 0 (Nat.succ_pos n)
      rw [openings_cons, hfirst, List.drop_succ_cons, ← ih fun m hm => h (m + 1) (by omega)]
      exact Nat.zero_add _

theorem opensTag_head (h : opensTag tag rest = true) : rest.head? = some '<' := by
  rw [opensTag, Bool.and_eq_true, List.isPrefixOf_iff_prefix] at h
  obtain ⟨more, rfl⟩ := h.1
  rfl

include hplain

theorem probe_delimited (d : Char) : Probe '<' '>' (openPrefix tag ++ [d]) where
  head := rfl
  inner := by
    have hname := not_mem_name hplain (c := '>') (by decide)
    rw [List.dropLast_concat]
    simp [openPrefix, hname]

theorem openings_append (hsealed : Sealed '<' '>' text) :
    openings tag (text ++ rest) = openings tag text + openings tag rest := by
  have hfront : ∀ n ∈ List.range text.length,
      opensTag tag ((text ++ rest).drop n) = true ↔ opensTag tag (text.drop n) = true := by
    intro n hn
    rw [opensTag_iff, opensTag_iff]
    constructor
    · rintro ⟨d, hd, hoccurs⟩
      exact ⟨d, hd, (probe_delimited hplain d).fits hsealed (List.mem_range.mp hn) hoccurs⟩
    · rintro ⟨d, hd, hoccurs⟩
      exact ⟨d, hd, ((probe_delimited hplain d).occursAt_append hsealed).mpr (.inl hoccurs)⟩
  have hback : ∀ m, (text ++ rest).drop (text.length + m) = rest.drop m := by
    intro m
    rw [List.drop_append, List.drop_of_length_le (by omega), List.nil_append,
      Nat.add_sub_cancel_left]
  rw [openings, List.length_append, List.range_add, List.countP_append, List.countP_map,
    List.countP_congr hfront]
  simp only [Function.comp_def, hback]
  rfl

/-- The loop counts the openings. -/
theorem countFrom_openings {rounds : ℕ} (h : rest.length < rounds) :
    countFrom tag rounds rest = openings tag rest := by
  induction rounds generalizing rest with
  | zero => exact absurd h (Nat.not_lt_zero _)
  | succ rounds ih =>
    have hprobe := probe_openPrefix hplain
    rw [countFrom]
    cases hfound : indexOf (openPrefix tag) rest with
    | none =>
      have hfree := (indexOf_eq_none hprobe.ne_nil).mp hfound
      have hnone : openings tag rest = 0 := by
        rw [openings, List.countP_eq_zero]
        intro n _ hopens
        rw [opensTag, Bool.and_eq_true, List.isPrefixOf_iff_prefix] at hopens
        exact hfree n hopens.1
      exact hnone.symm
    | some offset =>
      obtain ⟨hoccurs, hfirst⟩ := (indexOf_eq_some hprobe.ne_nil).mp hfound
      have hinside' := hoccurs.le_length hprobe.ne_nil
      obtain ⟨more, hmore⟩ := hoccurs
      have hbefore : ∀ m < offset, opensTag tag (rest.drop m) = false := by
        intro m hm
        rw [← Bool.not_eq_true, opensTag, Bool.and_eq_true, List.isPrefixOf_iff_prefix]
        exact fun hopens => hfirst m hm hopens.1
      have hinside : ∀ m < tag.length,
          opensTag tag ((toAsciiLowercase tag ++ more).drop m) = false := by
        intro m hm
        rw [← Bool.not_eq_true]
        intro hopens
        have hhead := opensTag_head hopens
        rw [List.head?_drop, List.getElem?_append_left (by simpa using hm)] at hhead
        exact not_mem_name hplain (by decide) (List.mem_of_getElem? hhead)
      have hbehind : (toAsciiLowercase tag ++ more).drop tag.length = more :=
        List.drop_left' (by simp)
      have hdrop : rest.drop (offset + (openPrefix tag).length) = more := by
        rw [← List.drop_drop, ← hmore, List.drop_left]
      have hlength : more.length < rounds := by
        have hle := congrArg List.length hdrop
        rw [List.length_drop] at hle
        rw [openPrefix, List.length_cons] at hle hinside'
        omega
      have hopens : opensTag tag (openPrefix tag ++ more) =
          more.head?.any (tagDelimiters.contains ·) := by
        rw [opensTag, List.drop_left, List.isPrefixOf_iff_prefix.mpr (List.prefix_append _ _),
          Bool.true_and]
      rw [openings_drop hbefore, ← hmore]
      simp only [hdrop, ih hlength]
      rw [openPrefix, List.cons_append, openings_cons, ← List.cons_append, ← openPrefix, hopens,
        openings_drop hinside, hbehind]

end Openings

/-! The openings of a document -/

section Nodes

variable (tag : List Char)

mutual

/-- What the loop counts inside of enclosed sections. -/
def hiddenCount : Node → ℕ
  | .text _ => 0
  | .enclosed enclosed => countOpenTags enclosed.written tag
  | .empty _ => 0
  | .element _ children _ => hiddenCountAll children

def hiddenCountAll : List Node → ℕ
  | [] => 0
  | node :: nodes => hiddenCount node + hiddenCountAll nodes

end

variable {tag} (hplain : ∀ c ∈ tag, c ∉ nameEnds)

theorem openings_unopened (h : '<' ∉ text) : openings tag text = 0 := by
  rw [openings, List.countP_eq_zero]
  intro n _ hopens
  have hhead := opensTag_head hopens
  rw [List.head?_drop] at hhead
  exact h (List.mem_of_getElem? hhead)

/-- Up to the first delimiter a name is itself. -/
theorem takeWhile_name {name : List Char} {d : Char} (hname : ∀ c ∈ name, c ∉ nameEnds)
    (hd : d ∈ tagDelimiters) (rest : List Char) :
    (toAsciiLowercase name ++ d :: rest).takeWhile (!tagDelimiters.contains ·) =
      toAsciiLowercase name := by
  have hend : ∀ d ∈ tagDelimiters, d ∈ nameEnds :=
    List.all_iff_forall_prop.mp (by decide)
  have hinside : ∀ c ∈ toAsciiLowercase name, (!tagDelimiters.contains c) = true := by
    intro c hc
    have hplain := fun hmem => plain_lower hname c hc (hend c hmem)
    simpa using hplain
  rw [List.takeWhile_append_of_pos hinside, List.takeWhile_cons_of_neg (by simpa using hd),
    List.append_nil]

/-- A tag opens the name it has, where a delimiter follows it. -/
theorem opensTag_name {name : List Char} {d : Char} (htag : ∀ c ∈ tag, c ∉ nameEnds)
    (hname : ∀ c ∈ name, c ∉ nameEnds) (hd : d ∈ tagDelimiters) :
    opensTag tag ('<' :: (toAsciiLowercase name ++ d :: rest)) = named tag name := by
  have hopens := @opensTag_iff tag ('<' :: (toAsciiLowercase name ++ d :: rest)) 0
  rw [List.drop_zero] at hopens
  rw [Bool.eq_iff_iff, named, beq_iff_eq, hopens]
  constructor
  · rintro ⟨e, he, more, hmore⟩
    have htext : toAsciiLowercase tag ++ e :: more = toAsciiLowercase name ++ d :: rest := by
      simpa [openPrefix] using hmore
    have htag' := takeWhile_name htag he more
    rw [htext, takeWhile_name hname hd rest] at htag'
    exact htag'
  · intro hsame
    exact ⟨d, hd, rest, by simp [openPrefix, hsame]⟩

/-- The first mark of a tag is its only one. -/
theorem openings_tag {name : List Char} {d : Char} (htag : ∀ c ∈ tag, c ∉ nameEnds)
    (hname : ∀ c ∈ name, c ∉ nameEnds) (hd : d ∈ tagDelimiters)
    (hrest : '<' ∉ toAsciiLowercase name ++ d :: rest) :
    openings tag ('<' :: (toAsciiLowercase name ++ d :: rest)) =
      if named tag name = true then 1 else 0 := by
  rw [openings_cons, opensTag_name htag hname hd, openings_unopened hrest, Nat.add_zero]

include hplain

theorem openings_open (node : Tag) (ending : List Char) (hending : '<' ∉ ending)
    (hhead : ∃ d ∈ tagDelimiters, ∃ more, ending = d :: more) :
    openings tag (toAsciiLowercase ('<' :: (node.name ++ node.rest ++ ending))) =
      if named tag node.name = true then 1 else 0 := by
  have hblank : ∀ b ∈ blanks, b ∈ tagDelimiters ∧ b.toLower = b :=
    List.all_iff_forall_prop.mp (by decide)
  have hkept : ∀ d ∈ tagDelimiters, d.toLower = d :=
    List.all_iff_forall_prop.mp (by decide)
  have hless : '<'.toLower = '<' := by decide
  have hfree : '<' ∉ toAsciiLowercase (node.name ++ (node.rest ++ ending)) := by
    intro hmem
    have hplace := (mem_lower (by decide)).mp hmem
    rw [List.mem_append, List.mem_append] at hplace
    rcases hplace with hname | hrest | hend
    · exact node.plain _ hname (by decide)
    · exact node.unopened hrest
    · exact hending hend
  obtain ⟨d, hd, more, hmore⟩ : ∃ d ∈ tagDelimiters, ∃ more,
      toAsciiLowercase (node.rest ++ ending) = d :: more := by
    cases hrest : node.rest with
    | nil =>
      obtain ⟨d, hd, more, rfl⟩ := hhead
      exact ⟨d, hd, toAsciiLowercase more, by rw [List.nil_append, lower_cons, hkept d hd]⟩
    | cons b rest =>
      have hb := hblank b (node.parted b (by rw [hrest]; rfl))
      exact ⟨b, hb.1, toAsciiLowercase (rest ++ ending),
        by rw [List.cons_append, lower_cons, hb.2]⟩
  rw [List.append_assoc, lower_cons, hless, lower_append, hmore]
  rw [lower_append, hmore] at hfree
  exact openings_tag hplain node.plain hd hfree

theorem openings_close (hne : tag ≠ []) (node : Tag) (trailing : Blank) :
    openings tag (toAsciiLowercase (node.closing trailing)) = 0 := by
  have hbody : '<' ∉ '/' :: (node.name ++ trailing.chars) ++ ['>'] := by
    have hname : '<' ∉ node.name := fun hmem => node.plain _ hmem (by decide)
    have hblank : '<' ∉ trailing.chars := fun hmem => absurd (trailing.blank _ hmem) (by decide)
    simp [hname, hblank]
  have hfree : '<' ∉ toAsciiLowercase ('/' :: (node.name ++ trailing.chars) ++ ['>']) :=
    fun hmem => hbody ((mem_lower (by decide)).mp hmem)
  have hclosed : opensTag tag (toAsciiLowercase (node.closing trailing)) = false := by
    rw [← Bool.not_eq_true, opensTag, Bool.and_eq_true, List.isPrefixOf_iff_prefix]
    rintro ⟨hbegin, -⟩
    cases htag : tag with
    | nil => exact hne htag
    | cons c tag' =>
      rw [htag, openPrefix, lower_cons, Tag.closing, lower_cons, List.cons_append, lower_cons,
        List.cons_prefix_cons, List.cons_prefix_cons] at hbegin
      have hc : '/' ∉ toAsciiLowercase tag := not_mem_name hplain (by decide)
      rw [htag, lower_cons, hbegin.2.1] at hc
      exact hc List.mem_cons_self
  rw [Tag.closing, lower_cons] at hclosed ⊢
  rw [openings_cons, hclosed, openings_unopened hfree]
  rfl

mutual

theorem openings_node (hne : tag ≠ []) : ∀ node : Node, openings tag (toAsciiLowercase (write node)) =
    elementCount (named tag) node + hiddenCount tag node
  | .text text => by
    have hfree : '<' ∉ toAsciiLowercase text.chars :=
      fun hmem => text.unopened ((mem_lower (by decide)).mp hmem)
    rw [write, openings_unopened hfree]
    rfl
  | .enclosed enclosed => by
    rw [write, elementCount, hiddenCount, Nat.zero_add, countOpenTags,
      countFrom_openings hplain (by rw [length_lower]; exact Nat.lt_succ_self _)]
  | .empty node => by
    rw [write, Tag.selfClosing, openings_open hplain node ['/', '>'] (by decide)
      ⟨'/', by decide, ['>'], rfl⟩]
    rfl
  | .element node children trailing => by
    have hopen := openings_open hplain node ['>'] (by decide) ⟨'>', by decide, [], rfl⟩
    rw [write, lower_append, lower_append, openings_append hplain
      ((sealed_lower (sealed_opening node)).append (sealed_lower (sealed_writeAll children))),
      openings_append hplain (sealed_lower (sealed_opening node)), Tag.opening, hopen,
      openings_nodes hne children, openings_close hplain hne, elementCount, hiddenCount]
    omega

theorem openings_nodes (hne : tag ≠ []) : ∀ nodes : List Node,
    openings tag (toAsciiLowercase (writeAll nodes)) =
    elementCountAll (named tag) nodes + hiddenCountAll tag nodes
  | [] => rfl
  | node :: nodes => by
    rw [writeAll, lower_append, openings_append hplain (sealed_lower (sealed_write node)),
      openings_node hne node, openings_nodes hne nodes, elementCountAll, hiddenCountAll]
    omega

end

/-- The loop counts the elements of the name and what it takes for them. -/
theorem countOpenTags_eq (hne : tag ≠ []) (nodes : List Node) :
    countOpenTags (writeAll nodes) tag =
      elementCountAll (named tag) nodes + hiddenCountAll tag nodes := by
  rw [← openings_nodes hplain hne, countOpenTags,
    countFrom_openings hplain (by rw [length_lower]; exact Nat.lt_succ_self _)]

end Nodes

end GreenBubbles.Cached
