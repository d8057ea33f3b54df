import GreenBubbles.Cached.Lookup

/-! # Searches and elements

The first element of a name in a document, in either case, and when the searches for
tags cut out its content.
-/
namespace GreenBubbles.Cached

open Library.Search Library.Probing Library.Markup
open NestedXml (toAsciiLowercase caseless toLower_eq)

variable {nodes : List Node} {tag : List Char} {site : Site} {children : List Node}
  {trailing : Blank}

/-! The elements of a document -/

def named (tag name : List Char) : Bool := toAsciiLowercase name == toAsciiLowercase tag

/-- The first element of the name, where it is written with a content. -/
def contentSite (nodes : List Node) (tag : List Char) : Option (Site × List Node × Blank) :=
  (locateAll (named tag) nodes).bind fun site => site.content.map fun content => (site, content)

def contentOf (nodes : List Node) (tag : List Char) : Option (List Node) :=
  (contentSite nodes tag).map fun found => found.2.1

def siteRange (site : Site) (children : List Node) : ℕ × ℕ :=
  let start := (site.before ++ site.tag.opening).length
  (start, start + (writeAll children).length)

/-- The characters between the tags of the element. -/
def contentRange (nodes : List Node) (tag : List Char) : Option (ℕ × ℕ) :=
  (contentSite nodes tag).map fun found => siteRange found.1 found.2.1

/-! When they are cut out -/

/-- The tag is found by its exact form, or by the form with attributes where the exact form is
nowhere in the document. -/
def OpenedByTag (nodes : List Node) (tag : List Char) (site : Site) : Prop :=
  (site.tag.rest = [] ∧ Free (openTag tag) (toAsciiLowercase site.before)) ∨
    ((∃ attributes, site.tag.rest = ' ' :: attributes ∧ '>' ∉ attributes) ∧
      Free (openTagWithAttributes tag) (toAsciiLowercase site.before) ∧
      Free (openTag tag) (toAsciiLowercase (writeAll nodes)))

/-- The tag is found by its start. -/
def OpenedByPrefix (tag : List Char) (site : Site) : Prop :=
  Free (openPrefix tag) (toAsciiLowercase site.before) ∧ '>' ∉ site.tag.rest

def ClosedFirst (tag : List Char) (children : List Node) (trailing : Blank) : Prop :=
  Free (closeTag tag) (toAsciiLowercase (writeAll children)) ∧ trailing.chars = []

/-- No closing tag is behind an opening one. -/
def Unclosed (opens : List Char → List Char → ℕ → Prop) (text tag : List Char) : Prop :=
  ∀ start n, opens (toAsciiLowercase text) tag start → start ≤ n →
    ¬ OccursAt (closeTag tag) (toAsciiLowercase text) n

def FoundByTag (nodes : List Node) (tag : List Char) : Prop :=
  match contentSite nodes tag with
  | some (site, children, trailing) =>
    OpenedByTag nodes tag site ∧ ClosedFirst tag children trailing
  | none => Unclosed Opens (writeAll nodes) tag

def FoundByPrefix (nodes : List Node) (tag : List Char) : Prop :=
  match contentSite nodes tag with
  | some (site, children, trailing) =>
    OpenedByPrefix tag site ∧ ClosedFirst tag children trailing
  | none => Unclosed OpensSection (writeAll nodes) tag

/-! What is written of the element -/

section Written

@[simp] theorem lower_append (first second : List Char) :
    toAsciiLowercase (first ++ second) = toAsciiLowercase first ++ toAsciiLowercase second :=
  List.map_append

@[simp] theorem lower_cons (c : Char) (text : List Char) :
    toAsciiLowercase (c :: text) = c.toLower :: toAsciiLowercase text := rfl

@[simp] theorem length_lower (text : List Char) : (toAsciiLowercase text).length = text.length :=
  List.length_map _

@[simp] theorem lower_eq_nil {text : List Char} : toAsciiLowercase text = [] ↔ text = [] :=
  List.map_eq_nil_iff

theorem contentSite_within (hseparated : separatedAll nodes = true)
    (h : contentSite nodes tag = some (site, children, trailing)) :
    site.content = some (children, trailing) ∧ site.Within (named tag) (writeAll nodes) := by
  obtain ⟨found, hfound, hcontent⟩ := Option.bind_eq_some_iff.mp h
  obtain ⟨content, hsome, hpair⟩ := Option.map_eq_some_iff.mp hcontent
  cases hpair
  exact ⟨hsome, locateAll_within _ nodes _ hseparated hfound⟩

theorem separated_content (hseparated : separatedAll nodes = true)
    (h : contentOf nodes tag = some children) : separatedAll children = true := by
  obtain ⟨⟨site, content, trailing⟩, hsite, rfl⟩ := Option.map_eq_some_iff.mp h
  obtain ⟨hcontent, hwithin⟩ := contentSite_within hseparated hsite
  exact hwithin.separated _ hcontent

variable (hplain : ∀ c ∈ tag, c ∉ nameEnds) (hseparated : separatedAll nodes = true)
  (h : contentSite nodes tag = some (site, children, trailing))

include hseparated h

theorem written_site : writeAll nodes =
    site.before ++ (site.tag.opening ++ (writeAll children ++
      (site.tag.closing trailing ++ site.after))) := by
  obtain ⟨hcontent, hwithin⟩ := contentSite_within hseparated h
  rw [hwithin.written, Site.element, hcontent]
  simp only [List.append_assoc]

theorem lower_name : toAsciiLowercase site.tag.name = toAsciiLowercase tag :=
  beq_iff_eq.mp (contentSite_within hseparated h).2.named

theorem lower_written : toAsciiLowercase (writeAll nodes) =
    shownText tag (toAsciiLowercase site.before) (toAsciiLowercase site.tag.rest)
      (toAsciiLowercase (writeAll children)) (toAsciiLowercase trailing.chars)
      (toAsciiLowercase site.after) := by
  have hname := lower_name hseparated h
  have hless : '<'.toLower = '<' := by decide
  have hgreater : '>'.toLower = '>' := by decide
  have hslash : '/'.toLower = '/' := by decide
  have hnil : toAsciiLowercase [] = [] := rfl
  rw [written_site hseparated h]
  simp only [shownText, openBody, closeBody, Tag.opening, Tag.closing, lower_append, lower_cons,
    hname, hless, hgreater, hslash, hnil, List.cons_append, List.append_assoc]

theorem start_eq : (siteRange site children).1 =
    contentStart tag (toAsciiLowercase site.before) (toAsciiLowercase site.tag.rest) := by
  have hname := congrArg List.length (lower_name hseparated h)
  simp only [length_lower] at hname
  simp only [siteRange, contentStart, length_openBody, Tag.opening, List.length_append,
    List.length_cons, List.length_nil, length_lower, hname]
  omega

theorem range_eq : siteRange site children =
    (contentStart tag (toAsciiLowercase site.before) (toAsciiLowercase site.tag.rest),
      contentStart tag (toAsciiLowercase site.before) (toAsciiLowercase site.tag.rest) +
        (toAsciiLowercase (writeAll children)).length) := by
  rw [← start_eq hseparated h, length_lower]
  rfl

include hplain

theorem shown_site : Shown tag (toAsciiLowercase site.before) (toAsciiLowercase site.tag.rest)
    (toAsciiLowercase (writeAll children)) (toAsciiLowercase trailing.chars)
    (toAsciiLowercase site.after) where
  plain := hplain
  clear := sealed_lower (contentSite_within hseparated h).2.clear
  unopened := fun hmem => site.tag.unopened ((mem_lower (by decide)).mp hmem)
  inside := sealed_lower (sealed_writeAll children)
  blank := by
    intro c hc
    obtain ⟨d, hd, rfl⟩ := List.mem_map.mp hc
    have hkept : ∀ b ∈ blanks, b.toLower = b :=
      List.all_iff_forall_prop.mp (by decide)
    have hblank := trailing.blank d hd
    rw [hkept d hblank]
    exact hblank

end Written

/-! Searches and contents -/

section Ranges

theorem bind_closedRange {found : Option ℕ} {lower : List Char} {start stop : ℕ} :
    found.bind (closedRange lower tag) = some (start, stop) ↔
      found = some start ∧ closedRange lower tag start = some (start, stop) := by
  rw [Option.bind_eq_some_iff]
  constructor
  · rintro ⟨first, hfound, hrange⟩
    obtain rfl := closedRange_start hrange
    exact ⟨hfound, hrange⟩
  · rintro ⟨hfound, hrange⟩
    exact ⟨start, hfound, hrange⟩

theorem lower_attributes {rest : List Char} :
    (∃ attributes, toAsciiLowercase rest = ' ' :: attributes ∧ '>' ∉ attributes) ↔
      ∃ attributes, rest = ' ' :: attributes ∧ '>' ∉ attributes := by
  constructor
  · rintro ⟨attributes, hrest, hend⟩
    obtain ⟨c, rest, rfl, hc, rfl⟩ := List.map_eq_cons_iff.mp hrest
    rw [toLower_eq (by decide)] at hc
    exact ⟨rest, by rw [hc], fun hmem => hend ((mem_lower (by decide)).mpr hmem)⟩
  · rintro ⟨attributes, rfl, hend⟩
    exact ⟨toAsciiLowercase attributes, rfl, fun hmem => hend ((mem_lower (by decide)).mp hmem)⟩

variable (hplain : ∀ c ∈ tag, c ∉ nameEnds) (hseparated : separatedAll nodes = true)

include hplain hseparated

/-- The search for a text cuts out the content of the element exactly where it finds it. -/
theorem tagRange_iff :
    tagRange (writeAll nodes) tag = contentRange nodes tag ↔ FoundByTag nodes tag := by
  unfold contentRange FoundByTag
  cases hsite : contentSite nodes tag with
  | none => exact tagRange_eq_none
  | some found =>
    obtain ⟨site, children, trailing⟩ := found
    have hshown := shown_site hplain hseparated hsite
    have hlower := lower_written hseparated hsite
    simp only [Option.map_some, range_eq hseparated hsite, OpenedByTag, ClosedFirst]
    unfold tagRange
    simp only [bind_closedRange]
    rw [hlower, hshown.tagStart, hshown.closed, lower_eq_nil, lower_eq_nil, lower_attributes]

/-- The search for a section does, by its own opening. -/
theorem sectionRange_iff :
    sectionRange (writeAll nodes) tag = contentRange nodes tag ↔ FoundByPrefix nodes tag := by
  unfold contentRange FoundByPrefix
  cases hsite : contentSite nodes tag with
  | none => exact sectionRange_eq_none
  | some found =>
    obtain ⟨site, children, trailing⟩ := found
    have hshown := shown_site hplain hseparated hsite
    have hlower := lower_written hseparated hsite
    have hend : '>' ∉ toAsciiLowercase site.tag.rest ↔ '>' ∉ site.tag.rest :=
      not_congr (mem_lower (by decide))
    simp only [Option.map_some, range_eq hseparated hsite, OpenedByPrefix, ClosedFirst]
    unfold sectionRange
    simp only [bind_closedRange]
    rw [hlower, hshown.sectionStart, hshown.closed, lower_eq_nil, hend]

omit hplain

theorem slice_content (hsite : contentSite nodes tag = some (site, children, trailing)) :
    slice (writeAll nodes) (siteRange site children) = writeAll children := by
  rw [written_site hseparated hsite, ← List.append_assoc, slice, siteRange]
  simp only
  rw [List.drop_take, List.drop_left, Nat.add_sub_cancel_left, List.take_left]

/-- Where the range is right, what is cut out is what is written of the content. -/
theorem slice_contentOf {range : Option (ℕ × ℕ)} (h : range = contentRange nodes tag) :
    range.map (slice (writeAll nodes)) = (contentOf nodes tag).map writeAll := by
  rw [h, contentRange, contentOf]
  cases hsite : contentSite nodes tag with
  | none => rfl
  | some found =>
    obtain ⟨site, children, trailing⟩ := found
    simp only [Option.map_some, slice_content hseparated hsite]

end Ranges

end GreenBubbles.Cached
