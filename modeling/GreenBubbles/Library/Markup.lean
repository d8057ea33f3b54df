import GreenBubbles.Library.Probing

/-! # Documents of markup

A document is a tree of texts, enclosed sections and elements, written down the
way XML writes it. What is written of a node is sealed: markup that begins in it
ends in it. An element is looked up by its name, first in document order, with
what is written before and after it.
-/
namespace GreenBubbles.Library.Markup

open Search Probing

def blanks : List Char := [' ', '\t', '\r', '\n']

/-- The characters that are in no name. -/
def nameEnds : List Char := ['<', '>', '/', '!', '?', '=', '&', '"', '\''] ++ blanks

/-- A name and what follows it in the tag. -/
structure Tag where
  name : List Char
  rest : List Char
  named : name ≠ []
  plain : ∀ c ∈ name, c ∉ nameEnds
  unopened : '<' ∉ rest
  parted : ∀ c ∈ rest.head?, c ∈ blanks
  unslashed : rest.getLast? ≠ some '/'

structure Text where
  chars : List Char
  unopened : '<' ∉ chars
  unclosed : Free [']', ']', '>'] chars

inductive Enclosure where
  | cdata
  | comment
  | instruction
  | declaration
  deriving DecidableEq

namespace Enclosure

def opener : Enclosure → List Char
  | .cdata => ['<', '!', '[', 'C', 'D', 'A', 'T', 'A', '[']
  | .comment => ['<', '!', '-', '-']
  | .instruction => ['<', '?']
  | .declaration => ['<', '!', 'D', 'O', 'C', 'T', 'Y', 'P', 'E']

def closer : Enclosure → List Char
  | .cdata => [']', ']', '>']
  | .comment => ['-', '-', '>']
  | .instruction => ['?', '>']
  | .declaration => ['>']

theorem opener_head (kind : Enclosure) : ∃ tail, kind.opener = '<' :: tail := by
  cases kind <;> exact ⟨_, rfl⟩

theorem closer_last (kind : Enclosure) : ∃ init, kind.closer = init ++ ['>'] := by
  cases kind
  · exact ⟨[']', ']'], rfl⟩
  · exact ⟨['-', '-'], rfl⟩
  · exact ⟨['?'], rfl⟩
  · exact ⟨[], rfl⟩

end Enclosure

/-- An enclosed section ends at the first closer; a declaration may hold declarations. -/
structure Enclosed where
  kind : Enclosure
  chars : List Char
  closed : kind ≠ .declaration → indexOf kind.closer (chars ++ kind.closer) = some chars.length

structure Blank where
  chars : List Char
  blank : ∀ c ∈ chars, c ∈ blanks

inductive Node where
  | text (text : Text)
  | enclosed (enclosed : Enclosed)
  | empty (tag : Tag)
  | element (tag : Tag) (children : List Node) (trailing : Blank)

def Node.isText : Node → Bool
  | .text _ => true
  | .enclosed _ => false
  | .empty _ => false
  | .element _ _ _ => false

mutual

/-- No two texts are next to each other. -/
def separated : Node → Bool
  | .text _ => true
  | .enclosed _ => true
  | .empty _ => true
  | .element _ children _ => separatedAll children

def separatedAll : List Node → Bool
  | [] => true
  | node :: nodes =>
    separated node && separatedAll nodes && !(node.isText && nodes.head?.any Node.isText)

end

/-- A document that can be read in one way only. -/
structure Document where
  nodes : List Node
  separated : separatedAll nodes = true

/-! Writing -/

def Tag.opening (tag : Tag) : List Char := '<' :: (tag.name ++ tag.rest ++ ['>'])

def Tag.selfClosing (tag : Tag) : List Char := '<' :: (tag.name ++ tag.rest ++ ['/', '>'])

def Tag.closing (tag : Tag) (trailing : Blank) : List Char :=
  '<' :: ('/' :: (tag.name ++ trailing.chars) ++ ['>'])

def Enclosed.written (enclosed : Enclosed) : List Char :=
  enclosed.kind.opener ++ enclosed.chars ++ enclosed.kind.closer

mutual

def write : Node → List Char
  | .text text => text.chars
  | .enclosed enclosed => enclosed.written
  | .empty tag => tag.selfClosing
  | .element tag children trailing => tag.opening ++ writeAll children ++ tag.closing trailing

def writeAll : List Node → List Char
  | [] => []
  | node :: nodes => write node ++ writeAll nodes

end

theorem sealed_opening (tag : Tag) : Sealed '<' '>' tag.opening :=
  sealed_concat ('<' :: (tag.name ++ tag.rest))

theorem sealed_closing (tag : Tag) (trailing : Blank) : Sealed '<' '>' (tag.closing trailing) :=
  sealed_concat ('<' :: ('/' :: (tag.name ++ trailing.chars)))

theorem sealed_selfClosing (tag : Tag) : Sealed '<' '>' tag.selfClosing := by
  have hend : tag.selfClosing = '<' :: (tag.name ++ tag.rest ++ ['/']) ++ ['>'] := by
    simp [Tag.selfClosing]
  rw [hend]
  exact sealed_concat _

theorem sealed_written (enclosed : Enclosed) : Sealed '<' '>' enclosed.written := by
  obtain ⟨init, hinit⟩ := enclosed.kind.closer_last
  rw [Enclosed.written, hinit, ← List.append_assoc]
  exact sealed_concat _

mutual

theorem sealed_write : ∀ node : Node, Sealed '<' '>' (write node)
  | .text text => sealed_of_not_mem text.unopened
  | .enclosed enclosed => sealed_written enclosed
  | .empty tag => sealed_selfClosing tag
  | .element tag children trailing =>
    ((sealed_opening tag).append (sealed_writeAll children)).append (sealed_closing tag trailing)

theorem sealed_writeAll : ∀ nodes : List Node, Sealed '<' '>' (writeAll nodes)
  | [] => sealed_of_not_mem List.not_mem_nil
  | node :: nodes => (sealed_write node).append (sealed_writeAll nodes)

end

/-! Looking up -/

/-- An element in what is written; an empty-element tag has no content. -/
structure Site where
  before : List Char
  tag : Tag
  content : Option (List Node × Blank)
  after : List Char

def Site.element (site : Site) : List Char :=
  match site.content with
  | none => site.tag.selfClosing
  | some (children, trailing) =>
    site.tag.opening ++ writeAll children ++ site.tag.closing trailing

section Lookup

variable (wanted : List Char → Bool)

mutual

def locate : Node → Option Site
  | .text _ => none
  | .enclosed _ => none
  | .empty tag => if wanted tag.name then some ⟨[], tag, none, []⟩ else none
  | .element tag children trailing =>
    if wanted tag.name then some ⟨[], tag, some (children, trailing), []⟩
    else (locateAll children).map fun site =>
      { site with
        before := tag.opening ++ site.before
        after := site.after ++ tag.closing trailing }

/-- The first one in document order. -/
def locateAll : List Node → Option Site
  | [] => none
  | node :: nodes =>
    match locate node with
    | some site => some { site with after := site.after ++ writeAll nodes }
    | none => (locateAll nodes).map fun site => { site with before := write node ++ site.before }

/-- How many elements have the name, at any depth. -/
def elementCount : Node → ℕ
  | .text _ => 0
  | .enclosed _ => 0
  | .empty tag => if wanted tag.name then 1 else 0
  | .element tag children _ => (if wanted tag.name then 1 else 0) + elementCountAll children

def elementCountAll : List Node → ℕ
  | [] => 0
  | node :: nodes => elementCount node + elementCountAll nodes

end

/-- An element with the name is where the site says. -/
structure Site.Within (site : Site) (text : List Char) : Prop where
  written : text = site.before ++ site.element ++ site.after
  clear : Sealed '<' '>' site.before
  named : wanted site.tag.name = true
  separated : ∀ content ∈ site.content, separatedAll content.1 = true

theorem Site.Within.inside {site : Site} {text : List Char} (h : site.Within wanted text)
    {before : List Char} (hbefore : Sealed '<' '>' before) (after : List Char) :
    ({ site with before := before ++ site.before, after := site.after ++ after } : Site).Within
      wanted (before ++ text ++ after) where
  written := by
    rw [h.written]
    simp only [Site.element, List.append_assoc]
  clear := hbefore.append h.clear
  named := h.named
  separated := h.separated

mutual

theorem locate_within : ∀ (node : Node) (site : Site), separated node = true →
    locate wanted node = some site → site.Within wanted (write node)
  | .text _, site, _, h => by cases h
  | .enclosed _, site, _, h => by cases h
  | .empty tag, site, _, h => by
    by_cases hname : wanted tag.name = true
    · rw [locate, if_pos hname] at h
      cases h
      exact ⟨(List.append_nil _).symm, sealed_of_not_mem List.not_mem_nil, hname,
        fun _ hnone => by cases hnone⟩
    · rw [locate, if_neg hname] at h
      cases h
  | .element tag children trailing, site, hseparated, h => by
    by_cases hname : wanted tag.name = true
    · rw [locate, if_pos hname] at h
      cases h
      exact ⟨(List.append_nil _).symm, sealed_of_not_mem List.not_mem_nil, hname,
        fun _ hsome => by cases hsome; exact hseparated⟩
    · rw [locate, if_neg hname, Option.map_eq_some_iff] at h
      obtain ⟨inner, hinner, rfl⟩ := h
      exact (locateAll_within children inner hseparated hinner).inside wanted
        (sealed_opening tag) (tag.closing trailing)

theorem locateAll_within : ∀ (nodes : List Node) (site : Site), separatedAll nodes = true →
    locateAll wanted nodes = some site → site.Within wanted (writeAll nodes)
  | [], site, _, h => by cases h
  | node :: nodes, site, hseparated, h => by
    rw [separatedAll, Bool.and_eq_true, Bool.and_eq_true] at hseparated
    rw [locateAll] at h
    cases hnode : locate wanted node with
    | some inner =>
      rw [hnode] at h
      cases h
      exact (locate_within node inner hseparated.1.1 hnode).inside wanted
        (sealed_of_not_mem List.not_mem_nil) (writeAll nodes)
    | none =>
      rw [hnode, Option.map_eq_some_iff] at h
      obtain ⟨inner, hinner, rfl⟩ := h
      have hlater := (locateAll_within nodes inner hseparated.1.2 hinner).inside wanted
        (sealed_write node) []
      rw [List.append_nil, List.append_nil] at hlater
      exact hlater

end

end Lookup

/-! Without the texts -/

section Outline

variable (kept : List Char → Bool)

mutual

/-- The elements alone, but for those whose names are kept: these are left as they are. -/
def outline : Node → List Node
  | .text _ => []
  | .enclosed _ => []
  | .empty tag => [.empty tag]
  | .element tag children trailing =>
    if kept tag.name then [.element tag children trailing]
    else [.element tag (outlineAll children) trailing]

def outlineAll : List Node → List Node
  | [] => []
  | node :: nodes => outline node ++ outlineAll nodes

end

variable {kept} {wanted : List Char → Bool} {β : Type*}

/-- What is read of a site, where it depends on the content alone. -/
theorem map_locateAll_append {value : Option (List Node × Blank) → β} (front back : List Node) :
    (locateAll wanted (front ++ back)).map (fun site => value site.content) =
      ((locateAll wanted front).map fun site => value site.content).or
        ((locateAll wanted back).map fun site => value site.content) := by
  induction front with
  | nil => simp [locateAll]
  | cons node front ih =>
    rw [List.cons_append, locateAll, locateAll]
    cases locate wanted node with
    | some site => simp
    | none => simpa [Option.map_map, Function.comp_def] using ih

theorem map_locateAll_cons {value : Option (List Node × Blank) → β} (node : Node)
    (nodes : List Node) :
    (locateAll wanted (node :: nodes)).map (fun site => value site.content) =
      ((locate wanted node).map fun site => value site.content).or
        ((locateAll wanted nodes).map fun site => value site.content) := by
  rw [locateAll]
  cases locate wanted node with
  | some site => simp
  | none => simp [Option.map_map, Function.comp_def]

theorem elementCountAll_append (front back : List Node) :
    elementCountAll wanted (front ++ back) =
      elementCountAll wanted front + elementCountAll wanted back := by
  induction front with
  | nil => simp [elementCountAll]
  | cons node front ih => simp [elementCountAll, ih, Nat.add_assoc]

mutual

theorem elementCount_outline : ∀ node : Node,
    elementCountAll wanted (outline kept node) = elementCount wanted node
  | .text _ => rfl
  | .enclosed _ => rfl
  | .empty tag => by simp [outline, elementCountAll]
  | .element tag children trailing => by
    rw [outline]
    by_cases hkept : kept tag.name = true
    · rw [if_pos hkept]
      rfl
    · rw [if_neg hkept, elementCountAll, elementCount, elementCountAll_outline children]
      rfl

theorem elementCountAll_outline : ∀ nodes : List Node,
    elementCountAll wanted (outlineAll kept nodes) = elementCountAll wanted nodes
  | [] => rfl
  | node :: nodes => by
    rw [outlineAll, elementCountAll_append, elementCount_outline node, elementCountAll_outline nodes,
      elementCountAll]

end

/-- A value of the content that the outline leaves as it is. -/
def Outlined (kept wanted : List Char → Bool) (value : Option (List Node × Blank) → β) : Prop :=
  ∀ name, wanted name = true → kept name = false → ∀ children trailing,
    value (some (outlineAll kept children, trailing)) = value (some (children, trailing))

mutual

theorem locate_outline {value : Option (List Node × Blank) → β}
    (h : Outlined kept wanted value) : ∀ node : Node,
    (locateAll wanted (outline kept node)).map (fun site => value site.content) =
      (locate wanted node).map fun site => value site.content
  | .text _ => rfl
  | .enclosed _ => rfl
  | .empty tag => by
    rw [outline, map_locateAll_cons, locateAll, Option.map_none, Option.or_none]
  | .element tag children trailing => by
    have hinner := locateAll_outline h children
    rw [outline]
    by_cases hkept : kept tag.name = true
    · rw [if_pos hkept, map_locateAll_cons, locateAll, Option.map_none, Option.or_none]
    · rw [if_neg hkept, map_locateAll_cons, locateAll, Option.map_none, Option.or_none, locate,
        locate]
      by_cases hwanted : wanted tag.name = true
      · rw [if_pos hwanted, if_pos hwanted, Option.map_some, Option.map_some,
          h tag.name hwanted (Bool.eq_false_iff.mpr hkept)]
      · rw [if_neg hwanted, if_neg hwanted, Option.map_map, Option.map_map]
        exact hinner

theorem locateAll_outline {value : Option (List Node × Blank) → β}
    (h : Outlined kept wanted value) : ∀ nodes : List Node,
    (locateAll wanted (outlineAll kept nodes)).map (fun site => value site.content) =
      (locateAll wanted nodes).map fun site => value site.content
  | [] => rfl
  | node :: nodes => by
    rw [outlineAll, map_locateAll_append, locate_outline h node, locateAll_outline h nodes,
      map_locateAll_cons]

end

end Outline

end GreenBubbles.Library.Markup
