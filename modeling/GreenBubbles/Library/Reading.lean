import Mathlib.Data.List.DropRight
import GreenBubbles.Library.Markup

/-! # The characters of an element

Everything written of a node is marked as text, as the inside of a CDATA section
or as markup. The reading of an element is what is no markup, without the white
space around it; CDATA is kept as it is.
-/
namespace GreenBubbles.Library.Markup

open Search Probing

/-! Trimming -/

section Trim

variable {α β : Type*} {loose : α → Bool} {front back text : List α}

def trimBy (loose : α → Bool) (text : List α) : List α :=
  (text.dropWhile loose).rdropWhile loose

theorem trimBy_split (loose : α → Bool) (text : List α) : ∃ front back,
    text = front ++ trimBy loose text ++ back ∧ (∀ a ∈ front, loose a = true) ∧
      ∀ a ∈ back, loose a = true := by
  refine ⟨text.takeWhile loose, (text.dropWhile loose).rtakeWhile loose, ?_, ?_, ?_⟩
  · rw [trimBy, List.append_assoc, List.rdropWhile_append_rtakeWhile,
      List.takeWhile_append_dropWhile]
  · exact fun a ha => List.mem_takeWhile_imp ha
  · exact fun a ha => List.mem_rtakeWhile_imp ha

theorem dropWhile_front (hfront : ∀ a ∈ front, loose a = true) :
    (front ++ text).dropWhile loose = text.dropWhile loose :=
  List.dropWhile_append_of_pos hfront

theorem rdropWhile_back (hback : ∀ a ∈ back, loose a = true) :
    (text ++ back).rdropWhile loose = text.rdropWhile loose := by
  rw [List.rdropWhile, List.reverse_append, dropWhile_front fun a ha => hback a (List.mem_reverse.mp ha)]
  rfl

theorem trimBy_append (hfront : ∀ a ∈ front, loose a = true) (hback : ∀ a ∈ back, loose a = true) :
    trimBy loose (front ++ text ++ back) = trimBy loose text := by
  rw [trimBy, List.append_assoc, dropWhile_front hfront, trimBy, List.dropWhile_append]
  by_cases hempty : (text.dropWhile loose).isEmpty = true
  · have hback' : back.dropWhile loose = [] := List.dropWhile_eq_nil_iff.mpr hback
    rw [if_pos hempty, hback', List.isEmpty_iff.mp hempty]
  · rw [if_neg hempty, rdropWhile_back hback]

theorem trimBy_of_strict (h : ∀ a ∈ text, loose a = false) : trimBy loose text = text := by
  have hdrop : text.dropWhile loose = text := by
    cases text with
    | nil => rfl
    | cons a text => exact List.dropWhile_cons_of_neg (by simp [h a List.mem_cons_self])
  rw [trimBy, hdrop, List.rdropWhile_eq_self_iff]
  intro hne
  simp [h _ (List.getLast_mem hne)]

theorem length_trimBy_le : (trimBy loose text).length ≤ text.length := by
  obtain ⟨front, back, htext, -, -⟩ := trimBy_split loose text
  have hlength := congrArg List.length htext
  simp only [List.length_append] at hlength
  omega

/-- What is kept of a text is no longer trimmed than what is kept of it trimmed. -/
theorem length_trimBy_filter (kept : α → Bool) :
    (trimBy loose (text.filter kept)).length ≤ ((trimBy loose text).filter kept).length := by
  obtain ⟨front, back, htext, hfront, hback⟩ := trimBy_split loose text
  have hfilter : text.filter kept =
      front.filter kept ++ (trimBy loose text).filter kept ++ back.filter kept := by
    conv_lhs => rw [htext]
    rw [List.filter_append, List.filter_append]
  rw [hfilter, trimBy_append (fun a ha => hfront a (List.mem_of_mem_filter ha))
    fun a ha => hback a (List.mem_of_mem_filter ha)]
  exact length_trimBy_le

/-- A trim takes nothing that is not loose. -/
theorem filter_trimBy {strict : α → Bool} (h : ∀ a, strict a = true → loose a = false) :
    (trimBy loose text).filter strict = text.filter strict := by
  obtain ⟨front, back, htext, hfront, hback⟩ := trimBy_split loose text
  have hnone : ∀ part : List α, (∀ a ∈ part, loose a = true) → part.filter strict = [] := by
    intro part hpart
    rw [List.filter_eq_nil_iff]
    intro a ha hstrict
    have hloose := hpart a ha
    rw [h a hstrict] at hloose
    cases hloose
  conv_rhs => rw [htext]
  rw [List.filter_append, List.filter_append, hnone _ hfront, hnone _ hback, List.nil_append,
    List.append_nil]

theorem head_trimBy {a : α} (ha : a ∈ (trimBy loose text).head?) : loose a = false := by
  have hbegin : trimBy loose text <+: text.dropWhile loose := List.rdropWhile_prefix loose _
  have hhead : (text.dropWhile loose).head? = some a := by
    obtain ⟨tail, htail⟩ := hbegin
    rw [← htail, List.head?_append, Option.mem_def.mp ha]
    rfl
  have hnot := List.head?_dropWhile_not loose text
  rw [hhead] at hnot
  exact hnot

theorem getLast_trimBy {a : α} (ha : a ∈ (trimBy loose text).getLast?) : loose a = false := by
  obtain ⟨hne, hlast⟩ := List.mem_getLast?_eq_getLast ha
  have hnot := List.rdropWhile_last_not loose (text.dropWhile loose) hne
  rw [hlast]
  exact Bool.eq_false_iff.mpr hnot

theorem trimBy_of_ends (hhead : ∀ a ∈ text.head?, loose a = false)
    (hlast : ∀ a ∈ text.getLast?, loose a = false) : trimBy loose text = text := by
  have hdrop : text.dropWhile loose = text := by
    cases text with
    | nil => rfl
    | cons a text => exact List.dropWhile_cons_of_neg (by simp [hhead a rfl])
  rw [trimBy, hdrop, List.rdropWhile_eq_self_iff]
  intro hne
  simp [hlast _ (List.getLast_mem_getLast? hne)]

end Trim

/-! Marks -/

inductive Mark where
  | text
  | cdata
  | markup
  deriving DecidableEq

def markWith (mark : Mark) (chars : List Char) : List (Char × Mark) :=
  chars.map fun c => (c, mark)

mutual

def marks : Node → List (Char × Mark)
  | .text text => markWith .text text.chars
  | .enclosed enclosed =>
    markWith .markup enclosed.kind.opener ++
      markWith (if enclosed.kind = .cdata then .cdata else .markup) enclosed.chars ++
      markWith .markup enclosed.kind.closer
  | .empty tag => markWith .markup tag.selfClosing
  | .element tag children trailing =>
    markWith .markup tag.opening ++ marksAll children ++ markWith .markup (tag.closing trailing)

def marksAll : List Node → List (Char × Mark)
  | [] => []
  | node :: nodes => marks node ++ marksAll nodes

end

@[simp] theorem markWith_written (mark : Mark) (chars : List Char) :
    (markWith mark chars).map Prod.fst = chars := by
  simp [markWith, Function.comp_def]

@[simp] theorem markWith_append (mark : Mark) (first second : List Char) :
    markWith mark (first ++ second) = markWith mark first ++ markWith mark second :=
  List.map_append

mutual

theorem marks_written : ∀ node : Node, (marks node).map Prod.fst = write node
  | .text text => markWith_written .text text.chars
  | .enclosed enclosed => by simp [marks, write, Enclosed.written]
  | .empty tag => markWith_written .markup tag.selfClosing
  | .element tag children trailing => by
    simp [marks, write, marksAll_written children]

theorem marksAll_written : ∀ nodes : List Node, (marksAll nodes).map Prod.fst = writeAll nodes
  | [] => rfl
  | node :: nodes => by
    simp [marksAll, writeAll, marks_written node, marksAll_written nodes]

end

/-- What is no text: markup, and CDATA. -/
def hard (mark : Char × Mark) : Bool := mark.2 ≠ .text

def isMarkup (mark : Char × Mark) : Bool := mark.2 = .markup

/-- White space of a text. -/
def looseText (white : Char → Bool) (mark : Char × Mark) : Bool := mark.2 = .text && white mark.1

/-- The characters of an element without the white space around its text. -/
def reading (white : Char → Bool) (nodes : List Node) : List Char :=
  (trimBy (looseText white) ((marksAll nodes).filter fun mark => !isMarkup mark)).map Prod.fst

theorem filter_markWith (kept : Char × Mark → Bool) (mark : Mark) (chars : List Char)
    (h : ∀ c, kept (c, mark) = true) : (markWith mark chars).filter kept = markWith mark chars := by
  rw [List.filter_eq_self]
  intro a ha
  obtain ⟨c, -, rfl⟩ := List.mem_map.mp ha
  exact h c

theorem filter_markWith_nil (kept : Char × Mark → Bool) (mark : Mark) (chars : List Char)
    (h : ∀ c, kept (c, mark) = false) : (markWith mark chars).filter kept = [] := by
  rw [List.filter_eq_nil_iff]
  intro a ha
  obtain ⟨c, -, rfl⟩ := List.mem_map.mp ha
  simp [h c]

/-- A node that is no text starts and ends with the marks of markup. -/
theorem marks_edges (node : Node) (h : node.isText = false) :
    (∃ tail, marks node = ('<', .markup) :: tail) ∧
      ∃ init, marks node = init ++ [('>', .markup)] := by
  cases node with
  | text text => cases h
  | enclosed enclosed =>
    obtain ⟨tail, htail⟩ := enclosed.kind.opener_head
    obtain ⟨init, hinit⟩ := enclosed.kind.closer_last
    rw [marks]
    refine ⟨?_, ?_⟩
    · rw [htail]
      exact ⟨_, rfl⟩
    · rw [hinit, markWith_append, ← List.append_assoc]
      exact ⟨_, rfl⟩
  | empty tag =>
    refine ⟨⟨_, rfl⟩, markWith .markup ('<' :: (tag.name ++ tag.rest ++ ['/'])), ?_⟩
    simp [marks, markWith, Tag.selfClosing]
  | element tag children trailing =>
    refine ⟨⟨_, rfl⟩, markWith .markup tag.opening ++ marksAll children ++
      markWith .markup ('<' :: ('/' :: (tag.name ++ trailing.chars))), ?_⟩
    simp [marks, markWith, Tag.closing]

theorem hard_text {node : Node} (h : node.isText = true) : (marks node).filter hard = [] := by
  cases node with
  | text text => exact filter_markWith_nil hard .text text.chars fun _ => rfl
  | enclosed enclosed => cases h
  | empty tag => cases h
  | element tag children trailing => cases h

/-- The first mark that is no text opens markup. -/
theorem head_hard {nodes : List Node} {mark : Char × Mark}
    (h : mark ∈ ((marksAll nodes).filter hard).head?) : mark.1 = '<' := by
  induction nodes with
  | nil => cases h
  | cons node nodes ih =>
    rw [marksAll, List.filter_append] at h
    cases htext : node.isText with
    | true =>
      rw [hard_text htext, List.nil_append] at h
      exact ih h
    | false =>
      obtain ⟨tail, htail⟩ := (marks_edges node htext).1
      rw [htail, List.filter_cons_of_pos rfl, List.cons_append, List.head?_cons] at h
      cases h
      rfl

/-- The last one closes markup. -/
theorem getLast_hard {nodes : List Node} {mark : Char × Mark}
    (h : mark ∈ ((marksAll nodes).filter hard).getLast?) : mark.1 = '>' := by
  induction nodes with
  | nil => cases h
  | cons node nodes ih =>
    rw [marksAll, List.filter_append, List.getLast?_append] at h
    cases hlater : ((marksAll nodes).filter hard).getLast? with
    | some later =>
      rw [hlater, Option.some_or] at h
      exact ih (hlater ▸ h)
    | none =>
      rw [hlater, Option.none_or] at h
      cases htext : node.isText with
      | true =>
        rw [hard_text htext] at h
        cases h
      | false =>
        obtain ⟨init, hinit⟩ := (marks_edges node htext).2
        rw [hinit, List.filter_append, List.filter_cons_of_pos rfl, List.filter_nil,
          List.getLast?_concat] at h
        cases h
        rfl

section White

variable {white : Char → Bool} (hless : white '<' = false) (hgreater : white '>' = false)
  (nodes : List Node)

/-- What strict marks a trimmed list of marks has. -/
theorem hard_trimBy : (trimBy (looseText white) (marksAll nodes)).filter hard =
    (marksAll nodes).filter hard := by
  refine filter_trimBy fun mark hmark => ?_
  simp only [hard, decide_eq_true_eq, ne_eq] at hmark
  simp [looseText, hmark]

include hless hgreater

/-- White space is trimmed from what is written exactly where it is white space of a text. -/
theorem trimBy_written : trimBy white (writeAll nodes) =
    (trimBy (looseText white) (marksAll nodes)).map Prod.fst := by
  obtain ⟨front, back, hmarks, hfront, hback⟩ := trimBy_split (looseText white) (marksAll nodes)
  have hwhite : ∀ part : List (Char × Mark), (∀ mark ∈ part, looseText white mark = true) →
      ∀ c ∈ part.map Prod.fst, white c = true := by
    intro part hpart c hc
    obtain ⟨mark, hmark, rfl⟩ := List.mem_map.mp hc
    exact (Bool.and_eq_true _ _ ▸ hpart mark hmark).2
  have htext : ∀ mark : Char × Mark, looseText white mark = false → hard mark = false →
      white mark.1 = false := by
    intro mark hmark hsoft
    simp only [hard, ne_eq, decide_not, Bool.not_eq_false', decide_eq_true_eq] at hsoft
    simpa [looseText, hsoft] using hmark
  rw [← marksAll_written nodes]
  conv_lhs => rw [hmarks]
  rw [List.map_append, List.map_append, trimBy_append (hwhite front hfront) (hwhite back hback)]
  apply trimBy_of_ends
  · intro c hc
    rw [List.head?_map] at hc
    obtain ⟨mark, hmark, rfl⟩ := Option.map_eq_some_iff.mp hc
    cases hhard : hard mark with
    | false => exact htext mark (head_trimBy hmark) hhard
    | true =>
      have hhead : mark ∈ ((trimBy (looseText white) (marksAll nodes)).filter hard).head? := by
        obtain ⟨tail, htail⟩ := List.head?_eq_some_iff.mp hmark
        rw [htail, List.filter_cons_of_pos hhard]
        rfl
      rw [hard_trimBy] at hhead
      rw [head_hard hhead]
      exact hless
  · intro c hc
    rw [List.getLast?_map] at hc
    obtain ⟨mark, hmark, rfl⟩ := Option.map_eq_some_iff.mp hc
    cases hhard : hard mark with
    | false => exact htext mark (getLast_trimBy hmark) hhard
    | true =>
      have hlast : mark ∈ ((trimBy (looseText white) (marksAll nodes)).filter hard).getLast? := by
        obtain ⟨init, hinit⟩ := List.getLast?_eq_some_iff.mp hmark
        rw [hinit, List.filter_append, List.filter_cons_of_pos hhard, List.filter_nil,
          List.getLast?_concat]
        rfl
      rw [hard_trimBy] at hlast
      rw [getLast_hard hlast]
      exact hgreater

/-- What is written of an element is longer than its reading by the markup in it. -/
theorem length_reading_le :
    (reading white nodes).length + ((marksAll nodes).filter isMarkup).length ≤
      (trimBy white (writeAll nodes)).length := by
  have hkept := @length_trimBy_filter _ (looseText white) (marksAll nodes)
    fun mark => !isMarkup mark
  have hmarkup : (trimBy (looseText white) (marksAll nodes)).filter isMarkup =
      (marksAll nodes).filter isMarkup := by
    refine filter_trimBy fun mark hmark => ?_
    simp only [isMarkup, decide_eq_true_eq] at hmark
    simp [looseText, hmark]
  have hsplit := List.length_eq_length_filter_add
    (l := trimBy (looseText white) (marksAll nodes)) isMarkup
  rw [hmarkup] at hsplit
  rw [trimBy_written hless hgreater, reading, List.length_map, List.length_map, hsplit]
  omega

end White

end GreenBubbles.Library.Markup
