import GreenBubbles.Cached.Elements
import GreenBubbles.Library.Reading

/-! # Texts and readings

What is left of the content of an element once it is trimmed and a CDATA section
around it is taken off. It is the reading of the element exactly where the content
is all text, or one CDATA section with white space around it.
-/
namespace GreenBubbles.Cached

open Library.Search Library.Probing Library.Markup
open Send (isWhiteSpace)

variable {nodes front back : List Node} {text result tail : List Char}

def BlankText (node : Node) : Prop :=
  ∃ text, node = .text text ∧ ∀ c ∈ text.chars, isWhiteSpace c = true

def Plain (nodes : List Node) : Prop :=
  (∀ node ∈ nodes, node.isText = true) ∨
    ∃ front data back, nodes = front ++ .enclosed data :: back ∧ data.kind = .cdata ∧
      (∀ node ∈ front, BlankText node) ∧ ∀ node ∈ back, BlankText node

/-! Lists of nodes -/

section Nodes

theorem writeAll_append : writeAll (front ++ back) = writeAll front ++ writeAll back := by
  induction front with
  | nil => rfl
  | cons node front ih => rw [List.cons_append, writeAll, writeAll, ih, List.append_assoc]

theorem marksAll_append : marksAll (front ++ back) = marksAll front ++ marksAll back := by
  induction front with
  | nil => rfl
  | cons node front ih => rw [List.cons_append, marksAll, marksAll, ih, List.append_assoc]

theorem separated_tail (h : separatedAll (front ++ back) = true) : separatedAll back = true := by
  induction front with
  | nil => exact h
  | cons node front ih =>
    rw [List.cons_append, separatedAll, Bool.and_eq_true, Bool.and_eq_true] at h
    exact ih h.1.2

theorem marks_texts (h : ∀ node ∈ nodes, node.isText = true) :
    ∀ mark ∈ marksAll nodes, mark.2 = .text := by
  induction nodes with
  | nil => exact fun mark hmark => absurd hmark List.not_mem_nil
  | cons node nodes ih =>
    intro mark hmark
    rw [marksAll, List.mem_append] at hmark
    cases hmark with
    | inl hmark =>
      have htext := h node List.mem_cons_self
      cases node with
      | text text =>
        obtain ⟨c, -, rfl⟩ := List.mem_map.mp hmark
        rfl
      | enclosed enclosed => cases htext
      | empty tag => cases htext
      | element tag children trailing => cases htext
    | inr hmark => exact ih (fun node hnode => h node (List.mem_cons_of_mem _ hnode)) mark hmark

/-- Without markup there are only texts. -/
theorem texts_of_unmarked (h : (marksAll nodes).filter isMarkup = []) :
    ∀ node ∈ nodes, node.isText = true := by
  induction nodes with
  | nil => exact fun node hnode => absurd hnode List.not_mem_nil
  | cons node nodes ih =>
    rw [marksAll, List.filter_append, List.append_eq_nil_iff] at h
    intro other hother
    cases List.mem_cons.mp hother with
    | inl hsame =>
      rw [hsame]
      by_contra htext
      obtain ⟨tail, htail⟩ := (marks_edges node (Bool.eq_false_iff.mpr htext)).1
      rw [htail, List.filter_cons_of_pos rfl] at h
      exact absurd h.1 (List.cons_ne_nil _ _)
    | inr hlater => exact ih h.2 other hlater

theorem isText_of_blank {node : Node} (h : BlankText node) : node.isText = true := by
  obtain ⟨text, rfl, -⟩ := h
  rfl

theorem loose_blank (h : ∀ node ∈ nodes, BlankText node) :
    ∀ mark ∈ marksAll nodes, looseText isWhiteSpace mark = true := by
  induction nodes with
  | nil => exact fun mark hmark => absurd hmark List.not_mem_nil
  | cons node nodes ih =>
    intro mark hmark
    rw [marksAll, List.mem_append] at hmark
    cases hmark with
    | inl hmark =>
      obtain ⟨text, rfl, hwhite⟩ := h node List.mem_cons_self
      obtain ⟨c, hc, rfl⟩ := List.mem_map.mp hmark
      simp [looseText, hwhite c hc]
    | inr hmark => exact ih (fun node hnode => h node (List.mem_cons_of_mem _ hnode)) mark hmark

theorem white_blank (h : ∀ node ∈ nodes, BlankText node) :
    ∀ c ∈ writeAll nodes, isWhiteSpace c = true := by
  intro c hc
  rw [← marksAll_written] at hc
  obtain ⟨mark, hmark, rfl⟩ := List.mem_map.mp hc
  have hloose := loose_blank h mark hmark
  rw [looseText, Bool.and_eq_true] at hloose
  exact hloose.2

theorem unopened_texts (h : ∀ node ∈ nodes, node.isText = true) : '<' ∉ writeAll nodes := by
  induction nodes with
  | nil => exact List.not_mem_nil
  | cons node nodes ih =>
    have htext := h node List.mem_cons_self
    have hlater := ih fun node hnode => h node (List.mem_cons_of_mem _ hnode)
    cases node with
    | text text =>
      rw [writeAll, write, List.mem_append, not_or]
      exact ⟨text.unopened, hlater⟩
    | enclosed enclosed => cases htext
    | empty tag => cases htext
    | element tag children trailing => cases htext

end Nodes

/-! Unwrapping -/

section Unwrap

theorem unwrapCdata_wrapped (chars : List Char) :
    unwrapCdata (cdataStart ++ chars ++ cdataEnd) = chars := by
  have hlength : (cdataStart ++ chars ++ cdataEnd).length = chars.length + 12 := by
    simp [cdataStart, cdataEnd]
  have hbegin : cdataStart.isPrefixOf (cdataStart ++ chars ++ cdataEnd) = true := by
    rw [List.isPrefixOf_iff_prefix, List.append_assoc]
    exact List.prefix_append _ _
  have hsuffix : cdataEnd.isSuffixOf (cdataStart ++ chars ++ cdataEnd) = true := by
    rw [List.isSuffixOf_iff_suffix]
    exact List.suffix_append _ _
  have htake : (cdataStart ++ chars ++ cdataEnd).take (chars.length + 12 - 3) =
      cdataStart ++ chars := List.take_left' (by simp [cdataStart])
  rw [unwrapCdata, hbegin, hsuffix, hlength, htake]
  exact (if_pos (by simp)).trans (List.drop_left' rfl)

theorem unwrapCdata_unopened (h : '<' ∉ result) : unwrapCdata result = result := by
  apply if_neg
  simp only [Bool.and_eq_true, not_and, List.isPrefixOf_iff_prefix]
  intro hboth
  obtain ⟨tail, rfl⟩ := hboth.1
  exact absurd (List.mem_append_left _ (by decide)) h

/-- The text is left as it is, or it starts and ends as CDATA and loses that much. -/
theorem unwrapCdata_cases (result : List Char) : unwrapCdata result = result ∨
    cdataStart <+: result ∧ cdataEnd <:+ result ∧
      (unwrapCdata result).length + 12 = result.length := by
  unfold unwrapCdata
  split
  · next hwrapped =>
    simp only [Bool.and_eq_true, List.isPrefixOf_iff_prefix, List.isSuffixOf_iff_suffix,
      decide_eq_true_eq] at hwrapped
    refine .inr ⟨hwrapped.1.1, hwrapped.1.2, ?_⟩
    rw [List.length_drop, List.length_take]
    omega
  · exact .inl rfl

end Unwrap

/-! The first section -/

section First

/-- Only a CDATA section starts as one. -/
theorem cdata_of_prefix {node : Node} (htext : node.isText = false)
    (h : cdataStart <+: write node ++ tail) :
    ∃ data, node = .enclosed data ∧ data.kind = .cdata := by
  have hname : ∀ tag : Tag, ∀ more : List Char, ¬ cdataStart <+: '<' :: (tag.name ++ more) := by
    intro tag more hbegin
    cases hchars : tag.name with
    | nil => exact tag.named hchars
    | cons c name =>
      rw [hchars, cdataStart, List.cons_prefix_cons, List.cons_append, List.cons_prefix_cons]
        at hbegin
      have hplain := tag.plain c (hchars ▸ List.mem_cons_self)
      rw [← hbegin.2.1] at hplain
      exact absurd (by decide) hplain
  cases node with
  | text text => cases htext
  | enclosed enclosed =>
    refine ⟨enclosed, rfl, ?_⟩
    rw [write, Enclosed.written] at h
    cases hkind : enclosed.kind with
    | cdata => rfl
    | comment => simp [hkind, Enclosure.opener, cdataStart] at h
    | instruction => simp [hkind, Enclosure.opener, cdataStart] at h
    | declaration => simp [hkind, Enclosure.opener, cdataStart] at h
  | empty tag =>
    rw [write, Tag.selfClosing, List.append_assoc, List.cons_append, List.append_assoc] at h
    exact absurd h (hname tag _)
  | element tag children trailing =>
    simp only [write, Tag.opening, List.append_assoc, List.cons_append] at h
    exact absurd h (hname tag _)

/-- A text with more than white space in it starts the trimmed text. -/
theorem head_text {text : Text} (hstrict : ¬ ∀ c ∈ text.chars, isWhiteSpace c = true) :
    ¬ cdataStart <+: (text.chars ++ tail).dropWhile isWhiteSpace := by
  have hrest : text.chars.dropWhile isWhiteSpace ≠ [] := by
    rw [ne_eq, List.dropWhile_eq_nil_iff]
    exact hstrict
  rw [List.dropWhile_append, if_neg (by simpa using hrest)]
  intro hbegin
  cases hchars : text.chars.dropWhile isWhiteSpace with
  | nil => exact hrest hchars
  | cons c more =>
    rw [hchars, cdataStart, List.cons_append, List.cons_prefix_cons] at hbegin
    have hmem : c ∈ text.chars := (List.dropWhile_sublist _).subset (hchars ▸ List.mem_cons_self)
    rw [← hbegin.1] at hmem
    exact text.unopened hmem

theorem dropWhile_edge {node : Node} (htext : node.isText = false) :
    (write node ++ tail).dropWhile isWhiteSpace = write node ++ tail := by
  obtain ⟨more, hmore⟩ := (marks_edges node htext).1
  rw [← marks_written, hmore]
  rfl

/-- Where a trimmed text starts as CDATA, the first node but white space is a CDATA section. -/
theorem cdata_first (h : cdataStart <+: (writeAll nodes).dropWhile isWhiteSpace) :
    ∃ front data back, nodes = front ++ .enclosed data :: back ∧ data.kind = .cdata ∧
      ∀ node ∈ front, BlankText node := by
  induction nodes with
  | nil => exact absurd h (by decide)
  | cons node nodes ih =>
    rw [writeAll] at h
    cases htext : node.isText with
    | false =>
      rw [dropWhile_edge htext] at h
      obtain ⟨data, rfl, hkind⟩ := cdata_of_prefix htext h
      exact ⟨[], data, nodes, rfl, hkind, fun node hnode => absurd hnode List.not_mem_nil⟩
    | true =>
      cases node with
      | text text =>
        by_cases hwhite : ∀ c ∈ text.chars, isWhiteSpace c = true
        · rw [write, dropWhile_front hwhite] at h
          obtain ⟨front, data, back, rfl, hkind, hfront⟩ := ih h
          refine ⟨.text text :: front, data, back, rfl, hkind, fun node hnode => ?_⟩
          cases List.mem_cons.mp hnode with
          | inl hsame => exact ⟨text, hsame, hwhite⟩
          | inr hlater => exact hfront node hlater
        · exact absurd h (head_text hwhite)
      | enclosed enclosed => cases htext
      | empty tag => cases htext
      | element tag children trailing => cases htext

/-- Behind the end of a CDATA section no short text ends as one. -/
theorem not_cdataEnd (hfree : Free cdataEnd tail) (hne : tail ≠ []) :
    ¬ cdataEnd <:+ text ++ cdataEnd ++ tail := by
  intro hsuffix
  have hreverse := List.reverse_prefix.mpr hsuffix
  simp only [List.reverse_append] at hreverse
  have hend : cdataEnd.reverse = ['>', ']', ']'] := rfl
  rw [hend] at hreverse
  rcases htail : tail.reverse with _ | ⟨a, _ | ⟨b, _ | ⟨c, more⟩⟩⟩
  · exact hne (List.reverse_eq_nil_iff.mp htail)
  · simp [htail] at hreverse
  · simp [htail] at hreverse
  · simp only [htail, List.cons_append, List.cons_prefix_cons] at hreverse
    obtain ⟨ha, hb, hc, -⟩ := hreverse
    have hwhole : tail = more.reverse ++ cdataEnd := by
      rw [← List.reverse_reverse tail, htail, ← ha, ← hb, ← hc]
      simp [cdataEnd]
    refine hfree more.reverse.length ?_
    rw [hwhole, OccursAt, List.drop_left]

end First

/-! The reading of a content -/

section Clean

theorem reading_texts (h : ∀ node ∈ nodes, node.isText = true) :
    reading isWhiteSpace nodes = trim (writeAll nodes) := by
  have hkept : (marksAll nodes).filter (fun mark => !isMarkup mark) = marksAll nodes := by
    rw [List.filter_eq_self]
    intro mark hmark
    simp [isMarkup, marks_texts h mark hmark]
  rw [reading, hkept]
  exact (trimBy_written (by decide) (by decide) nodes).symm

theorem trim_cdata {data : Enclosed} (hkind : data.kind = .cdata)
    (hfront : ∀ node ∈ front, BlankText node) (hback : ∀ node ∈ back, BlankText node) :
    trim (writeAll (front ++ .enclosed data :: back)) = cdataStart ++ data.chars ++ cdataEnd := by
  have hwritten : write (.enclosed data) = cdataStart ++ data.chars ++ cdataEnd := by
    rw [write, Enclosed.written, hkind]
    rfl
  rw [writeAll_append, writeAll, hwritten, ← List.append_assoc]
  refine (trimBy_append (white_blank hfront) (white_blank hback)).trans ?_
  apply trimBy_of_ends
  · intro c hc
    cases hc
    rfl
  · intro c hc
    rw [List.getLast?_append] at hc
    cases hc
    rfl

theorem reading_cdata {data : Enclosed} (hkind : data.kind = .cdata)
    (hfront : ∀ node ∈ front, BlankText node) (hback : ∀ node ∈ back, BlankText node) :
    reading isWhiteSpace (front ++ .enclosed data :: back) = data.chars := by
  have hkept : ∀ part : List Node, (∀ node ∈ part, BlankText node) →
      (marksAll part).filter (fun mark => !isMarkup mark) = marksAll part := by
    intro part hpart
    rw [List.filter_eq_self]
    intro mark hmark
    simp [isMarkup, marks_texts (fun node hnode => isText_of_blank (hpart node hnode)) mark hmark]
  have hdata : (marks (.enclosed data)).filter (fun mark => !isMarkup mark) =
      markWith .cdata data.chars := by
    have hmarkup := filter_markWith_nil (fun mark => !isMarkup mark) .markup
    have hcdata := filter_markWith (fun mark => !isMarkup mark) .cdata data.chars fun _ => rfl
    rw [marks, if_pos hkind, List.filter_append, List.filter_append, hcdata,
      hmarkup _ fun _ => rfl, hmarkup _ fun _ => rfl, List.nil_append, List.append_nil]
  rw [reading, marksAll_append, marksAll, List.filter_append, List.filter_append,
    hkept front hfront, hkept back hback, hdata, ← List.append_assoc,
    trimBy_append (loose_blank hfront) (loose_blank hback), trimBy_of_strict, markWith_written]
  intro mark hmark
  obtain ⟨c, -, rfl⟩ := List.mem_map.mp hmark
  rfl

theorem clean_of_plain (h : Plain nodes) :
    unwrapCdata (trim (writeAll nodes)) = reading isWhiteSpace nodes := by
  rcases h with htexts | ⟨front, data, back, rfl, hkind, hfront, hback⟩
  · rw [reading_texts htexts]
    apply unwrapCdata_unopened
    intro hmem
    obtain ⟨before, after, hwritten, -, -⟩ := trimBy_split isWhiteSpace (writeAll nodes)
    refine unopened_texts htexts ?_
    rw [hwritten]
    exact List.mem_append_left _ (List.mem_append_right _ hmem)
  · rw [trim_cdata hkind hfront hback, unwrapCdata_wrapped, reading_cdata hkind hfront hback]

/-- How many marks of markup there are. -/
def markupLength (nodes : List Node) : ℕ := ((marksAll nodes).filter isMarkup).length

theorem markupLength_cdata {data : Enclosed} (hkind : data.kind = .cdata) :
    markupLength (front ++ .enclosed data :: back) =
      markupLength front + 12 + markupLength back := by
  have hopener := filter_markWith isMarkup .markup Enclosure.cdata.opener fun _ => rfl
  have hcloser := filter_markWith isMarkup .markup Enclosure.cdata.closer fun _ => rfl
  have hchars := filter_markWith_nil isMarkup .cdata data.chars fun _ => rfl
  have hdata : ((marks (.enclosed data)).filter isMarkup).length = 12 := by
    rw [marks, hkind, if_pos rfl, List.filter_append, List.filter_append, hopener, hchars, hcloser]
    rfl
  simp only [markupLength, marksAll_append, marksAll, List.filter_append, List.length_append, hdata]
  omega

/-- Texts next to nothing but texts are one text at most. -/
theorem single_text (hseparated : separatedAll nodes = true)
    (htexts : ∀ node ∈ nodes, node.isText = true) : nodes = [] ∨ ∃ text, nodes = [.text text] := by
  rcases nodes with _ | ⟨node, _ | ⟨second, more⟩⟩
  · exact .inl rfl
  · have htext := htexts node List.mem_cons_self
    cases node with
    | text text => exact .inr ⟨text, rfl⟩
    | enclosed enclosed => cases htext
    | empty tag => cases htext
    | element tag children trailing => cases htext
  · have hfirst := htexts node List.mem_cons_self
    have hsecond := htexts second (List.mem_cons_of_mem _ List.mem_cons_self)
    rw [separatedAll, hfirst, List.head?_cons, Option.any_some, hsecond] at hseparated
    simp at hseparated

/-- What follows the section is white space where the trimmed text ends as CDATA does. -/
theorem blank_behind {data : Enclosed} (hkind : data.kind = .cdata)
    (hfront : ∀ node ∈ front, BlankText node) {last : Text}
    (hsuffix : cdataEnd <:+ trim (writeAll (front ++ [.enclosed data, .text last]))) :
    ∀ c ∈ last.chars, isWhiteSpace c = true := by
  by_contra hstrict
  have hwritten : write (.enclosed data) = cdataStart ++ data.chars ++ cdataEnd := by
    rw [write, Enclosed.written, hkind]
    rfl
  have hrest : last.chars.rdropWhile isWhiteSpace ≠ [] := by
    rw [ne_eq, List.rdropWhile_eq_nil_iff]
    exact hstrict
  have htrim : trim (writeAll (front ++ [.enclosed data, .text last])) =
      cdataStart ++ data.chars ++ cdataEnd ++ last.chars.rdropWhile isWhiteSpace := by
    rw [writeAll_append, trim, dropWhile_front (white_blank hfront), writeAll, dropWhile_edge rfl,
      hwritten, writeAll, writeAll, write, List.append_nil]
    rw [List.rdropWhile, List.reverse_append, List.dropWhile_append, if_neg, List.reverse_append,
      List.reverse_reverse]
    · rfl
    · intro hempty
      apply hrest
      rw [List.rdropWhile, List.isEmpty_iff.mp hempty, List.reverse_nil]
  rw [htrim] at hsuffix
  refine not_cdataEnd (fun n hn => ?_) hrest hsuffix
  exact last.unclosed n (hn.trans ((List.rdropWhile_prefix isWhiteSpace last.chars).drop n))

/-- Only where the content is plain, what is left of it is its reading. -/
theorem plain_of_clean (hseparated : separatedAll nodes = true)
    (h : unwrapCdata (trim (writeAll nodes)) = reading isWhiteSpace nodes) : Plain nodes := by
  have hlength : (reading isWhiteSpace nodes).length + markupLength nodes ≤
      (trim (writeAll nodes)).length := length_reading_le (by decide) (by decide) nodes
  rcases unwrapCdata_cases (trim (writeAll nodes)) with hsame | ⟨hbegin, hsuffix, hshorter⟩
  · rw [← h, hsame] at hlength
    refine .inl (texts_of_unmarked (List.length_eq_zero_iff.mp ?_))
    change markupLength nodes = 0
    omega
  · obtain ⟨front, data, back, rfl, hkind, hfront⟩ :=
      cdata_first (hbegin.trans (List.rdropWhile_prefix isWhiteSpace _))
    rw [h] at hshorter
    rw [markupLength_cdata hkind] at hlength
    have hback : markupLength back = 0 := by omega
    have htexts := texts_of_unmarked (List.length_eq_zero_iff.mp hback)
    have htail : separatedAll back = true := by
      have hsection := separated_tail hseparated
      rw [separatedAll, Bool.and_eq_true, Bool.and_eq_true] at hsection
      exact hsection.1.2
    refine .inr ⟨front, data, back, rfl, hkind, hfront, ?_⟩
    rcases single_text htail htexts with rfl | ⟨last, rfl⟩
    · exact fun node hnode => absurd hnode List.not_mem_nil
    · intro node hnode
      rw [List.mem_singleton.mp hnode]
      exact ⟨last, rfl, blank_behind hkind hfront hsuffix⟩

theorem clean_iff (hseparated : separatedAll nodes = true) :
    unwrapCdata (trim (writeAll nodes)) = reading isWhiteSpace nodes ↔ Plain nodes :=
  ⟨plain_of_clean hseparated, clean_of_plain⟩

end Clean

end GreenBubbles.Cached
