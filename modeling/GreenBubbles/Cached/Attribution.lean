import GreenBubbles.Cached.Counting
import GreenBubbles.Cached.Reading

/-! # Who said what in a moment

The fields of a moment as the tree of its document gives them, and exactly when the
record takes every one of them from there: every stretch that is cut out is the
content of the element, what is left of it is the reading of the element, and a
missing or empty author falls back to the column.
-/
namespace GreenBubbles.Cached

open Archive
open Library.Search Library.Probing Library.Markup
open NestedXml (toAsciiLowercase)
open Send (isWhiteSpace)

variable {nodes : List Node} {tag list item : List Char}

/-! The moment of a tree -/

section Tree

variable (nodes : List Node)

def elementText (tag : List Char) : Option (List Char) :=
  (contentOf nodes tag).map (reading isWhiteSpace)

def elementInteger (tag : List Char) : Option ℤ :=
  (elementText nodes tag).bind fun text => parseI64 (trim text)

/-- A field of the content object. -/
def objectElement (tag : List Char) : Option (List Char) :=
  (contentOf nodes "ContentObject".toList).bind fun content => elementText content tag

/-- How many elements of a name are in the first list. -/
def listedCount (list item : List Char) : ℕ :=
  ((contentOf nodes list).map (elementCountAll (named item))).getD 0

/-- The author of the document; the column where there is none or an empty one. -/
def treeAuthor (userName : Option (List UInt8)) : Option (List UInt8) :=
  (((elementText nodes "username".toList).filter (· ≠ [])).map textBytes).or
    (userName.filter (· ≠ []))

/-- The record with the fields of the tree. -/
def treeMoment (source : CachedMomentSource) (row : CachedMomentRow) : CanonicalCachedMoment :=
  { restoreMoment source row with
    authorId := (treeAuthor nodes row.userName).map (scopedOpaqueId source.accountId)
    authorSourceIdentifierBase64 := (treeAuthor nodes row.userName).map encode
    createdAtUnix := elementInteger nodes "createTime".toList
    contentType := (contentOf nodes "ContentObject".toList).bind fun content =>
      elementInteger content "type".toList
    contentDescriptionBase64 := (elementText nodes "contentDesc".toList).map encodeText
    titleBase64 := (objectElement nodes "title".toList).map encodeText
    descriptionBase64 := (objectElement nodes "description".toList).map encodeText
    contentUrlBase64 := (objectElement nodes "contentUrl".toList).map encodeText
    mediaCount := listedCount nodes "mediaList".toList "media".toList
    likeCount := listedCount nodes "like_user_list".toList "user_comment".toList
    commentCount := listedCount nodes "comment_user_list".toList "user_comment".toList }

end Tree

/-! What is taken -/

def documentTags : List (List Char) :=
  ["username".toList, "createTime".toList, "contentDesc".toList]

def objectTags : List (List Char) :=
  ["type".toList, "title".toList, "description".toList, "contentUrl".toList]

/-- The lists of a moment and what is counted in them. -/
def countedLists : List (List Char × List Char) :=
  [("mediaList".toList, "media".toList), ("like_user_list".toList, "user_comment".toList),
    ("comment_user_list".toList, "user_comment".toList)]

/-- The lists that are looked for in the pack first. -/
def packLists : List (List Char) := ["like_user_list".toList, "comment_user_list".toList]

def packText (row : CachedMomentRow) : List Char := (row.packInfo.map fromUtf8Lossy).getD []

def TakesText (nodes : List Node) (tag : List Char) : Prop :=
  tagRange (writeAll nodes) tag = contentRange nodes tag ∧
    tagText (writeAll nodes) tag = elementText nodes tag

def TakesCount (nodes : List Node) (list item : List Char) : Prop :=
  sectionRange (writeAll nodes) list = contentRange nodes list ∧
    ∀ content ∈ contentOf nodes list,
      countOpenTags (writeAll content) item = elementCountAll (named item) content

/-- Every field is taken from the elements of the tree. -/
structure TakenFromTree (source : CachedMomentSource) (row : CachedMomentRow)
    (nodes : List Node) : Prop where
  texts : ∀ tag ∈ documentTags, TakesText nodes tag
  object : sectionRange (writeAll nodes) "ContentObject".toList =
    contentRange nodes "ContentObject".toList
  objectTexts : ∀ content ∈ contentOf nodes "ContentObject".toList, ∀ tag ∈ objectTags,
    TakesText content tag
  counts : ∀ counted ∈ countedLists, TakesCount nodes counted.1 counted.2
  pack : ∀ list ∈ packLists, sectionText (packText row) list = none
  moment : restoreMoment source row = treeMoment nodes source row

/-! When it is -/

def TextExposed (nodes : List Node) (tag : List Char) : Prop :=
  FoundByTag nodes tag ∧ ∀ content ∈ contentOf nodes tag, Plain content

def CountExposed (nodes : List Node) (list item : List Char) : Prop :=
  FoundByPrefix nodes list ∧ ∀ content ∈ contentOf nodes list, hiddenCountAll item content = 0

/-- Nothing stands in the way of the searches, and no empty author in the way of the column. -/
structure Exposed (row : CachedMomentRow) (nodes : List Node) : Prop where
  texts : ∀ tag ∈ documentTags, TextExposed nodes tag
  object : FoundByPrefix nodes "ContentObject".toList
  objectTexts : ∀ content ∈ contentOf nodes "ContentObject".toList, ∀ tag ∈ objectTags,
    TextExposed content tag
  counts : ∀ counted ∈ countedLists, CountExposed nodes counted.1 counted.2
  pack : ∀ list ∈ packLists, Unclosed OpensSection (packText row) list
  author : elementText nodes "username".toList = some [] → ∀ name ∈ row.userName, name = []

section Taken

theorem tagText_eq (h : tagRange (writeAll nodes) tag = contentRange nodes tag)
    (hseparated : separatedAll nodes = true) : tagText (writeAll nodes) tag =
      (contentOf nodes tag).map fun content => unwrapCdata (trim (writeAll content)) := by
  have hslices := congrArg (Option.map fun text => unwrapCdata (trim text))
    (slice_contentOf hseparated h)
  rw [Option.map_map, Option.map_map] at hslices
  exact hslices

variable (hplain : ∀ c ∈ tag, c ∉ nameEnds) (hseparated : separatedAll nodes = true)

include hplain hseparated

theorem takesText_iff : TakesText nodes tag ↔ TextExposed nodes tag := by
  unfold TakesText TextExposed
  rw [tagRange_iff hplain hseparated]
  apply and_congr_right
  intro hfound
  rw [tagText_eq ((tagRange_iff hplain hseparated).mpr hfound) hseparated, elementText]
  cases hcontent : contentOf nodes tag with
  | none => simp
  | some content =>
    have hinner := separated_content hseparated hcontent
    simp only [Option.map_some, Option.some.injEq, clean_iff hinner, Option.mem_def, forall_eq']

theorem takesCount_iff (hitem : ∀ c ∈ item, c ∉ nameEnds) (hne : item ≠ []) :
    TakesCount nodes tag item ↔ CountExposed nodes tag item := by
  unfold TakesCount CountExposed
  rw [sectionRange_iff hplain hseparated]
  apply and_congr_right
  intro _
  apply forall₂_congr
  intro content _
  rw [countOpenTags_eq hitem hne]
  omega

end Taken

/-! The record -/

section Record

variable {source : CachedMomentSource} {row : CachedMomentRow}

theorem tagI64_eq (h : TakesText nodes tag) :
    tagI64 (writeAll nodes) tag = elementInteger nodes tag := by
  rw [tagI64, h.2, elementInteger]

theorem sectionText_eq (hseparated : separatedAll nodes = true)
    (h : sectionRange (writeAll nodes) tag = contentRange nodes tag) :
    sectionText (writeAll nodes) tag = (contentOf nodes tag).map writeAll :=
  slice_contentOf hseparated h

theorem sectionText_eq_none {text : List Char} :
    sectionText text tag = none ↔ Unclosed OpensSection text tag :=
  Option.map_eq_none_iff.trans sectionRange_eq_none

theorem bind_object {β : Type} (hseparated : separatedAll nodes = true)
    (hobject : sectionRange (writeAll nodes) tag = contentRange nodes tag)
    (read : List Char → Option β) (elements : List Node → Option β)
    (hread : ∀ content ∈ contentOf nodes tag, read (writeAll content) = elements content) :
    (sectionText (writeAll nodes) tag).bind read = (contentOf nodes tag).bind elements := by
  rw [sectionText_eq hseparated hobject]
  cases hcontent : contentOf nodes tag with
  | none => rfl
  | some content => exact hread content hcontent

theorem count_eq (hseparated : separatedAll nodes = true) (h : TakesCount nodes list item) :
    ((sectionText (writeAll nodes) list).map fun value => countOpenTags value item).getD 0 =
      listedCount nodes list item := by
  rw [sectionText_eq hseparated h.1, listedCount, Option.map_map]
  cases hcontent : contentOf nodes list with
  | none => rfl
  | some content => exact h.2 content hcontent

theorem textBytes_nil : textBytes [] = [] := rfl

theorem textBytes_eq_nil {text : List Char} (h : textBytes text = []) : text = [] := by
  have hsame : String.ofList text = String.ofList [] := Library.Bytes.utf8_injective h
  exact String.ofList_injective hsame

theorem filter_nonempty {α : Type} [DecidableEq α] {values : List α} (h : values ≠ []) :
    (some values).filter (fun values => decide (values ≠ [])) = some values :=
  Option.filter_some_pos (by simpa using h)

theorem filter_nil {α : Type} [DecidableEq α] :
    (some ([] : List α)).filter (fun values => decide (values ≠ [])) = none :=
  Option.filter_some_neg (by simp)

/-- An author element with a text, or none at all, leaves the column where it should be. -/
theorem momentAuthor_eq (h : TakesText nodes "username".toList) {userName : Option (List UInt8)}
    (hcolumn : elementText nodes "username".toList = some [] → ∀ name ∈ userName, name = []) :
    momentAuthor (writeAll nodes) userName = treeAuthor nodes userName := by
  rw [momentAuthor, treeAuthor, h.2]
  cases hauthor : elementText nodes "username".toList with
  | none => rfl
  | some text =>
    by_cases htext : text = []
    · rw [htext, filter_nil, Option.map_some, Option.some_or, textBytes_nil, filter_nil]
      cases userName with
      | none => rfl
      | some name =>
        rw [hcolumn (by rw [hauthor, htext]) name rfl, filter_nil]
        rfl
    · have hbytes : textBytes text ≠ [] := fun hempty => htext (textBytes_eq_nil hempty)
      rw [filter_nonempty htext, Option.map_some, Option.some_or, filter_nonempty hbytes]
      rfl

/-- An empty author element hides the column. -/
theorem momentAuthor_hidden (h : TakesText nodes "username".toList)
    (hempty : elementText nodes "username".toList = some []) (userName : Option (List UInt8)) :
    momentAuthor (writeAll nodes) userName = none := by
  rw [momentAuthor, h.2, hempty, Option.map_some, Option.some_or, textBytes_nil, filter_nil]

theorem treeAuthor_column (hempty : elementText nodes "username".toList = some [])
    {name : List UInt8} (hname : name ≠ []) : treeAuthor nodes (some name) = some name := by
  rw [treeAuthor, hempty, filter_nil, filter_nonempty hname]
  rfl

theorem typedContent_stored (h : row.content = some (textBytes (writeAll nodes))) :
    (row.content.map fromUtf8Lossy).getD [] = writeAll nodes := by
  rw [h, Option.map_some, fromUtf8Lossy_textBytes]
  rfl

/-- Where every search cuts out what it should, the record is the tree's but for the author. -/
theorem moment_iff (hseparated : separatedAll nodes = true)
    (hcontent : row.content = some (textBytes (writeAll nodes)))
    (htexts : ∀ tag ∈ documentTags, TakesText nodes tag)
    (hobject : sectionRange (writeAll nodes) "ContentObject".toList =
      contentRange nodes "ContentObject".toList)
    (hfields : ∀ content ∈ contentOf nodes "ContentObject".toList, ∀ tag ∈ objectTags,
      TakesText content tag)
    (hcounts : ∀ counted ∈ countedLists, TakesCount nodes counted.1 counted.2)
    (hpack : ∀ list ∈ packLists, sectionText (packText row) list = none) :
    restoreMoment source row = treeMoment nodes source row ↔
      (elementText nodes "username".toList = some [] → ∀ name ∈ row.userName, name = []) := by
  have htyped := typedContent_stored hcontent
  have hauthor : TakesText nodes "username".toList := htexts _ (by decide)
  have hobjectText : ∀ tag ∈ objectTags,
      objectText (writeAll nodes) tag = objectElement nodes tag := fun tag htag =>
    bind_object hseparated hobject _ _ fun content hin => (hfields content hin tag htag).2
  have htype : ((sectionText (writeAll nodes) "ContentObject".toList).bind fun value =>
      tagI64 value "type".toList) = (contentOf nodes "ContentObject".toList).bind fun content =>
        elementInteger content "type".toList :=
    bind_object hseparated hobject _ _ fun content hin =>
      tagI64_eq (hfields content hin _ (by decide))
  have hlisted : ∀ list ∈ packLists, (list, "user_comment".toList) ∈ countedLists →
      userCommentCount (packText row) (writeAll nodes) list =
        listedCount nodes list "user_comment".toList := by
    intro list hlist hcounted
    rw [userCommentCount, hpack list hlist, Option.none_or]
    exact count_eq hseparated (hcounts _ hcounted)
  constructor
  · intro hmoment hempty name hname
    by_contra hne
    have hfield := congrArg CanonicalCachedMoment.authorSourceIdentifierBase64 hmoment
    simp only [restoreMoment, treeMoment, htyped, momentAuthor_hidden hauthor hempty,
      Option.mem_def.mp hname, treeAuthor_column hempty hne] at hfield
    cases hfield
  · intro hcolumn
    have hpackText : (row.packInfo.map fromUtf8Lossy).getD [] = packText row := rfl
    simp only [restoreMoment, treeMoment, htyped, hpackText, momentAuthor_eq hauthor hcolumn,
      tagI64_eq (htexts "createTime".toList (by decide)), htype,
      (htexts "contentDesc".toList (by decide)).2, hobjectText "title".toList (by decide),
      hobjectText "description".toList (by decide), hobjectText "contentUrl".toList (by decide),
      count_eq hseparated (hcounts ("mediaList".toList, "media".toList) (by decide)),
      hlisted "like_user_list".toList (by decide) (by decide),
      hlisted "comment_user_list".toList (by decide) (by decide)]

end Record

/-! Documents with the same elements -/

section Outlines

/-- The elements whose texts are kept where the other texts of a document are not. -/
def keptName (name : List Char) : Bool :=
  named "username".toList name || named "createTime".toList name

/-- The documents differ in texts, CDATA, comments and instructions outside of the author and the
time alone. -/
def SameElements (nodes other : List Node) : Prop :=
  outlineAll keptName nodes = outlineAll keptName other

theorem contentOf_value {β : Type} (value : List Node → β) :
    (contentOf nodes tag).map value =
      ((locateAll (named tag) nodes).map fun site =>
        site.content.map fun content => value content.1).bind id := by
  rw [contentOf, contentSite]
  cases locateAll (named tag) nodes with
  | none => rfl
  | some site => cases hcontent : site.content <;> simp [hcontent]

theorem elementText_outline (hkept : ∀ name, named tag name = true → keptName name = true) :
    elementText (outlineAll keptName nodes) tag = elementText nodes tag := by
  have houtlined : Outlined keptName (named tag)
      (fun content => content.map fun content => reading isWhiteSpace content.1) := by
    intro name hname hdropped
    rw [hkept name hname] at hdropped
    cases hdropped
  rw [elementText, elementText, contentOf_value, contentOf_value, locateAll_outline houtlined]

theorem listedCount_outline :
    listedCount (outlineAll keptName nodes) list item = listedCount nodes list item := by
  have houtlined : Outlined keptName (named list)
      (fun content => content.map fun content => elementCountAll (named item) content.1) := by
    intro name hname hdropped children trailing
    exact congrArg some (elementCountAll_outline children)
  rw [listedCount, listedCount, contentOf_value, contentOf_value, locateAll_outline houtlined]

end Outlines

/-! Every document -/

/-- The row with a document stored in it. -/
def stored (row : CachedMomentRow) (document : Document) : CachedMomentRow :=
  { row with content := some (textBytes (writeAll document.nodes)) }

/-- Two records name the same author and time and count the same. -/
structure Agree (first second : CanonicalCachedMoment) : Prop where
  authorId : first.authorId = second.authorId
  author : first.authorSourceIdentifierBase64 = second.authorSourceIdentifierBase64
  createdAt : first.createdAtUnix = second.createdAtUnix
  mediaCount : first.mediaCount = second.mediaCount
  likeCount : first.likeCount = second.likeCount
  commentCount : first.commentCount = second.commentCount

section Main

variable {source : CachedMomentSource} {row : CachedMomentRow}

theorem plain_of_all {name : List Char} (h : name.all (· ∉ nameEnds) = true) :
    ∀ c ∈ name, c ∉ nameEnds := List.all_iff_forall_prop.mp h

theorem plain_tags : ∀ tag ∈ documentTags ++ objectTags, ∀ c ∈ tag, c ∉ nameEnds := by
  intro tag htag
  have hplain : ((documentTags ++ objectTags).all fun tag => tag.all (· ∉ nameEnds)) = true := by
    decide
  exact plain_of_all (List.all_eq_true.mp hplain tag htag)

theorem plain_lists : ∀ counted ∈ countedLists,
    (∀ c ∈ counted.1, c ∉ nameEnds) ∧ (∀ c ∈ counted.2, c ∉ nameEnds) ∧ counted.2 ≠ [] := by
  intro counted hcounted
  have hplain : (countedLists.all fun counted => counted.1.all (· ∉ nameEnds) &&
      (counted.2.all (· ∉ nameEnds) && counted.2 ≠ [])) = true := by
    decide
  have hlists := List.all_eq_true.mp hplain counted hcounted
  simp only [Bool.and_eq_true, decide_eq_true_eq] at hlists
  exact ⟨plain_of_all hlists.1, plain_of_all hlists.2.1, hlists.2.2⟩

theorem plain_object : ∀ c ∈ "ContentObject".toList, c ∉ nameEnds := plain_of_all (by decide)

/-- The searches take every stretch and text from the tree exactly where nothing is in the way. -/
theorem taken_iff (hseparated : separatedAll nodes = true)
    (hcontent : row.content = some (textBytes (writeAll nodes))) :
    TakenFromTree source row nodes ↔ Exposed row nodes := by
  have htexts : ∀ nodes : List Node, separatedAll nodes = true → ∀ tag ∈ documentTags ++ objectTags,
      (TakesText nodes tag ↔ TextExposed nodes tag) :=
    fun nodes hnodes tag htag => takesText_iff (plain_tags tag htag) hnodes
  have hdocument := fun tag htag => htexts nodes hseparated tag (List.mem_append_left _ htag)
  have hfields : ∀ content ∈ contentOf nodes "ContentObject".toList, ∀ tag ∈ objectTags,
      (TakesText content tag ↔ TextExposed content tag) := fun content hin tag htag =>
    htexts content (separated_content hseparated hin) tag (List.mem_append_right _ htag)
  have hcounts := fun counted hcounted =>
    have hplain := plain_lists counted hcounted
    takesCount_iff hplain.1 hseparated hplain.2.1 hplain.2.2
  constructor
  · intro h
    exact
      { texts := fun tag htag => (hdocument tag htag).mp (h.texts tag htag)
        object := (sectionRange_iff plain_object hseparated).mp h.object
        objectTexts := fun content hin tag htag =>
          (hfields content hin tag htag).mp (h.objectTexts content hin tag htag)
        counts := fun counted hcounted => (hcounts counted hcounted).mp (h.counts counted hcounted)
        pack := fun list hlist => sectionText_eq_none.mp (h.pack list hlist)
        author := (moment_iff hseparated hcontent h.texts h.object h.objectTexts h.counts h.pack).mp
          h.moment }
  · intro h
    have hobject := (sectionRange_iff plain_object hseparated).mpr h.object
    have htaken := fun tag htag => (hdocument tag htag).mpr (h.texts tag htag)
    have hinner := fun content hin tag htag =>
      (hfields content hin tag htag).mpr (h.objectTexts content hin tag htag)
    have hcounted := fun counted hcounted => (hcounts counted hcounted).mpr (h.counts counted hcounted)
    have hpack := fun list hlist => sectionText_eq_none.mpr (h.pack list hlist)
    exact
      { texts := htaken
        object := hobject
        objectTexts := hinner
        counts := hcounted
        pack := hpack
        moment := (moment_iff hseparated hcontent htaken hobject hinner hcounted hpack).mpr
          h.author }

/-- The trees of documents with the same elements agree. -/
theorem agree_tree {other : List Node} (hsame : SameElements nodes other)
    (row' : CachedMomentRow) (huser : row.userName = row'.userName) :
    Agree (treeMoment nodes source row) (treeMoment other source row') := by
  have htext : ∀ tag, (∀ name, named tag name = true → keptName name = true) →
      elementText nodes tag = elementText other tag := by
    intro tag hkept
    rw [← elementText_outline hkept, hsame, elementText_outline hkept]
  have hcount : ∀ list item, listedCount nodes list item = listedCount other list item := by
    intro list item
    rw [← listedCount_outline, hsame, listedCount_outline]
  have husername := htext "username".toList fun name hname => by
    rw [keptName, hname, Bool.true_or]
  have htime := htext "createTime".toList fun name hname => by
    rw [keptName, hname, Bool.or_true]
  have hauthor : treeAuthor nodes row.userName = treeAuthor other row'.userName := by
    rw [treeAuthor, treeAuthor, husername, huser]
  exact
    { authorId := by simp only [treeMoment, hauthor]
      author := by simp only [treeMoment, hauthor]
      createdAt := by simp only [treeMoment, elementInteger, htime]
      mediaCount := hcount _ _
      likeCount := hcount _ _
      commentCount := hcount _ _ }

/-- The record takes its fields from the elements of the document exactly where nothing stands in
the way of the searches; documents with the same elements then have the same author, time and
counts, whatever their texts say. -/
theorem takenFromTree_iff (source : CachedMomentSource) (row : CachedMomentRow)
    (document : Document) :
    (TakenFromTree source (stored row document) document.nodes ↔
        Exposed (stored row document) document.nodes) ∧
      ∀ other : Document, SameElements document.nodes other.nodes →
        Exposed (stored row document) document.nodes → Exposed (stored row other) other.nodes →
          Agree (restoreMoment source (stored row document))
            (restoreMoment source (stored row other)) := by
  refine ⟨taken_iff document.separated rfl, fun other hsame hexposed hother => ?_⟩
  have htaken : TakenFromTree source (stored row document) document.nodes :=
    (taken_iff document.separated rfl).mpr hexposed
  have htaken' : TakenFromTree source (stored row other) other.nodes :=
    (taken_iff other.separated rfl).mpr hother
  rw [htaken.moment, htaken'.moment]
  exact agree_tree hsame _ rfl

end Main

/-! A document that names somebody else -/

section Sample

def bareTag (name : List Char) (named : name ≠ []) (plain : ∀ c ∈ name, c ∉ nameEnds) : Tag where
  name := name
  rest := []
  named := named
  plain := plain
  unopened := List.not_mem_nil
  parted := fun c hc => by cases hc
  unslashed := by decide

def noBlank : Blank := ⟨[], fun _ hc => absurd hc List.not_mem_nil⟩

def timelineTag : Tag := bareTag "TimelineObject".toList (by decide) (plain_of_all (by decide))
def usernameTag : Tag := bareTag "username".toList (by decide) (plain_of_all (by decide))
def descriptionTag : Tag := bareTag "contentDesc".toList (by decide) (plain_of_all (by decide))

def authorName : Text where
  chars := "alice".toList
  unopened := by decide
  unclosed := (indexOf_eq_none (by decide)).mp (by decide)

def quotedElement : Enclosed where
  kind := .cdata
  chars := "<username>mallory</username>".toList
  closed := fun _ => by decide

/-- A description quotes an author element in front of the author. -/
def spoofed : Document where
  nodes := [.element timelineTag
    [.element descriptionTag [.enclosed quotedElement] noBlank,
      .element usernameTag [.text authorName] noBlank] noBlank]
  separated := by decide

/-- The author element is there and empty. -/
def authorless : Document where
  nodes := [.element timelineTag [.element usernameTag [] noBlank] noBlank]
  separated := by decide

def sampleSource : CachedMomentSource := ⟨"owner", "set", "sns.db", "table", "SnsTimeLine", ""⟩

def sampleRow : CachedMomentRow := ⟨1, none, some (textBytes "bob".toList), none, none, ∅⟩

theorem tagText_spoofed :
    tagText (writeAll spoofed.nodes) "username".toList = some "mallory".toList := by
  decide +kernel

theorem elementText_spoofed :
    elementText spoofed.nodes "username".toList = some "alice".toList := by
  decide +kernel

theorem tagText_authorless : tagText (writeAll authorless.nodes) "username".toList = some [] := by
  decide +kernel

theorem elementText_authorless : elementText authorless.nodes "username".toList = some [] := by
  decide +kernel

theorem recorded_author (source : CachedMomentSource) (row : CachedMomentRow)
    (document : Document) :
    (restoreMoment source (stored row document)).authorSourceIdentifierBase64 =
      (momentAuthor (writeAll document.nodes) row.userName).map encode := by
  have htyped := @typedContent_stored document.nodes (stored row document) rfl
  simp only [restoreMoment, htyped]
  rfl

/-- The quoted element is the author of the record, and the column is lost to an empty element. -/
theorem spoofed_author :
    ¬ TakenFromTree sampleSource (stored sampleRow spoofed) spoofed.nodes ∧
      (restoreMoment sampleSource (stored sampleRow spoofed)).authorSourceIdentifierBase64 =
        some (encodeText "mallory".toList) ∧
      treeAuthor spoofed.nodes sampleRow.userName = some (textBytes "alice".toList) ∧
      ¬ TakenFromTree sampleSource (stored sampleRow authorless) authorless.nodes ∧
      (restoreMoment sampleSource (stored sampleRow authorless)).authorSourceIdentifierBase64 =
        none ∧
      treeAuthor authorless.nodes sampleRow.userName = some (textBytes "bob".toList) := by
  have hname : "mallory".toList ≠ [] := by decide
  have hcolumn : treeAuthor authorless.nodes sampleRow.userName = some (textBytes "bob".toList) :=
    treeAuthor_column elementText_authorless fun hempty => by
      exact absurd (textBytes_eq_nil hempty) (by decide)
  have hhidden : (restoreMoment sampleSource
      (stored sampleRow authorless)).authorSourceIdentifierBase64 = none := by
    rw [recorded_author, momentAuthor, tagText_authorless, Option.map_some, Option.some_or,
      textBytes_nil, filter_nil]
    rfl
  refine ⟨fun h => ?_, ?_, ?_, fun h => ?_, hhidden, hcolumn⟩
  · have hsame := (h.texts "username".toList (by decide)).2
    rw [tagText_spoofed, elementText_spoofed] at hsame
    exact absurd hsame (by decide)
  · rw [recorded_author, momentAuthor, tagText_spoofed, Option.map_some, Option.some_or,
      filter_nonempty fun hempty => hname (textBytes_eq_nil hempty)]
    rfl
  · rw [treeAuthor, elementText_spoofed, filter_nonempty (by decide)]
    rfl
  · rw [h.moment, treeMoment] at hhidden
    simp only [stored] at hhidden
    rw [hcolumn] at hhidden
    cases hhidden

def digits : Text where
  chars := "17".toList
  unopened := by decide
  unclosed := (indexOf_eq_none (by decide)).mp (by decide)

def createTimeTag : Tag := bareTag "createTime".toList (by decide) (plain_of_all (by decide))
def objectTag : Tag := bareTag "ContentObject".toList (by decide) plain_object
def typeTag : Tag := bareTag "type".toList (by decide) (plain_of_all (by decide))
def mediaListTag : Tag := bareTag "mediaList".toList (by decide) (plain_of_all (by decide))
def mediaTag : Tag := bareTag "media".toList (by decide) (plain_of_all (by decide))

/-- The usual order: the author and the time first, what they say behind them. -/
def unspoofed : Document where
  nodes := [.element timelineTag
    [.element usernameTag [.text authorName] noBlank,
      .element createTimeTag [.text digits] noBlank,
      .element descriptionTag [.enclosed quotedElement] noBlank,
      .element objectTag
        [.element typeTag [.text digits] noBlank,
          .element mediaListTag [.empty mediaTag] noBlank] noBlank] noBlank]
  separated := by decide

example : TakenFromTree sampleSource (stored sampleRow unspoofed) unspoofed.nodes := by
  have htexts : ∀ tag ∈ documentTags, TakesText unspoofed.nodes tag := by
    unfold TakesText
    decide +kernel
  have hobject : sectionRange (writeAll unspoofed.nodes) "ContentObject".toList =
      contentRange unspoofed.nodes "ContentObject".toList := by decide +kernel
  have hinner : ∀ content ∈ contentOf unspoofed.nodes "ContentObject".toList,
      ∀ tag ∈ objectTags, TakesText content tag := by
    unfold TakesText
    decide +kernel
  have hcounts : ∀ counted ∈ countedLists, TakesCount unspoofed.nodes counted.1 counted.2 := by
    unfold TakesCount
    decide +kernel
  have hpack : ∀ list ∈ packLists,
      sectionText (packText (stored sampleRow unspoofed)) list = none := by
    change ∀ list ∈ packLists, sectionText [] list = none
    decide
  have hauthor : elementText unspoofed.nodes "username".toList ≠ some [] := by decide +kernel
  exact ⟨htexts, hobject, hinner, hcounts, hpack,
    (moment_iff unspoofed.separated rfl htexts hobject hinner hcounts hpack).mpr
      fun hempty => absurd hempty hauthor⟩

end Sample

end GreenBubbles.Cached
