import Mathlib.Data.List.DropRight
import GreenBubbles.Archive.Records
import GreenBubbles.Digest
import GreenBubbles.Library.Base64
import GreenBubbles.NestedXml.Repair
import GreenBubbles.Send.Config

/-! # Cached moments

A row of the cached timeline as the restore records it. The fields are cut out of
the text of the row by searches for tags. Positions count characters: every
position is the edge of an ASCII pattern.
-/
namespace GreenBubbles.Cached

open Std Archive
open Library Library.Bytes Library.Search
open NestedXml (toAsciiLowercase)
open Send (isWhiteSpace)

/-! Text -/

def replacementCharacter : Char := '\uFFFD'

def isContinuation (byte : UInt8) : Bool := 0x80 ≤ byte && byte ≤ 0xBF

/-- What may follow the first byte of a character, and how many bytes the character has. -/
def encodingOf (first : UInt8) : Option (ℕ × (UInt8 → Bool)) :=
  if first < 0x80 then some (1, fun _ => true)
  else if 0xC2 ≤ first && first ≤ 0xDF then some (2, isContinuation)
  else if first = 0xE0 then some (3, fun byte => 0xA0 ≤ byte && byte ≤ 0xBF)
  else if first = 0xED then some (3, fun byte => 0x80 ≤ byte && byte ≤ 0x9F)
  else if 0xE1 ≤ first && first ≤ 0xEF then some (3, isContinuation)
  else if first = 0xF0 then some (4, fun byte => 0x90 ≤ byte && byte ≤ 0xBF)
  else if first = 0xF4 then some (4, fun byte => 0x80 ≤ byte && byte ≤ 0x8F)
  else if 0xF1 ≤ first && first ≤ 0xF3 then some (4, isContinuation)
  else none

/-- The longest start of a character's encoding, and whether it is all of it. -/
def nextSequence (bytes : List UInt8) : ℕ × Bool :=
  match bytes with
  | [] => (0, false)
  | first :: rest =>
    match encodingOf first with
    | none => (1, false)
    | some (width, allowsSecond) =>
      if width = 1 then (1, true)
      else if rest.head?.any allowsSecond then
        let more := (rest.tail.take (width - 2)).takeWhile isContinuation
        (2 + more.length, more.length = width - 2)
      else (1, false)

/-- Every start of a character that does not end as one is replaced by one character. -/
def replaceInvalid : ℕ → List UInt8 → List Char
  | 0, _ => []
  | _ + 1, [] => []
  | rounds + 1, bytes =>
    let (length, whole) := nextSequence bytes
    let decoded :=
      if whole then ((String.fromUTF8? ⟨(bytes.take length).toArray⟩).map String.toList).getD []
      else [replacementCharacter]
    decoded ++ replaceInvalid rounds (bytes.drop length)

def fromUtf8Lossy (bytes : List UInt8) : List Char :=
  match String.fromUTF8? ⟨bytes.toArray⟩ with
  | some text => text.toList
  | none => replaceInvalid bytes.length bytes

def trim (text : List Char) : List Char :=
  (text.dropWhile isWhiteSpace).rdropWhile isWhiteSpace

/-- Digits behind an optional sign, in the range of the type. -/
def parseI64 (text : List Char) : Option ℤ :=
  let digitsOf (digits : List Char) (bound : ℕ) : Option ℕ :=
    if digits = [] ∨ digits.any (fun c => !c.isDigit) then none
    else
      let value := Nat.ofDigitChars 10 digits 0
      if value < bound then some value else none
  match text with
  | '-' :: digits => (digitsOf digits (2 ^ 63 + 1)).map fun value => -(value : ℤ)
  | '+' :: digits => (digitsOf digits (2 ^ 63)).map fun value => (value : ℤ)
  | digits => (digitsOf digits (2 ^ 63)).map fun value => (value : ℤ)

/-! Tags -/

def openTag (tag : List Char) : List Char := '<' :: (toAsciiLowercase tag ++ ['>'])

def openTagWithAttributes (tag : List Char) : List Char := '<' :: (toAsciiLowercase tag ++ [' '])

def openPrefix (tag : List Char) : List Char := '<' :: toAsciiLowercase tag

def closeTag (tag : List Char) : List Char := '<' :: '/' :: (toAsciiLowercase tag ++ ['>'])

/-- Behind the next end of a tag. -/
def behindTagEnd (lower : List Char) (index : ℕ) : Option ℕ :=
  (indexOf ['>'] (lower.drop index)).map fun offset => index + offset + 1

/-- Where the text of a tag starts. The form with attributes counts where the other is nowhere. -/
def tagStart (lower tag : List Char) : Option ℕ :=
  ((indexOf (openTag tag) lower).map fun index => index + (openTag tag).length).or
    ((indexOf (openTagWithAttributes tag) lower).bind (behindTagEnd lower))

/-- From a start to the first closing tag behind it. -/
def closedRange (lower tag : List Char) (start : ℕ) : Option (ℕ × ℕ) :=
  (indexOf (closeTag tag) (lower.drop start)).map fun offset => (start, start + offset)

def tagRange (value tag : List Char) : Option (ℕ × ℕ) :=
  let lower := toAsciiLowercase value
  (tagStart lower tag).bind (closedRange lower tag)

def slice (value : List Char) (range : ℕ × ℕ) : List Char := (value.take range.2).drop range.1

def cdataStart : List Char := ['<', '!', '[', 'C', 'D', 'A', 'T', 'A', '[']
def cdataEnd : List Char := [']', ']', '>']

def unwrapCdata (result : List Char) : List Char :=
  if cdataStart.isPrefixOf result && cdataEnd.isSuffixOf result && decide (12 ≤ result.length) then
    (result.take (result.length - 3)).drop 9
  else result

def tagText (value tag : List Char) : Option (List Char) :=
  (tagRange value tag).map fun range => unwrapCdata (trim (slice value range))

def tagI64 (value tag : List Char) : Option ℤ :=
  (tagText value tag).bind fun text => parseI64 (trim text)

/-- The opening tag is found by its start alone. -/
def sectionRange (value tag : List Char) : Option (ℕ × ℕ) :=
  let lower := toAsciiLowercase value
  ((indexOf (openPrefix tag) lower).bind (behindTagEnd lower)).bind (closedRange lower tag)

def sectionText (value tag : List Char) : Option (List Char) :=
  (sectionRange value tag).map (slice value)

def tagDelimiters : List Char := ['>', ' ', '/', '\t', '\r', '\n']

/-- The loop over the starts of the tag; a round moves on by the length of one at least. -/
def countFrom (tag : List Char) : ℕ → List Char → ℕ
  | 0, _ => 0
  | rounds + 1, rest =>
    match indexOf (openPrefix tag) rest with
    | none => 0
    | some offset =>
      let behind := rest.drop (offset + (openPrefix tag).length)
      (if behind.head?.any (tagDelimiters.contains ·) then 1 else 0) + countFrom tag rounds behind

def countOpenTags (value tag : List Char) : ℕ :=
  countFrom tag (value.length + 1) (toAsciiLowercase value)

/-! Records -/

structure CachedMomentRow where
  sourceRowId : ℤ
  timelineId : Option RawSQLiteValue
  userName : Option (List UInt8)
  content : Option (List UInt8)
  packInfo : Option (List UInt8)
  rawColumns : ExtTreeMap String RawSQLiteValue

/-- Where the row stands and who reads it. -/
structure CachedMomentSource where
  accountId : String
  sourceSetId : String
  sourceLogicalPath : String
  sourceTableId : String
  sourceTableName : String
  observedAt : String

def opaqueId (value : List UInt8) : String := Sha256.hexDigest value

def scopedOpaqueId (scope : String) (value : List UInt8) : String :=
  Sha256.hexDigest (Bytes.utf8 scope ++ [0] ++ value)

def textBytes (text : List Char) : List UInt8 := Bytes.utf8 (String.ofList text)

theorem fromUtf8Lossy_textBytes (text : List Char) : fromUtf8Lossy (textBytes text) = text := by
  have hread : String.fromUTF8? ⟨(textBytes text).toArray⟩ = some (String.ofList text) := by
    rw [textBytes, Bytes.utf8, Array.toArray_toList]
    exact dif_pos (String.ofList text).isValidUTF8
  rw [fromUtf8Lossy, hread]
  exact String.toList_ofList

def encode (value : List UInt8) : String := Base64.encodeStandard value

def encodeText (text : List Char) : String := encode (textBytes text)

/-- The author of the text, or the column where the text names none; an empty one is left out. -/
def momentAuthor (content : List Char) (userName : Option (List UInt8)) : Option (List UInt8) :=
  (((tagText content "username".toList).map textBytes).or userName).filter (· ≠ [])

def hasTimeline (content : List Char) : Bool :=
  (indexOf "<TimelineObject".toList content).isSome ||
    (indexOf "<timelineobject".toList content).isSome

def semanticDecode (content : Option (List UInt8)) (typedContent : List Char) :
    SemanticDecodeState × Option String :=
  if content.isNone then
    (.partial_, some "cached moment content is absent; raw columns were retained")
  else if !hasTimeline typedContent then
    (.partial_, some
      "cached moment XML lacks a recognizable TimelineObject; raw content was retained")
  else (.complete, none)

/-- A field of the content object. -/
def objectText (content tag : List Char) : Option (List Char) :=
  (sectionText content "ContentObject".toList).bind fun value => tagText value tag

/-- A list is counted in the pack where that has one, and in the content otherwise. -/
def userCommentCount (pack content tag : List Char) : ℕ :=
  (((sectionText pack tag).or (sectionText content tag)).map fun value =>
    countOpenTags value "user_comment".toList).getD 0

def restoreMoment (source : CachedMomentSource) (row : CachedMomentRow) :
    CanonicalCachedMoment :=
  let typedContent := (row.content.map fromUtf8Lossy).getD []
  let typedPack := (row.packInfo.map fromUtf8Lossy).getD []
  let author := momentAuthor typedContent row.userName
  let (semanticDecodeState, semanticGapReason) := semanticDecode row.content typedContent
  let identity := source.sourceSetId ++ ":" ++ source.sourceTableId ++ ":" ++
    toString row.sourceRowId
  { canonicalId := opaqueId (Bytes.utf8 identity)
    accountId := source.accountId
    sourceSetId := source.sourceSetId
    sourceLogicalPath := source.sourceLogicalPath
    sourceTableId := source.sourceTableId
    sourceTableName := source.sourceTableName
    sourceRowId := row.sourceRowId
    timelineId := row.timelineId.getD .null
    authorId := author.map (scopedOpaqueId source.accountId)
    authorSourceIdentifierBase64 := author.map encode
    createdAtUnix := tagI64 typedContent "createTime".toList
    contentType := (sectionText typedContent "ContentObject".toList).bind fun value =>
      tagI64 value "type".toList
    contentDescriptionBase64 := (tagText typedContent "contentDesc".toList).map encodeText
    titleBase64 := (objectText typedContent "title".toList).map encodeText
    descriptionBase64 := (objectText typedContent "description".toList).map encodeText
    contentUrlBase64 := (objectText typedContent "contentUrl".toList).map encodeText
    mediaCount := ((sectionText typedContent "mediaList".toList).map fun value =>
      countOpenTags value "media".toList).getD 0
    likeCount := userCommentCount typedPack typedContent "like_user_list".toList
    commentCount := userCommentCount typedPack typedContent "comment_user_list".toList
    rawContentBase64 := row.content.map encode
    rawPackInfoBase64 := row.packInfo.map encode
    rawColumns := row.rawColumns
    semanticDecodeState := semanticDecodeState
    semanticGapReason := semanticGapReason
    observedAt := source.observedAt }

end GreenBubbles.Cached
