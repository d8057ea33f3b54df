import GreenBubbles.Library.Utf8

/-! # Repair before parsing

Source strings carry XML declarations where none may stand and characters XML
forbids. The repair removes both before the parser reads the text. Positions are
byte offsets, and a slice that fails stands for a panic.
-/
namespace GreenBubbles.NestedXml

open Library.Search Library.Utf8

def msgTag : List Char := ['<', 'm', 's', 'g']
def declarationStart : List Char := ['<', '?', 'x', 'm', 'l']
def declarationEnd : List Char := ['?', '>']
def cdataStart : List Char := ['<', '!', '[', 'c', 'd', 'a', 't', 'a', '[']
def cdataEnd : List Char := [']', ']', '>']
def commentStart : List Char := ['<', '!', '-', '-']
def commentEnd : List Char := ['-', '-', '>']

def toAsciiLowercase (xml : List Char) : List Char := xml.map Char.toLower

/-- The scan for the end of a tag, with the quote it is in. -/
def tagEndFrom : Option Char → ℕ → List Char → Option ℕ
  | _, _, [] => none
  | some expected, index, value :: rest =>
    tagEndFrom (if value = expected then none else some expected) (index + value.utf8Size) rest
  | none, index, value :: rest =>
    if value = '\'' ∨ value = '"' then tagEndFrom (some value) (index + value.utf8Size) rest
    else if value = '>' then some index
    else tagEndFrom none (index + value.utf8Size) rest

def findTagEnd (xml : List Char) : Option ℕ := tagEndFrom none 0 xml

/-- The last openers and closers before a position decide, each construct for itself. -/
def insideCdataOrComment (lower : List Char) (position : ℕ) : Option Bool := do
  let before ← sliceTo lower position
  let inside := fun opener closer =>
    (rfind before opener).any fun start => (rfind before closer).all fun stop => stop < start
  return inside cdataStart cdataEnd || inside commentStart commentEnd

/-- The loop over the declarations behind the opening tag. It fails where it panics or takes
more rounds than it is given. -/
def declarationRanges (lower : List Char) (msgOpenEnd : ℕ) : ℕ → ℕ → Option (List (ℕ × ℕ))
  | 0, _ => none
  | rounds + 1, search => do
    let rest ← sliceFrom lower search
    match find rest declarationStart with
    | none => return []
    | some relative =>
      let start := search + relative
      let kept ← if start ≤ msgOpenEnd then some true else insideCdataOrComment lower start
      if kept then declarationRanges lower msgOpenEnd rounds (start + 5)
      else
        let declaration ← sliceFrom lower start
        match find declaration declarationEnd with
        | none => return []
        | some endRelative =>
          let stop := start + endRelative + 2
          let ranges ← declarationRanges lower msgOpenEnd rounds stop
          return (start, stop) :: ranges

/-- What stands outside the ranges, from the cursor on. -/
def withoutRanges (xml : List Char) : ℕ → List (ℕ × ℕ) → Option (List Char)
  | cursor, [] => sliceFrom xml cursor
  | cursor, (start, stop) :: ranges => do
    let kept ← slice xml cursor start
    let rest ← withoutRanges xml stop ranges
    return kept ++ rest

/-- The byte ranges that are removed; a loop round moves on by a character at least. -/
def misplacedDeclarations (xml : List Char) : Option (List (ℕ × ℕ)) :=
  let lower := toAsciiLowercase xml
  match find lower msgTag with
  | none => some []
  | some msgStart => do
    let opening ← sliceFrom xml msgStart
    match findTagEnd opening with
    | none => return []
    | some msgOpenEndRelative =>
      let msgOpenEnd := msgStart + msgOpenEndRelative
      declarationRanges lower msgOpenEnd (xml.length + 1) (msgOpenEnd + 1)

def repairMisplacedXmlDeclarations (xml : List Char) : Option (List Char) := do
  let ranges ← misplacedDeclarations xml
  if ranges.isEmpty then return xml
  withoutRanges xml 0 ranges

def isInvalidXmlCharacter (character : Char) : Bool :=
  let code := character.toNat
  !(code == 0x9 || code == 0xA || code == 0xD || (0x20 ≤ code && code ≤ 0xD7FF) ||
    (0xE000 ≤ code && code ≤ 0xFFFD) || (0x10000 ≤ code && code ≤ 0x10FFFF))

def repairInvalidXmlCharacters (xml : List Char) : List Char :=
  xml.filter fun character => !isInvalidXmlCharacter character

/-- Declarations first, then characters. -/
def repairXmlForParsing (xml : List Char) : Option (List Char) :=
  (repairMisplacedXmlDeclarations xml).map repairInvalidXmlCharacters

end GreenBubbles.NestedXml
