import ComplianceTriage.Manifest.Cursor
import ComplianceTriage.Manifest.Fault
import ComplianceTriage.Manifest.Scalar
import ComplianceTriage.Manifest.Token

/-!
# Anchors, tags and directives of a YAML text

An anchor names a node and an alias repeats it. A tag says what a node is, in full between `!<` and
`>`, or by a handle and a suffix. Percent escapes in it name bytes, and a zero byte ends it. A
directive before a document gives its version or defines a handle.
-/

namespace ComplianceTriage.Manifest

/-- Whether a text may follow the name of an anchor. -/
def endsAnchor : List Char → Bool
  | [] => true
  | c :: rest => atSpace (c :: rest) || "?:,]\x7d%@`".toList.contains c

/-- Reads the name of an anchor or alias, whose indicator has been read. -/
def readAnchorName (cursor : Cursor) : Except Fault (List Char × Cursor) :=
  let name := cursor.text.takeWhile isNameChar
  let next := cursor.skip name.length
  if name.isEmpty || !endsAnchor next.text then .error .badAnchor else .ok (name, next)

/-- The characters of a tag. Between `!<` and `>` some indicators of collections are allowed too. -/
def isTagChar (inFull : Bool) (c : Char) : Bool :=
  isNameChar c || ";/?:@&=+$.!~*'()".toList.contains c || (inFull && ",[]".toList.contains c)

/-- The bytes of characters that each take a single one. -/
def asciiBytes (text : List Char) : List UInt8 :=
  text.map fun c => UInt8.ofNat c.toNat

/-- The byte that a percent escape at the start of a text stands for. -/
def escapedByte? : List Char → Option UInt8
  | '%' :: a :: b :: _ => (Text.natural? 16 [a, b]).map UInt8.ofNat
  | _ => none

/-- The number of bytes behind the first one of a character. -/
def laterCount? (byte : UInt8) : Option Nat :=
  if byte < 0x80 then some 0
  else if 0xC0 ≤ byte && byte < 0xE0 then some 1
  else if 0xE0 ≤ byte && byte < 0xF0 then some 2
  else if 0xF0 ≤ byte && byte < 0xF8 then some 3
  else none

/-- Reads the percent escapes of the later bytes of a character. -/
def readLaterBytes : (count : Nat) → Cursor → Except Fault (List UInt8 × Cursor)
  | 0, cursor => .ok ([], cursor)
  | count + 1, cursor =>
    match escapedByte? cursor.text with
    | some byte =>
      if 0x80 ≤ byte && byte < 0xC0 then do
        let (bytes, next) ← readLaterBytes count (cursor.skip 3)
        return (byte :: bytes, next)
      else .error .badTag
    | none => .error .badTag

/-- Reads the percent escapes of the bytes that the first of them makes one character. Whether there
is such a character is left open. -/
def readEscapedBytes (cursor : Cursor) : Except Fault (List UInt8 × Cursor) :=
  match escapedByte? cursor.text with
  | some byte =>
    match laterCount? byte with
    | some count => do
      let (bytes, next) ← readLaterBytes count (cursor.skip 3)
      return (byte :: bytes, next)
    | none => .error .badTag
  | none => .error .badTag

/-- Reads the characters of a tag, as far as they go. -/
def readTagBytes (inFull : Bool) :
    (fuel : Nat) → (bytes : List UInt8) → Cursor → Except Fault (List UInt8 × Cursor)
  | 0, _, _ => .error .exhausted
  | fuel + 1, bytes, cursor =>
    match cursor.head? with
    | none => .ok (bytes, cursor)
    | some c =>
      if c = '%' then do
        let (more, next) ← readEscapedBytes cursor
        readTagBytes inFull fuel (bytes ++ more) next
      else if isTagChar inFull c then
        readTagBytes inFull fuel (bytes ++ asciiBytes [c]) (cursor.skip 1)
      else .ok (bytes, cursor)

/-- What counts of the bytes of a tag: those before the first zero. -/
def beforeZero (bytes : List UInt8) : List UInt8 :=
  bytes.takeWhile (· ≠ 0)

/-- Reads a handle: `!`, or a name between two of these. A name may lack the second one. -/
def readHandle (cursor : Cursor) : Except Fault (List Char × Cursor) :=
  if cursor.head? ≠ some '!' then .error .badTag
  else
    let name := (cursor.text.drop 1).takeWhile isNameChar
    let next := cursor.skip (1 + name.length)
    if next.head? = some '!' then .ok ('!' :: name ++ ['!'], next.skip 1)
    else .ok ('!' :: name, next)

/-- Whether a handle is complete: more than one character, the last of which is `!`. -/
def isNamedHandle (handle : List Char) : Bool :=
  1 < handle.length && handle.getLast? = some '!'

/-- Reads a tag up to where it ends: its handle and its suffix. A tag in full has no handle, and
nor has the tag that is only a `!`. -/
def readTagParts (fuel : Nat) (cursor : Cursor) :
    Except Fault (List Char × List UInt8 × Cursor) := do
  if (cursor.text.drop 1).head? = some '<' then
    let (bytes, next) ← readTagBytes true fuel [] (cursor.skip 2)
    if bytes.isEmpty || next.head? ≠ some '>' then throw .badTag
    return ([], beforeZero bytes, next.skip 1)
  else
    let (handle, next) ← readHandle cursor
    if isNamedHandle handle then
      let (bytes, next) ← readTagBytes false fuel [] next
      if bytes.isEmpty then throw .badTag
      return (handle, beforeZero bytes, next)
    else
      -- What would have been the name of a handle is the start of the suffix.
      let (bytes, next) ← readTagBytes false fuel (asciiBytes (handle.drop 1)) next
      let suffix := beforeZero bytes
      if suffix.isEmpty then return ([], asciiBytes ['!'], next)
      return (['!'], suffix, next)

/-- Reads a tag. A blank or a break follows it, or in brackets a comma. -/
def readTag (inFlow : Bool) (fuel : Nat) (cursor : Cursor) : Except Fault (Token × Cursor) := do
  let (handle, suffix, next) ← readTagParts fuel cursor
  if !(inFlow && next.head? = some ',') && !atSpace next.text then throw .badTag
  return (.tag handle suffix, next)

/-- Reads a part of a version: at most nine digits. -/
def readVersionPart (cursor : Cursor) : Except Fault (Nat × Cursor) :=
  let digits := cursor.text.takeWhile Char.isDigit
  if digits.isEmpty || 9 < digits.length then .error .badDirective
  else .ok (digits.foldl (fun n c => 10 * n + (c.toNat - '0'.toNat)) 0, cursor.skip digits.length)

/-- Reads what a directive says, after its name. -/
def readDirectiveBody (name : List Char) (fuel : Nat) (cursor : Cursor) :
    Except Fault (Token × Cursor) := do
  let next := cursor.skipWhile isGapChar
  if name = "YAML".toList then
    let (major, next) ← readVersionPart next
    if next.head? ≠ some '.' then throw .badDirective
    let (minor, next) ← readVersionPart (next.skip 1)
    return (.version major minor, next)
  else if name = "TAG".toList then
    let (handle, next) ← readHandle next
    if handle ≠ ['!'] && !isNamedHandle handle then throw .badDirective
    if !(next.head?.any isGapChar) then throw .badDirective
    let (expansion, next) ← readTagBytes true fuel [] (next.skipWhile isGapChar)
    if expansion.isEmpty || !atSpace next.text then throw .badDirective
    return (.tagShorthand handle (beforeZero expansion), next)
  else throw .badDirective

/-- Reads a directive with the rest of its line. -/
def readDirective (fuel : Nat) (cursor : Cursor) : Except Fault (Token × Cursor) := do
  let cursor := cursor.skip 1
  let name := cursor.text.takeWhile isNameChar
  let next := cursor.skip name.length
  if name.isEmpty || !atSpace next.text then throw .badDirective
  let (token, next) ← readDirectiveBody name fuel next
  let next := next.skipWhile isGapChar
  let next := if next.head? = some '#' then next.skipLine else next
  if !atLineEnd next.text then throw .badDirective
  return (token, next.skipBreak)

end ComplianceTriage.Manifest
