import ComplianceTriage.Text.Search

/-!
# A place in a text

A cursor stands before a character of a text and knows its line and column, from which a YAML reader
tells what belongs together. Columns count characters, and distances count the bytes of UTF-8. A
line ends at a carriage return, a line feed, both together, or one of three other line separators.
-/

namespace ComplianceTriage.Manifest

/-- The characters that end a line. -/
def isBreak (c : Char) : Bool :=
  c = '\r' || c = '\n' || c = '\u0085' || c = '\u2028' || c = '\u2029'

/-- The space and the tab. -/
def isGapChar (c : Char) : Bool :=
  c = ' ' || c = '\t'

/-- The characters of anchors and of tag handles. -/
def isNameChar (c : Char) : Bool :=
  c.isAlphanum || c = '_' || c = '-'

/-- Whether a text is at its end, at a break or at a blank. -/
def atSpace : List Char → Bool
  | [] => true
  | c :: _ => isGapChar c || isBreak c

/-- Whether a text is at its end or at a break. -/
def atLineEnd : List Char → Bool
  | [] => true
  | c :: _ => isBreak c

/-- The number of bytes that a text takes in UTF-8. -/
def byteCount (text : List Char) : Nat :=
  text.foldl (fun count c => count + c.utf8Size) 0

/-- A place in a text. -/
structure Cursor where
  text : List Char
  offset : Nat
  line : Nat
  column : Nat
deriving Repr, Inhabited

namespace Cursor

/-- The start of a text. -/
def start (text : List Char) : Cursor := ⟨text, 0, 0, 0⟩

/-- The next character. -/
def head? (cursor : Cursor) : Option Char := cursor.text.head?

/-- The cursor some characters further on the same line. -/
def skip (cursor : Cursor) (count : Nat) : Cursor :=
  { cursor with
    text := cursor.text.drop count
    offset := cursor.offset + byteCount (cursor.text.take count)
    column := cursor.column + count }

/-- The cursor after the characters of a class, which holds no breaks. -/
def skipWhile (cursor : Cursor) (p : Char → Bool) : Cursor :=
  cursor.skip (cursor.text.takeWhile p).length

/-- The cursor at the end of the line. -/
def skipLine (cursor : Cursor) : Cursor :=
  cursor.skipWhile fun c => !isBreak c

/-- The cursor after a break, and the text that the break stands for: a line feed, but the two
separators of lines and of paragraphs stand for themselves. -/
def takeBreak (cursor : Cursor) : List Char × Cursor :=
  match cursor.text with
  | '\r' :: '\n' :: rest => (['\n'], ⟨rest, cursor.offset + 2, cursor.line + 1, 0⟩)
  | c :: rest =>
    if isBreak c then
      let stands := if c = '\u2028' || c = '\u2029' then c else '\n'
      ([stands], ⟨rest, cursor.offset + c.utf8Size, cursor.line + 1, 0⟩)
    else ([], cursor)
  | [] => ([], cursor)

/-- The cursor at the start of another line, with nothing read. -/
def endLine (cursor : Cursor) : Cursor :=
  { cursor with line := cursor.line + 1, column := 0 }

/-- The cursor after a break. -/
def skipBreak (cursor : Cursor) : Cursor := cursor.takeBreak.2

/-- Whether a marker of three characters stands alone at the start of the line. -/
def atMarker (cursor : Cursor) (c : Char) : Bool :=
  cursor.column = 0 && match cursor.text with
    | x :: y :: z :: rest => x = c && y = c && z = c && atSpace rest
    | _ => false

/-- Whether a document starts or ends here. -/
def atDocumentMarker (cursor : Cursor) : Bool :=
  cursor.atMarker '-' || cursor.atMarker '.'

end Cursor

end ComplianceTriage.Manifest
