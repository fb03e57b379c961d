import ComplianceTriage.Manifest.Cursor
import ComplianceTriage.Manifest.Fault
import ComplianceTriage.Text.Digits

/-!
# Scalars of a YAML text

A scalar is written plainly, between quotes, or as an indented block. In the first two, the blanks
and breaks between two words are folded: a single break becomes a space, further breaks stay, and
blanks around breaks vanish (`Gap.folded`). In a block, indentation is removed, and what happens to
breaks is up to its header. Each reader ends where the scalar does. It loops at most once for each
character that is left, so that fuel for one loop more than that never runs out.
-/

namespace ComplianceTriage.Manifest

/-- The blanks and breaks between two words. -/
structure Gap where
  /-- The blanks, as long as there is no break. -/
  blanks : List Char
  firstBreak : List Char
  laterBreaks : List Char
  /-- Whether there is a break. -/
  broken : Bool
deriving Repr

namespace Gap

/-- Nothing between two words. -/
def none : Gap := ⟨[], [], [], false⟩

/-- The gap after an escaped break, which itself stands for nothing. -/
def escaped : Gap := ⟨[], [], [], true⟩

/-- What a gap stands for. -/
def folded (gap : Gap) : List Char :=
  if gap.broken then
    -- Only a line feed is folded; the two separators that stand for themselves stay.
    if gap.firstBreak = ['\n'] then
      if gap.laterBreaks.isEmpty then [' '] else gap.laterBreaks
    else gap.firstBreak ++ gap.laterBreaks
  else gap.blanks

/-- The gap with a break more. -/
def addBreak (gap : Gap) (text : List Char) : Gap :=
  if gap.broken then { gap with laterBreaks := gap.laterBreaks ++ text }
  else ⟨[], text, [], true⟩

/-- The gap with a blank more. -/
def addBlank (gap : Gap) (c : Char) : Gap :=
  if gap.broken then gap else { gap with blanks := gap.blanks ++ [c] }

/-- Reads on to the next word. Where `minColumn` is given, a tab before that column of a new line is
a fault. -/
def read (minColumn : Option Nat) : (fuel : Nat) → Gap → Cursor → Except Fault (Gap × Cursor)
  | 0, _, _ => .error .exhausted
  | fuel + 1, gap, cursor =>
    match cursor.text with
    | [] => .ok (gap, cursor)
    | c :: _ =>
      if isGapChar c then
        let early := match minColumn with
          | some column => gap.broken && cursor.column < column && c = '\t'
          | Option.none => false
        if early then .error .tabIndent
        else read minColumn fuel (gap.addBlank c) (cursor.skip 1)
      else if isBreak c then
        let (text, next) := cursor.takeBreak
        read minColumn fuel (gap.addBreak text) next
      else .ok (gap, cursor)

end Gap

/-! ## Plain scalars -/

/-- The characters that open, close or separate collections in brackets. -/
def isFlowIndicator (c : Char) : Bool :=
  c = ',' || c = '[' || c = ']' || c = '\x7b' || c = '\x7d'

/-- The next word of a plain scalar, in brackets or not: it ends at a blank, at a colon before a
blank, and in brackets at an indicator. -/
def plainWord (inFlow : Bool) : List Char → Except Fault (List Char)
  | [] => .ok []
  | c :: rest =>
    if isGapChar c || isBreak c then .ok []
    else if inFlow && c = ':' && (rest.head?.any fun d => isFlowIndicator d || d = '?') then
      .error .strayColon
    else if c = ':' && atSpace rest then .ok []
    else if inFlow && isFlowIndicator c then .ok []
    else (plainWord inFlow rest).map fun word => c :: word

/-- A plain scalar: its text, the place where it ends, and whether breaks follow its last word. -/
structure PlainScalar where
  text : List Char
  next : Cursor
  endsInBreak : Bool

/-- Reads a plain scalar from its next word on; what was read of it is given back to front. Outside
brackets its lines must reach `minColumn`. -/
def readPlain (inFlow : Bool) (minColumn : Nat) :
    (fuel : Nat) → (text : List Char) → Gap → Cursor → Except Fault PlainScalar
  | 0, _, _, _ => .error .exhausted
  | fuel + 1, text, gap, cursor => do
    if cursor.atDocumentMarker || cursor.head? = some '#' then
      return ⟨text.reverse, cursor, gap.broken⟩
    let word ← plainWord inFlow cursor.text
    let next := cursor.skip word.length
    -- A gap counts only once a word follows it.
    let text := if word.isEmpty then text else word.reverseAux (gap.folded.reverseAux text)
    let gap := if word.isEmpty then gap else Gap.none
    match next.text with
    | [] => return ⟨text.reverse, next, gap.broken⟩
    | c :: _ =>
      if !(isGapChar c || isBreak c) then return ⟨text.reverse, next, gap.broken⟩
      let (gap, next) ← Gap.read (some minColumn) (fuel + 1) gap next
      if !inFlow && next.column < minColumn then return ⟨text.reverse, next, gap.broken⟩
      readPlain inFlow minColumn fuel text gap next

/-! ## Quoted scalars -/

/-- The character that a one-letter escape stands for. -/
def shortEscape? (c : Char) : Option Char :=
  match c with
  | '0' => some '\x00'
  | 'a' => some '\x07'
  | 'b' => some '\x08'
  | 't' => some '\t'
  | '\t' => some '\t'
  | 'n' => some '\n'
  | 'v' => some '\x0b'
  | 'f' => some '\x0c'
  | 'r' => some '\r'
  | 'e' => some '\x1b'
  | ' ' => some ' '
  | '"' => some '"'
  | '/' => some '/'
  | '\\' => some '\\'
  | 'N' => some '\u0085'
  | '_' => some '\u00a0'
  | 'L' => some '\u2028'
  | 'P' => some '\u2029'
  | _ => none

/-- The number of digits of an escape that names a character by its code point. -/
def escapeLength? (c : Char) : Option Nat :=
  match c with
  | 'x' => some 2
  | 'u' => some 4
  | 'U' => some 8
  | _ => none

/-- How a word of a quoted scalar ends. -/
inductive WordEnd where
  /-- At a blank, a break, the closing quote or the end of the text. -/
  | here
  /-- At an escaped break, which has been read. -/
  | escapedBreak
deriving DecidableEq, Repr

/-- Reads the next word between single or double quotes. It is put in front of the text, back to
front. -/
def readWord (quote : Char) :
    (fuel : Nat) → (text : List Char) → Cursor → Except Fault (List Char × WordEnd × Cursor)
  | 0, _, _ => .error .exhausted
  | fuel + 1, text, cursor =>
    match cursor.text with
    | [] => .ok (text, .here, cursor)
    | c :: rest =>
      if isGapChar c || isBreak c then .ok (text, .here, cursor)
      -- Between single quotes a single quote is written twice.
      else if quote = '\'' && c = '\'' && rest.head? = some '\'' then
        readWord quote fuel ('\'' :: text) (cursor.skip 2)
      else if c = quote then .ok (text, .here, cursor)
      else if quote = '"' && c = '\\' then
        match rest with
        | [] => .error .badEscape
        | d :: rest =>
          if isBreak d then .ok (text, .escapedBreak, (cursor.skip 1).skipBreak)
          else
            match shortEscape? d, escapeLength? d with
            | some e, _ => readWord quote fuel (e :: text) (cursor.skip 2)
            | none, some length =>
              match Text.namedChar? length (rest.take length) with
              | some e => readWord quote fuel (e :: text) (cursor.skip (2 + length))
              | none => .error .badEscape
            | none, none => .error .badEscape
      else readWord quote fuel (c :: text) (cursor.skip 1)

/-- Reads a quoted scalar, whose opening quote has been read, from its next word on; what was read
of it is given back to front. -/
def readQuoted (quote : Char) :
    (fuel : Nat) → (text : List Char) → Cursor → Except Fault (List Char × Cursor)
  | 0, _, _ => .error .exhausted
  | fuel + 1, text, cursor => do
    if cursor.atDocumentMarker then throw .unexpectedToken
    if cursor.text.isEmpty then throw .unclosedQuote
    let (text, wordEnd, next) ← readWord quote (fuel + 1) text cursor
    if next.head? = some quote then return (text.reverse, next.skip 1)
    let gap := if wordEnd = .escapedBreak then Gap.escaped else Gap.none
    let (gap, next) ← Gap.read none (fuel + 1) gap next
    readQuoted quote fuel (gap.folded.reverseAux text) next

/-! ## Block scalars -/

/-- What a block scalar keeps of the breaks at its end. -/
inductive Chomping where
  | strip
  | clip
  | keep
deriving DecidableEq, Repr

/-- The header of a block scalar: the chomping and the extra indentation, if it is given. -/
structure BlockHeader where
  chomping : Chomping
  extra : Option Nat
deriving Repr

/-- The chomping that a character asks for. -/
def chomping? (c : Char) : Option Chomping :=
  if c = '+' then some .keep else if c = '-' then some .strip else none

/-- Reads the extra indentation of a header, which is a digit other than zero. -/
def readExtra (cursor : Cursor) : Except Fault (Option Nat × Cursor) :=
  match cursor.head? with
  | some c =>
    if c = '0' then .error .badBlockHeader
    else if c.isDigit then .ok (some (c.toNat - '0'.toNat), cursor.skip 1)
    else .ok (none, cursor)
  | none => .ok (none, cursor)

/-- Reads the chomping of a header. -/
def readChomping (cursor : Cursor) : Option Chomping × Cursor :=
  match cursor.head?.bind chomping? with
  | some chomping => (some chomping, cursor.skip 1)
  | none => (none, cursor)

/-- Reads a header, which has its two parts in any order, up to the next line. -/
def readHeader (cursor : Cursor) : Except Fault (BlockHeader × Cursor) := do
  let (first, next) := readChomping cursor
  let (extra, next) ← readExtra next
  let (chomping, next) := if first.isSome then (first, next) else
    if extra.isSome then readChomping next else (none, next)
  let next := next.skipWhile isGapChar
  let next := if next.head? = some '#' then next.skipLine else next
  if !atLineEnd next.text then throw .badBlockHeader
  return (⟨chomping.getD .clip, extra⟩, next.skipBreak)

/-- Reads the indentation and the empty lines before the next line of a block. An `indent` of zero
is not known yet: then all spaces are read, and the widest indentation is returned. -/
def readIndent (indent : Nat) :
    (fuel : Nat) → (breaks : List Char) → (widest : Nat) → Cursor →
      Except Fault (List Char × Nat × Cursor)
  | 0, _, _, _ => .error .exhausted
  | fuel + 1, breaks, widest, cursor =>
    let spaces := (cursor.text.takeWhile (· = ' ')).length
    let count := if indent = 0 then spaces else min spaces (indent - cursor.column)
    let next := cursor.skip count
    let widest := max widest next.column
    if (indent = 0 || next.column < indent) && next.head? = some '\t' then .error .tabIndent
    else if next.head?.any isBreak then
      let (text, after) := next.takeBreak
      readIndent indent fuel (breaks ++ text) widest after
    else .ok (breaks, widest, next)

/-- The lines of a block scalar that were read, and the breaks after them. -/
structure BlockText where
  /-- The text of the lines, back to front. -/
  text : List Char
  lastBreak : List Char
  laterBreaks : List Char
  /-- Whether the last line starts with a blank. -/
  lastBlank : Bool

/-- What stands for the breaks between the lines of a block and its next line. In a folded block a
single break between lines that start with no blank becomes a space. -/
def BlockText.breaks (folds : Bool) (block : BlockText) (startsBlank : Bool) : List Char :=
  if folds && block.lastBreak = ['\n'] && !block.lastBlank && !startsBlank then
    if block.laterBreaks.isEmpty then [' '] else block.laterBreaks
  else block.lastBreak ++ block.laterBreaks

/-- Reads the lines of a block with a known indentation. -/
def readLines (folds : Bool) (indent : Nat) :
    (fuel : Nat) → BlockText → Cursor → Except Fault (BlockText × Cursor)
  | 0, _, _ => .error .exhausted
  | fuel + 1, block, cursor => do
    match cursor.text with
    | [] => return (block, cursor)
    | c :: _ =>
      if cursor.column ≠ indent then return (block, cursor)
      let line := cursor.text.takeWhile fun c => !isBreak c
      let text := line.reverseAux ((block.breaks folds (isGapChar c)).reverseAux block.text)
      let (lastBreak, next) := (cursor.skip line.length).takeBreak
      let (laterBreaks, _, next) ← readIndent indent (fuel + 1) [] 0 next
      readLines folds indent fuel ⟨text, lastBreak, laterBreaks, isGapChar c⟩ next

/-- Reads a block scalar whose indicator has been read, inside a block with an indentation, which is
-1 outside all blocks. -/
def readBlock (folds : Bool) (parent : Int) (fuel : Nat) (cursor : Cursor) :
    Except Fault (List Char × Cursor) := do
  let (header, next) ← readHeader cursor
  let known := match header.extra with
    | some extra => (max parent 0).toNat + extra
    | none => 0
  let (breaks, widest, next) ← readIndent known fuel [] 0 next
  -- What the header does not say is read off the lines, but a block is further in than what is
  -- around it.
  let indent := if known = 0 then max widest (max (parent + 1) 1).toNat else known
  let (block, next) ← readLines folds indent fuel ⟨[], [], breaks, false⟩ next
  let text := match header.chomping with
    | .strip => block.text.reverse
    | .clip => block.text.reverse ++ block.lastBreak
    | .keep => block.text.reverse ++ block.lastBreak ++ block.laterBreaks
  return (text, next)

end ComplianceTriage.Manifest
