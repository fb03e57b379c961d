import ComplianceTriage.Manifest.Printable
import ComplianceTriage.Manifest.Property
import ComplianceTriage.Manifest.Scalar

/-!
# From a YAML text to its tokens

Tokens are read from left to right. Whether a scalar is a key is known only at the colon after it,
which must stand on the same line and not too far away; the token for the key then goes in front of
the scalar, and a mapping may start there. So a token is *settled* only when it can no longer become
a key. Outside brackets the column of a token opens and closes blocks.

A fault ends the tokens. What was settled before it stays, so that documents before a faulty one can
be read (`TokenStream`).
-/

namespace ComplianceTriage.Manifest

/-- A token that may turn out to be a key. -/
structure KeyCandidate where
  /-- Whether it must turn out to be one. -/
  required : Bool
  /-- The place of the token among all tokens. -/
  place : Nat
  offset : Nat
  line : Nat
  column : Nat
deriving Repr

/-- The tokens of a text, and the fault that ends them, if there is one. -/
structure TokenStream where
  tokens : List Token
  fault : Option Fault
deriving Repr

/-- A reader of tokens at work. -/
structure Scanner where
  cursor : Cursor
  /-- The column of the innermost block; -1 outside all blocks. -/
  indent : Int
  /-- The columns of the blocks around it, innermost first. -/
  outer : List Int
  /-- Whether a key may start here. -/
  keyAllowed : Bool
  /-- The candidate for a key on each level of brackets, innermost first. -/
  candidates : List (Option KeyCandidate)
  /-- The number of settled tokens. -/
  settled : Nat
  /-- The tokens that are not settled yet. -/
  waiting : List Token
  /-- Whether the text has been read to its end. -/
  ended : Bool
deriving Repr

namespace Scanner

/-- The reader at the start of a text. -/
def start (text : List Char) : Scanner :=
  ⟨.start text, -1, [], true, [none], 0, [], false⟩

/-- Whether the reader is inside brackets. -/
def inFlow (s : Scanner) : Bool :=
  1 < s.candidates.length

/-- The candidate on the innermost level. -/
def candidate? (s : Scanner) : Option KeyCandidate :=
  s.candidates.head?.join

/-- Sets the candidate on the innermost level. -/
def setCandidate (s : Scanner) (candidate : Option KeyCandidate) : Scanner :=
  { s with candidates := candidate :: s.candidates.tail }

/-- Adds a token. -/
def emit (s : Scanner) (token : Token) : Scanner :=
  { s with waiting := s.waiting ++ [token] }

/-- Puts a token in front of the one at a place among all tokens. -/
def emitAt (s : Scanner) (place : Nat) (token : Token) : Scanner :=
  let before := place - s.settled
  { s with waiting := s.waiting.take before ++ token :: s.waiting.drop before }

/-- The reader further on. -/
def moveTo (s : Scanner) (cursor : Cursor) : Scanner :=
  { s with cursor }

/-- Drops the candidate on the innermost level, which must not be required. -/
def dropCandidate (s : Scanner) : Except Fault Scanner :=
  if s.candidate?.any (·.required) then .error .missingColon else .ok (s.setCandidate none)

/-- Makes the next token a candidate, if a key may start here. At the column of its block it must be
a key. -/
def addCandidate (s : Scanner) : Except Fault Scanner :=
  if s.keyAllowed then do
    let s' ← s.dropCandidate
    let c := s.cursor
    let required := !s.inFlow && s.indent = c.column
    let place := s.settled + s.waiting.length
    return s'.setCandidate (some ⟨required, place, c.offset, c.line, c.column⟩)
  else .ok s

/-- The greatest number of bytes between the start of a key and its colon. -/
def keyReach : Nat := 1024

/-- Whether a candidate can no longer be a key: its line is over, or it lies too far back. -/
def isStale (cursor : Cursor) (candidate : KeyCandidate) : Bool :=
  candidate.line < cursor.line || candidate.offset + keyReach < cursor.offset

/-- Drops the candidates that can no longer be keys, none of which must be required. -/
def dropStale (s : Scanner) : Except Fault Scanner :=
  let stale := s.candidates.filterMap fun c => c.filter (isStale s.cursor)
  if stale.any (·.required) then .error .missingColon
  else .ok { s with candidates := s.candidates.map fun c => c.filter fun c => !isStale s.cursor c }

/-- Opens a block at a column, unless one is open there; its start goes in front of the token at a
place, or else at the end. -/
def openBlock (s : Scanner) (column : Nat) (place? : Option Nat) (token : Token) : Scanner :=
  if !s.inFlow && s.indent < column then
    let s := { s with indent := column, outer := s.indent :: s.outer }
    match place? with
    | some place => s.emitAt place token
    | none => s.emit token
  else s

/-- Closes the blocks to the right of a column, of which the outer ones are given. -/
def closeBlocksFrom (column : Int) (s : Scanner) : List Int → Scanner
  | [] => s
  | indent :: outer =>
    if column < s.indent then closeBlocksFrom column { s.emit .blockEnd with indent, outer } outer
    else s

/-- Closes the blocks to the right of a column. -/
def closeBlocks (s : Scanner) (column : Int) : Scanner :=
  if s.inFlow then s else closeBlocksFrom column s s.outer

/-- Skips blanks, comments and breaks before the next token, and a byte order mark at the start of a
line, which still fills the first column. Outside brackets a key may start on a new line, and a tab
is no blank where a key may start. -/
def skipToToken : (fuel : Nat) → Scanner → Scanner
  | 0, s => s
  | fuel + 1, s =>
    let tabs := s.inFlow || !s.keyAllowed
    let marked := s.cursor.column = 0 && s.cursor.head? = some '\ufeff'
    let next := if marked then s.cursor.skip 1 else s.cursor
    let next := next.skipWhile fun c => c = ' ' || (tabs && c = '\t')
    let next := if next.head? = some '#' then next.skipLine else next
    if next.head?.any isBreak then
      skipToToken fuel { s with cursor := next.skipBreak, keyAllowed := s.keyAllowed || !s.inFlow }
    else s.moveTo next

/-- Ends the text, and with it the line. -/
def readEnd (s : Scanner) : Except Fault Scanner := do
  let s ← (s.closeBlocks (-1)).dropCandidate
  let s := if s.cursor.column = 0 then s else s.moveTo s.cursor.endLine
  return { s.emit .streamEnd with keyAllowed := false, ended := true }

/-- Reads a directive. -/
def readDirectiveToken (fuel : Nat) (s : Scanner) : Except Fault Scanner := do
  let s ← (s.closeBlocks (-1)).dropCandidate
  let (token, next) ← readDirective fuel s.cursor
  return { (s.emit token).moveTo next with keyAllowed := false }

/-- Reads the marker that starts or ends a document. -/
def readMarker (token : Token) (s : Scanner) : Except Fault Scanner := do
  let s ← (s.closeBlocks (-1)).dropCandidate
  return { (s.emit token).moveTo (s.cursor.skip 3) with keyAllowed := false }

/-- Reads an opening bracket. -/
def readOpening (token : Token) (s : Scanner) : Except Fault Scanner := do
  let s ← s.addCandidate
  return { (s.emit token).moveTo (s.cursor.skip 1) with
    keyAllowed := true, candidates := none :: s.candidates }

/-- Reads a closing bracket. -/
def readClosing (token : Token) (s : Scanner) : Except Fault Scanner := do
  let s ← s.dropCandidate
  -- A bracket that closes none is left to whoever reads the tokens.
  let candidates := if s.inFlow then s.candidates.tail else s.candidates
  return { (s.emit token).moveTo (s.cursor.skip 1) with keyAllowed := false, candidates }

/-- Reads a comma between items in brackets. -/
def readComma (s : Scanner) : Except Fault Scanner := do
  let s ← s.dropCandidate
  return { (s.emit .flowEntry).moveTo (s.cursor.skip 1) with keyAllowed := true }

/-- Reads the dash of an item. -/
def readDash (s : Scanner) : Except Fault Scanner := do
  if !s.inFlow && !s.keyAllowed then throw .misplacedIndicator
  let s := s.openBlock s.cursor.column none .blockSequenceStart
  let s ← s.dropCandidate
  return { (s.emit .blockEntry).moveTo (s.cursor.skip 1) with keyAllowed := true }

/-- Reads the mark of a key that is not marked by its colon alone. -/
def readKeyMark (s : Scanner) : Except Fault Scanner := do
  if !s.inFlow && !s.keyAllowed then throw .misplacedIndicator
  let s := s.openBlock s.cursor.column none .blockMappingStart
  let s ← s.dropCandidate
  return { (s.emit .key).moveTo (s.cursor.skip 1) with keyAllowed := !s.inFlow }

/-- Reads the colon before a value. The candidate, if there is one, becomes its key. -/
def readColon (s : Scanner) : Except Fault Scanner := do
  match s.candidate? with
  | some key =>
    let s := s.emitAt key.place .key
    -- The mapping that may start here starts in front of the token for its first key.
    let s := s.openBlock key.column (some key.place) .blockMappingStart
    let s := s.setCandidate none
    return { (s.emit .value).moveTo (s.cursor.skip 1) with keyAllowed := false }
  | none =>
    if !s.inFlow && !s.keyAllowed then throw .misplacedIndicator
    let s := s.openBlock s.cursor.column none .blockMappingStart
    return { (s.emit .value).moveTo (s.cursor.skip 1) with keyAllowed := !s.inFlow }

/-- Reads an anchor or an alias. -/
def readAnchor (token : List Char → Token) (s : Scanner) : Except Fault Scanner := do
  let s ← s.addCandidate
  let (name, next) ← readAnchorName (s.cursor.skip 1)
  return { (s.emit (token name)).moveTo next with keyAllowed := false }

/-- Reads a tag. -/
def readTagToken (fuel : Nat) (s : Scanner) : Except Fault Scanner := do
  let s ← s.addCandidate
  let (token, next) ← readTag s.inFlow fuel s.cursor
  return { (s.emit token).moveTo next with keyAllowed := false }

/-- Reads a block scalar. -/
def readBlockScalar (folds : Bool) (fuel : Nat) (s : Scanner) : Except Fault Scanner := do
  let s ← s.dropCandidate
  let (text, next) ← readBlock folds s.indent fuel (s.cursor.skip 1)
  return { (s.emit (.scalar text false)).moveTo next with keyAllowed := true }

/-- Reads a quoted scalar. -/
def readQuotedScalar (quote : Char) (fuel : Nat) (s : Scanner) : Except Fault Scanner := do
  let s ← s.addCandidate
  let (text, next) ← readQuoted quote fuel [] (s.cursor.skip 1)
  return { (s.emit (.scalar text false)).moveTo next with keyAllowed := false }

/-- Reads a plain scalar. -/
def readPlainScalar (fuel : Nat) (s : Scanner) : Except Fault Scanner := do
  let s ← s.addCandidate
  let scalar ← readPlain s.inFlow (s.indent + 1).toNat fuel [] Gap.none s.cursor
  return { (s.emit (.scalar scalar.text true)).moveTo scalar.next with
    keyAllowed := scalar.endsInBreak }

/-- Whether a plain scalar may start with a character before a text. -/
def startsPlain (inFlow : Bool) (c : Char) (rest : List Char) : Bool :=
  let spaced := atSpace rest
  let blank := rest.head?.any isGapChar
  if c = '-' then !blank
  else if c = '?' || c = ':' then !inFlow && !spaced
  else !(isFlowIndicator c || "#&*!|>'\"%@`".toList.contains c || isGapChar c || isBreak c)

/-- Reads the token that starts with a character before a text. -/
def readToken (fuel : Nat) (s : Scanner) (c : Char) (rest : List Char) : Except Fault Scanner :=
  if s.cursor.column = 0 && c = '%' then readDirectiveToken fuel s
  else if s.cursor.atMarker '-' then readMarker .documentStart s
  else if s.cursor.atMarker '.' then readMarker .documentEnd s
  else if c = '[' then readOpening .flowSequenceStart s
  else if c = '\x7b' then readOpening .flowMappingStart s
  else if c = ']' then readClosing .flowSequenceEnd s
  else if c = '\x7d' then readClosing .flowMappingEnd s
  else if c = ',' then readComma s
  else if c = '-' && atSpace rest then readDash s
  else if c = '?' && (s.inFlow || atSpace rest) then readKeyMark s
  else if c = ':' && (s.inFlow || atSpace rest) then readColon s
  else if c = '*' then readAnchor .alias s
  else if c = '&' then readAnchor .anchor s
  else if c = '!' then readTagToken fuel s
  else if c = '|' && !s.inFlow then readBlockScalar false fuel s
  else if c = '>' && !s.inFlow then readBlockScalar true fuel s
  else if c = '\'' || c = '"' then readQuotedScalar c fuel s
  else if startsPlain s.inFlow c rest then readPlainScalar fuel s
  else .error .strayCharacter

/-- Looks ahead over some characters, none of which may lie in or behind the faulty block. -/
def lookAhead (faulty? : Option Nat) (count : Nat) (s : Scanner) : Except Fault Unit :=
  if faulty?.any (· < (s.cursor.skip count).offset) then .error .forbiddenCharacter else .ok ()

/-- How many characters tell what token starts with them. -/
def tokenLook : Nat := 4

/-- Reads the next token. Candidates may have become stale before it, and behind it. -/
def step (faulty? : Option Nat) (fuel : Nat) (s : Scanner) : Except Fault Scanner := do
  let s := s.skipToToken fuel
  s.lookAhead faulty? tokenLook
  let s ← s.dropStale
  let s := s.closeBlocks s.cursor.column
  let s ← match s.cursor.text with
    | [] => s.readEnd
    | c :: rest => readToken fuel s c rest
  s.lookAhead faulty? 1
  s.dropStale

/-- Takes the tokens that are settled: those before the first that may still become a key. -/
def settle (s : Scanner) : List Token × Scanner :=
  let places := s.candidates.filterMap fun c => c.map (·.place)
  let count := (places.map (· - s.settled)).foldl min s.waiting.length
  (s.waiting.take count,
    { s with settled := s.settled + count, waiting := s.waiting.drop count })

/-- Reads tokens to the end of the text or to a fault. The settled ones are given back to front. -/
def readAll (faulty? : Option Nat) (total : Nat) :
    (fuel : Nat) → (settled : List Token) → Scanner → TokenStream
  | 0, settled, _ => ⟨settled.reverse, some .exhausted⟩
  | fuel + 1, settled, s =>
    if s.ended then ⟨settled.reverse, none⟩
    else
      match s.step faulty? total with
      | .error fault => ⟨settled.reverse, some fault⟩
      | .ok next =>
        let (tokens, next) := next.settle
        readAll faulty? total fuel (tokens.reverseAux settled) next

end Scanner

/-- The tokens of a text. -/
def TokenStream.ofText (text : List Char) : TokenStream :=
  let total := text.length + 2
  Scanner.readAll (faultyBlock? 0 0 text) total total [] (.start text)

end ComplianceTriage.Manifest
