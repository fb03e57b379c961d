import ComplianceTriage.Manifest.Node
import ComplianceTriage.Manifest.TokenStream

/-!
# From tokens to documents

A document is read from its tokens by descent: a node is an alias, or an anchor and a tag before a
scalar or a collection, and what is left out in a collection is `Node.missing`. Directives at the
start of a document give short names for the starts of tags, which are written out in full in its
nodes. Reading ends at the first fault, and the documents before it stay (`Documents.ofText`).

Each function descends or goes on behind at least one token, so that fuel for some calls a token
never runs out.
-/

namespace ComplianceTriage.Manifest

/-- What is left to read of a text, and what the document has defined so far. -/
structure Reading where
  stream : TokenStream
  /-- The short names for the starts of tags. -/
  shorthands : List (List Char × List UInt8)
  anchors : Anchors

/-- A step of reading. -/
abbrev Reader := StateT Reading (Except Fault)

namespace Reader

/-- The next token. Behind the last one lies the fault that ends the tokens. -/
def peek : Reader Token := do
  let stream := (← get).stream
  match stream.tokens with
  | token :: _ => return token
  | [] => throw (stream.fault.getD .exhausted)

/-- Passes the next token. -/
def skip : Reader Unit :=
  modify fun reading =>
    { reading with stream := { reading.stream with tokens := reading.stream.tokens.tail } }

/-- Passes tokens of one kind. -/
def skipAll (token : Token) : Reader Unit :=
  modify fun reading =>
    let tokens := reading.stream.tokens.dropWhile (· = token)
    { reading with stream := { reading.stream with tokens } }

/-- The short names that every document has, where it does not define them itself. -/
def commonShorthands : List (List Char × List UInt8) :=
  [("!".toList, asciiBytes ['!']), ("!!".toList, asciiBytes "tag:yaml.org,2002:".toList)]

/-- The tag in full that a handle and a suffix stand for. -/
def fullTag (handle : List Char) (suffix : List UInt8) : Reader (List UInt8) := do
  if handle.isEmpty then return suffix
  match ((← get).shorthands ++ commonShorthands).lookup handle with
  | some start => return start ++ suffix
  | none => throw .badTag

/-- What may stand before the content of a node. -/
structure Properties where
  anchor? : Option (List Char)
  tag? : Option (List UInt8)

/-- Reads an anchor, if there is one. -/
def anchorName? : Reader (Option (List Char)) := do
  match ← peek with
  | .anchor name => skip; return some name
  | _ => return none

/-- Reads a tag, if there is one. -/
def tagParts? : Reader (Option (List Char × List UInt8)) := do
  match ← peek with
  | .tag handle suffix => skip; return some (handle, suffix)
  | _ => return none

/-- Reads the anchor and the tag of a node, in any order. -/
def properties : Reader Properties := do
  let early ← anchorName?
  let parts? ← tagParts?
  let anchor? ← if early.isNone && parts?.isSome then anchorName? else pure early
  match parts? with
  | some (handle, suffix) => return ⟨anchor?, some (← fullTag handle suffix)⟩
  | none => return ⟨anchor?, none⟩

/-- The node of properties without content, which must not lack both. -/
def bare (properties : Properties) : Reader Node :=
  if properties.anchor?.isNone && properties.tag?.isNone then throw .unexpectedToken
  else pure (.scalar properties.tag? [] true)

/-- Reads an alias, whose anchor must come before it. -/
def aliasOf (name : List Char) : Reader Node := do
  match (← get).anchors.number? name with
  | some number => return .alias number
  | none => throw .unknownAnchor

/-- Reads a node with a name. -/
def named (anchor? : Option (List Char)) (node : Reader Node) : Reader Node := do
  match anchor? with
  | none => node
  | some name =>
    -- The name is known inside its own node, where it hides an earlier one.
    let (place, anchors) := (← get).anchors.declare name
    modify fun reading => { reading with anchors }
    let node ← node
    modify fun reading => { reading with anchors := reading.anchors.attach place node }
    return node

/-- Reads a node, unless one of some tokens shows that there is none. -/
def unlessAt (ends : List Token) (node : Reader Node) : Reader Node := do
  if (← peek) ∈ ends then return .missing else node

/-- Reads the colon and the value of a key, each of which may be missing. -/
def valueBefore (ends : List Token) (node : Reader Node) : Reader Node := do
  match ← peek with
  | .value => skip; unlessAt ends node
  | _ => return .missing

/-- Where collections may stand: indented ones only outside brackets, and items at the indentation
of a key only as its value. -/
inductive Place where
  | inBlock
  | afterKey
  | inBrackets
deriving DecidableEq, Repr

mutual

/-- Reads a node. -/
def node (place : Place) : (fuel : Nat) → Reader Node
  | 0 => throw .exhausted
  | fuel + 1 => do
    match ← peek with
    | .alias name => skip; aliasOf name
    | _ =>
      let properties ← properties
      named properties.anchor? (content place properties fuel)

/-- Reads what follows the properties of a node. -/
def content (place : Place) (properties : Properties) : (fuel : Nat) → Reader Node
  | 0 => throw .exhausted
  | fuel + 1 => do
    match ← peek with
    | .scalar text plain => skip; return .scalar properties.tag? text plain
    | .flowSequenceStart => skip; return .sequence properties.tag? (← flowItems true fuel)
    | .flowMappingStart => skip; return .mapping properties.tag? (← flowEntries true fuel)
    | .blockEntry =>
      if place = .afterKey then return .sequence properties.tag? (← looseItems fuel)
      bare properties
    | .blockSequenceStart =>
      if place = .inBrackets then bare properties
      else skip; return .sequence properties.tag? (← blockItems fuel)
    | .blockMappingStart =>
      if place = .inBrackets then bare properties
      else skip; return .mapping properties.tag? (← blockEntries fuel)
    | _ => bare properties

/-- Reads the items of an indented sequence. -/
def blockItems : (fuel : Nat) → Reader (List Node)
  | 0 => throw .exhausted
  | fuel + 1 => do
    match ← peek with
    | .blockEntry =>
      skip
      let item ← unlessAt [.blockEntry, .blockEnd] (node .inBlock fuel)
      return item :: (← blockItems fuel)
    | .blockEnd => skip; return []
    | _ => throw .unexpectedToken

/-- Reads the items of a sequence that is not indented against its key. Any other token ends it. -/
def looseItems : (fuel : Nat) → Reader (List Node)
  | 0 => throw .exhausted
  | fuel + 1 => do
    match ← peek with
    | .blockEntry =>
      skip
      let item ← unlessAt [.blockEntry, .key, .value, .blockEnd] (node .inBlock fuel)
      return item :: (← looseItems fuel)
    | _ => return []

/-- Reads the entries of an indented mapping. -/
def blockEntries : (fuel : Nat) → Reader (List (Node × Node))
  | 0 => throw .exhausted
  | fuel + 1 => do
    match ← peek with
    | .key =>
      skip
      let ends := [.key, .value, .blockEnd]
      let key ← unlessAt ends (node .afterKey fuel)
      let value ← valueBefore ends (node .afterKey fuel)
      return (key, value) :: (← blockEntries fuel)
    | .blockEnd => skip; return []
    | _ => throw .unexpectedToken

/-- Reads the items of a sequence in brackets. The first has no comma before it, and a comma may
stand behind the last. -/
def flowItems (first : Bool) : (fuel : Nat) → Reader (List Node)
  | 0 => throw .exhausted
  | fuel + 1 => do
    if (← peek) = .flowSequenceEnd then skip; return []
    unless first do
      if (← peek) ≠ .flowEntry then throw .unexpectedToken
      skip
    match ← peek with
    | .flowSequenceEnd => skip; return []
    -- A key among items makes a mapping of one entry.
    | .key =>
      skip
      let entry ← flowPair fuel
      return .mapping none [entry] :: (← flowItems false fuel)
    | _ =>
      let item ← node .inBrackets fuel
      return item :: (← flowItems false fuel)

/-- Reads a key with its value that is itself an item in brackets. A missing key swallows the token
behind it. -/
def flowPair : (fuel : Nat) → Reader (Node × Node)
  | 0 => throw .exhausted
  | fuel + 1 => do
    let key ←
      if (← peek) ∈ [.value, .flowEntry, .flowSequenceEnd] then do skip; pure .missing
      else node .inBrackets fuel
    let value ← valueBefore [.flowEntry, .flowSequenceEnd] (node .inBrackets fuel)
    return (key, value)

/-- Reads the entries of a mapping in braces. A node without a colon is a key without a value. -/
def flowEntries (first : Bool) : (fuel : Nat) → Reader (List (Node × Node))
  | 0 => throw .exhausted
  | fuel + 1 => do
    if (← peek) = .flowMappingEnd then skip; return []
    unless first do
      if (← peek) ≠ .flowEntry then throw .unexpectedToken
      skip
    match ← peek with
    | .flowMappingEnd => skip; return []
    | .key =>
      skip
      let key ← unlessAt [.value, .flowEntry, .flowMappingEnd] (node .inBrackets fuel)
      let value ← valueBefore [.flowEntry, .flowMappingEnd] (node .inBrackets fuel)
      return (key, value) :: (← flowEntries false fuel)
    | _ =>
      let key ← node .inBrackets fuel
      return (key, .missing) :: (← flowEntries false fuel)

end

/-- Whether a version of the language can be read. -/
def isKnownVersion (major minor : Nat) : Bool :=
  major = 1 && (minor = 1 || minor = 2)

/-- Reads the directives of a document: at most one version, and no short name twice. -/
def directives : (fuel : Nat) → (versioned : Bool) → Reader Unit
  | 0, _ => throw .exhausted
  | fuel + 1, versioned => do
    match ← peek with
    | .version major minor =>
      if versioned || !isKnownVersion major minor then throw .badDirective
      skip
      directives fuel true
    | .tagShorthand handle start =>
      if ((← get).shorthands.lookup handle).isSome then throw .badDirective
      skip
      modify fun reading => { reading with shorthands := reading.shorthands ++ [(handle, start)] }
      directives fuel versioned
    | _ => return

/-- Whether a token ends the document before it, or starts the next one. -/
def endsDocument : Token → Bool
  | .version .. | .tagShorthand .. | .documentStart | .documentEnd | .streamEnd => true
  | _ => false

/-- Reads the start of a document with its marker, and its root, if there is one. -/
def markedRoot (fuel : Nat) : Reader Node := do
  directives fuel false
  if (← peek) ≠ .documentStart then throw .unexpectedToken
  skip
  if endsDocument (← peek) then return .missing
  node .inBlock fuel

/-- Reads the root of the next document, if there is one. Only the first document may lack a start
marker. -/
def root? (first : Bool) (fuel : Nat) : Reader (Option Node) := do
  unless first do skipAll .documentEnd
  match ← peek with
  | .streamEnd => return none
  | .version .. | .tagShorthand .. | .documentStart => return some (← markedRoot fuel)
  | _ =>
    if first then return some (← node .inBlock fuel)
    throw .unexpectedToken

/-- Reads the next document, if there is one. -/
def document? (first : Bool) (fuel : Nat) : Reader (Option Document) := do
  -- Short names and anchors hold for one document.
  modify fun reading => { reading with shorthands := [], anchors := Anchors.none }
  match ← root? first fuel with
  | none => return none
  | some root =>
    let document := ⟨root, (← get).anchors⟩
    if (← peek) = .documentEnd then skip
    return some document

end Reader

/-- The documents of a text, and the fault that ends them, if there is one. -/
structure Documents where
  documents : List Document
  fault : Option Fault

/-- Puts a document in front of others. -/
def Documents.cons (document : Document) (rest : Documents) : Documents :=
  { rest with documents := document :: rest.documents }

namespace Documents

/-- Reads the documents that are left. -/
def readAll (total : Nat) : (fuel : Nat) → (first : Bool) → Reading → Documents
  | 0, _, _ => ⟨[], some .exhausted⟩
  | fuel + 1, first, reading =>
    match Reader.document? first total reading with
    | .error fault => ⟨[], some fault⟩
    | .ok (none, _) => ⟨if first then [.blank] else [], none⟩
    | .ok (some document, reading) => .cons document (readAll total fuel false reading)

/-- The documents of a text. A text without any counts as one blank document. -/
def ofText (text : List Char) : Documents :=
  let stream := TokenStream.ofText text
  let total := 4 * stream.tokens.length + 4
  readAll total total true ⟨stream, [], Anchors.none⟩

end Documents

end ComplianceTriage.Manifest
