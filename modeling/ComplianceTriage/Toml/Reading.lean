import ComplianceTriage.Toml.Bare
import ComplianceTriage.Toml.Quoted

/-!
# Reading a TOML text

A text is read line by line: a line is a header, a key with its value, or nothing, and a comment may
stand behind each. A value in brackets may go over several lines. The keys behind a header belong to
the table that it opens.

Each function goes on behind at least one character, so that fuel for a call a character never runs
out.
-/

namespace ComplianceTriage.Toml

/-! ## Blanks and comments -/

/-- Leaves out a comment. -/
def skipComment (text : List Char) : Except Fault (List Char) :=
  match text with
  | '#' :: rest =>
    let line := rest.takeWhile (· ≠ '\n')
    let behind := rest.drop line.length
    -- A carriage return in front of the line feed belongs to the break.
    let (line, behind) :=
      if line.getLast? = some '\r' && !behind.isEmpty then (line.dropLast, '\r' :: behind)
      else (line, behind)
    if line.all isLineChar then .ok behind else .error .forbiddenCharacter
  | _ => .ok text

/-- Leaves out the rest of a line, on which nothing may stand but a comment. -/
def endLine (text : List Char) : Except Fault (List Char) := do
  let text ← skipComment (text.dropWhile isGap)
  if text.isEmpty then return []
  match afterBreak? text with
  | some rest => return rest
  | none => throw .trailingText

/-- Leaves out blanks, breaks and comments. -/
def skipSpace : (fuel : Nat) → List Char → Except Fault (List Char)
  | 0, _ => .error .exhausted
  | fuel + 1, text => do
    let text := skipBlankLines text
    if text.head? = some '#' then skipSpace fuel (← skipComment text) else return text

/-! ## Keys -/

/-- The characters of a key without quotes. -/
def isKeyChar (c : Char) : Bool :=
  c.isAlphanum || c = '_' || c = '-'

/-- Reads a part of a key. -/
def readKeyPart (text : List Char) : Except Fault (String × List Char) :=
  match readLineText? text with
  | some read => read
  | none =>
    let name := text.takeWhile isKeyChar
    if name.isEmpty then .error .missingKey
    else .ok (String.ofList name, text.drop name.length)

/-- A key: the path to its table, and its last part. -/
structure Key where
  path : List String
  name : String
deriving DecidableEq, Repr

/-- Reads the parts of a key, which points divide, and the blanks around them. -/
def readKeyParts : (fuel : Nat) → List Char → Except Fault (Key × List Char)
  | 0, _ => .error .exhausted
  | fuel + 1, text => do
    let (part, text) ← readKeyPart (text.dropWhile isGap)
    match text.dropWhile isGap with
    | '.' :: rest =>
      let (key, rest) ← readKeyParts fuel rest
      return ({ key with path := part :: key.path }, rest)
    | rest => return (⟨[], part⟩, rest)

/-- How deep values may be nested, and keys too, down to the last part but one. -/
def depthLimit : Nat := 80

/-- Reads a key and the blanks around it. -/
def readKey (text : List Char) : Except Fault (Key × List Char) := do
  let (key, rest) ← readKeyParts (text.length + 1) text
  if depthLimit ≤ key.path.length then throw .tooDeep
  return (key, rest)

/-- Passes an equals sign. -/
def passEquals (text : List Char) : Except Fault (List Char) :=
  match text with
  | '=' :: rest => .ok rest
  | _ => .error .missingEquals

/-! ## Values -/

mutual

/-- Reads a value, in which others may be nested `depth` deep. -/
def readValue (depth : Nat) : (fuel : Nat) → List Char → Except Fault (Item × List Char)
  | 0, _ => .error .exhausted
  | fuel + 1, text => do
    match text with
    | '[' :: rest =>
      if depth = 0 then throw .tooDeep
      let (items, rest) ← readItems (depth - 1) fuel rest
      return (.array items, rest)
    | '\x7b' :: rest =>
      if depth = 0 then throw .tooDeep
      readEntries (depth - 1) ⟨.inline, []⟩ fuel rest
    | _ =>
      match readText? text with
      | some read => return (← read).map .text id
      | none => readBare text

/-- Reads the items of an array. A comma may stand behind the last one. -/
def readItems (depth : Nat) : (fuel : Nat) → List Char → Except Fault (List Item × List Char)
  | 0, _ => .error .exhausted
  | fuel + 1, text => do
    match ← skipSpace (fuel + 1) text with
    | ']' :: rest => return ([], rest)
    | text =>
      let (item, rest) ← readValue depth fuel text
      match ← skipSpace (fuel + 1) rest with
      | ',' :: rest =>
        let (items, rest) ← readItems depth fuel rest
        return (item :: items, rest)
      | ']' :: rest => return ([item], rest)
      | _ => throw .unclosedValue

/-- Reads the entries of an inline table. A comma may stand behind the last one, and breaks and
comments around keys and values. -/
def readEntries (depth : Nat) (table : Table) :
    (fuel : Nat) → List Char → Except Fault (Item × List Char)
  | 0, _ => .error .exhausted
  | fuel + 1, text => do
    match ← skipSpace (fuel + 1) text with
    | '\x7d' :: rest => return (table.toItem, rest)
    | text =>
      let (key, rest) ← readKey text
      let rest ← passEquals (← skipSpace (fuel + 1) rest)
      let (item, rest) ← readValue depth fuel (← skipSpace (fuel + 1) rest)
      let table ← table.define key.path key.name item
      match ← skipSpace (fuel + 1) rest with
      | ',' :: rest => readEntries depth table fuel rest
      | '\x7d' :: rest => return (table.toItem, rest)
      | _ => throw .unclosedValue

end

/-! ## Lines -/

/-- What has been read: the table of the text, and the path of the last header. -/
structure Sheet where
  root : Table
  header : List String

/-- Reads a header behind its opening brackets, and its closing ones. -/
def readHeader (closing : List Char) (text : List Char) : Except Fault (Key × List Char) := do
  let (key, rest) ← readKey text
  if closing.isPrefixOf rest then return (key, rest.drop closing.length)
  else throw .unclosedHeader

/-- Reads what stands on a line. -/
def readLine (sheet : Sheet) (text : List Char) : Except Fault (Sheet × List Char) := do
  match text with
  | '[' :: '[' :: rest =>
    let (key, rest) ← readHeader [']', ']'] rest
    let root ← sheet.root.openRow key.path key.name
    return (⟨root, key.path ++ [key.name]⟩, rest)
  | '[' :: rest =>
    let (key, rest) ← readHeader [']'] rest
    let root ← sheet.root.openTable key.path key.name
    return (⟨root, key.path ++ [key.name]⟩, rest)
  | _ =>
    let (key, rest) ← readKey text
    let rest := (← passEquals rest).dropWhile isGap
    let (item, rest) ← readValue depthLimit (rest.length + 1) rest
    let root ← sheet.root.alter false (Table.define key.path key.name item) sheet.header
    return ({ sheet with root }, rest)

/-- Reads the lines that are left. -/
def readSheet : (fuel : Nat) → Sheet → List Char → Except Fault Table
  | 0, _, _ => .error .exhausted
  | fuel + 1, sheet, text => do
    let text := text.dropWhile isGap
    if text.isEmpty then return sheet.root
    let blank := text.head? = some '#' || (afterBreak? text).isSome
    let (sheet, rest) ← if blank then pure (sheet, text) else readLine sheet text
    readSheet fuel sheet (← endLine rest)

/-- The table of a text. A byte order mark at its start says nothing. -/
def Table.ofText (text : List Char) : Except Fault Table :=
  let text := match text with
    | '\ufeff' :: text => text
    | text => text
  readSheet (text.length + 1) ⟨.empty, []⟩ text

end ComplianceTriage.Toml
