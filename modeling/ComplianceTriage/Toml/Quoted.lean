import ComplianceTriage.Text.Digits
import ComplianceTriage.Toml.Fault

/-!
# Quoted texts of a TOML text

A text stands between double quotes, where a backslash starts an escape, or between single quotes,
where every character stands for itself. Between three quotes of either kind it may go over several
lines: a break right behind the opening quotes is left out, one or two quotes stand for themselves,
and a backslash at the end of a line leaves out the break and all blanks behind it. Each reader
starts behind the opening quotes and ends behind the closing ones.
-/

namespace ComplianceTriage.Toml

/-- The space and the tab. -/
def isGap (c : Char) : Bool :=
  c = ' ' || c = '\t'

/-- The characters that may stand in a line: all but control characters, of which only the tab. -/
def isLineChar (c : Char) : Bool :=
  c = '\t' || (0x20 ≤ c.toNat && c.toNat ≠ 0x7F)

/-- The text behind a break. -/
def afterBreak? : List Char → Option (List Char)
  | '\n' :: rest => some rest
  | '\r' :: '\n' :: rest => some rest
  | _ => none

/-- The character that a one-letter escape stands for. -/
def shortEscape? (c : Char) : Option Char :=
  match c with
  | 'b' => some '\x08'
  | 'e' => some '\x1b'
  | 't' => some '\t'
  | 'n' => some '\n'
  | 'f' => some '\x0c'
  | 'r' => some '\r'
  | '"' => some '"'
  | '\\' => some '\\'
  | _ => none

/-- The number of digits of an escape that names a character by its code point. -/
def escapeLength? (c : Char) : Option Nat :=
  match c with
  | 'x' => some 2
  | 'u' => some 4
  | 'U' => some 8
  | _ => none

/-- Reads an escape behind its backslash. -/
def readEscape : List Char → Except Fault (Char × List Char)
  | [] => .error .unclosedText
  | c :: rest =>
    let length := (escapeLength? c).getD 0
    let char? := if length = 0 then shortEscape? c else Text.namedChar? length (rest.take length)
    match char? with
    | some d => .ok (d, rest.drop length)
    | none => .error .badEscape

/-- Reads a text between double quotes; what was read of it is given back to front. -/
def readBasic : (fuel : Nat) → (text : List Char) → List Char → Except Fault (String × List Char)
  | 0, _, _ => .error .exhausted
  | _ + 1, _, [] => .error .unclosedText
  | fuel + 1, text, c :: rest =>
    if c = '"' then .ok (String.ofList text.reverse, rest)
    else if c = '\\' then do
      let (d, rest) ← readEscape rest
      readBasic fuel (d :: text) rest
    else if isLineChar c then readBasic fuel (c :: text) rest
    else .error .forbiddenCharacter

/-- Reads a text between single quotes. -/
def readLiteral (text : List Char) : Except Fault (String × List Char) :=
  let body := text.takeWhile (· ≠ '\'')
  if !body.all isLineChar then .error .forbiddenCharacter
  else
    match text.drop body.length with
    | _ :: rest => .ok (String.ofList body, rest)
    | [] => .error .unclosedText

/-- Leaves out blanks and breaks. -/
def skipBlankLines : List Char → List Char
  | '\r' :: '\n' :: rest => skipBlankLines rest
  | c :: rest => if isGap c || c = '\n' then skipBlankLines rest else c :: rest
  | [] => []

/-- What follows a backslash at the end of a line, from the next character that is no blank on. -/
def afterEscapedBreak? (text : List Char) : Option (List Char) :=
  (afterBreak? (text.dropWhile isGap)).map skipBlankLines

/-- Reads a text of several lines; what was read of it is given back to front. Of three to five
quotes the last three close it. -/
def readLines (quote : Char) :
    (fuel : Nat) → (text : List Char) → List Char → Except Fault (String × List Char)
  | 0, _, _ => .error .exhausted
  | _ + 1, _, [] => .error .unclosedText
  | fuel + 1, text, c :: rest =>
    if c = quote then
      -- Five quotes in a row are two of the text, and the three that close it.
      let count := min 5 (1 + (rest.takeWhile (· = quote)).length)
      let rest := rest.drop (count - 1)
      if count < 3 then readLines quote fuel (List.replicate count quote ++ text) rest
      else .ok (String.ofList (List.replicate (count - 3) quote ++ text).reverse, rest)
    else if c = '\\' && quote = '"' then
      match afterEscapedBreak? rest with
      | some rest => readLines quote fuel text rest
      | none => do
        let (d, rest) ← readEscape rest
        readLines quote fuel (d :: text) rest
    else if isLineChar c || c = '\n' || (c = '\r' && rest.head? = some '\n') then
      readLines quote fuel (c :: text) rest
    else .error .forbiddenCharacter

/-- Leaves out a break right behind the opening quotes. -/
def withoutFirstBreak (text : List Char) : List Char :=
  (afterBreak? text).getD text

/-- Reads a text of one line in quotes of either kind, if there is one. -/
def readLineText? (text : List Char) : Option (Except Fault (String × List Char)) :=
  match text with
  | '"' :: rest => some (readBasic (rest.length + 1) [] rest)
  | '\'' :: rest => some (readLiteral rest)
  | _ => none

/-- Reads a text in quotes of any kind, if there is one. -/
def readText? (text : List Char) : Option (Except Fault (String × List Char)) :=
  match text with
  | '"' :: '"' :: '"' :: rest =>
    some (readLines '"' (rest.length + 1) [] (withoutFirstBreak rest))
  | '\'' :: '\'' :: '\'' :: rest =>
    some (readLines '\'' (rest.length + 1) [] (withoutFirstBreak rest))
  | text => readLineText? text

end ComplianceTriage.Toml
