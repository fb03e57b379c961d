import ComplianceTriage.Decimal.Reading
import ComplianceTriage.Toml.Item

/-!
# Values of a TOML text without quotes

A truth value, a whole number in one of four bases, a number with a fraction, or a date or time.
Between two digits of a number a single underscore may stand. A number in base ten has no leading
zero, and only such a number has a sign.
-/

namespace ComplianceTriage.Toml

open Text (digit? natural?)

/-! ## Numbers -/

/-- The digits of a text without the underscores between them. -/
def ungrouped? (base : Nat) : (behindDigit : Bool) → List Char → Option (List Char)
  | behindDigit, [] => if behindDigit then some [] else none
  | behindDigit, c :: text =>
    if c = '_' then if behindDigit then ungrouped? base false text else none
    else if (digit? base c).isSome then (ungrouped? base true text).map fun digits => c :: digits
    else none

/-- Digits without a leading zero. -/
def unpadded? (text : List Char) : Option (List Char) :=
  (ungrouped? 10 false text).filter fun digits => digits.length = 1 || digits.head? ≠ some '0'

/-- The whole number that a text stands for. -/
def whole? (text : List Char) : Option Int :=
  let based (base : Nat) (digits : List Char) : Option Int :=
    ((ungrouped? base false digits).bind (natural? base)).map fun n => (n : Int)
  let decimal (digits : List Char) : Option Int :=
    ((unpadded? digits).bind (natural? 10)).map fun n => (n : Int)
  match text with
  | '0' :: 'x' :: digits => based 16 digits
  | '0' :: 'o' :: digits => based 8 digits
  | '0' :: 'b' :: digits => based 2 digits
  | '-' :: digits => (decimal digits).map fun n => -n
  | '+' :: digits => decimal digits
  | digits => decimal digits

/-- Digits and underscores. -/
def isGrouped (c : Char) : Bool :=
  c.isDigit || c = '_'

/-- The fraction at the start of a text, with its point and without underscores, and the rest. -/
def fraction? (text : List Char) : Option (List Char × List Char) :=
  match text with
  | '.' :: rest =>
    (ungrouped? 10 false (rest.takeWhile isGrouped)).map fun digits =>
      ('.' :: digits, rest.dropWhile isGrouped)
  | _ => some ([], text)

/-- The exponent that a text is, without underscores. -/
def exponent? (text : List Char) : Option (List Char) :=
  match text with
  | [] => some []
  | e :: rest =>
    if e = 'e' || e = 'E' then
      match rest with
      | '-' :: digits => (ungrouped? 10 false digits).map fun digits => 'e' :: '-' :: digits
      | '+' :: digits => (ungrouped? 10 false digits).map fun digits => 'e' :: digits
      | digits => (ungrouped? 10 false digits).map fun digits => 'e' :: digits
    else none

/-- A number with a fraction, an exponent or both, without its sign and without underscores. -/
def floatText? (text : List Char) : Option (List Char) := do
  let whole ← unpadded? (text.takeWhile isGrouped)
  let (fraction, rest) ← fraction? (text.dropWhile isGrouped)
  let exponent ← exponent? rest
  if fraction.isEmpty && exponent.isEmpty then none else some (whole ++ fraction ++ exponent)

/-- The sign of a number, and the number without it. -/
def splitSign (text : List Char) : List Char × List Char :=
  match text with
  | '-' :: rest => (['-'], rest)
  | '+' :: rest => ([], rest)
  | _ => ([], text)

/-- The number with a fraction that a text stands for, which may lie beyond all doubles. -/
def float? (text : List Char) : Option Item :=
  let (sign, text) := splitSign text
  if text = "inf".toList || text = "nan".toList then some (.float none)
  else
    (floatText? text).map fun text =>
      match Double.ofText? (sign ++ text) with
      | some x => .float (some x)
      | none => .huge

/-! ## Dates and times -/

/-- Reads a number of digits. -/
def readCount? (length : Nat) (text : List Char) : Option (Nat × List Char) :=
  if (text.take length).length = length then
    ((natural? 10 (text.take length)).map fun n => (n, text.drop length))
  else none

/-- Passes a character. -/
def pass? (c : Char) (text : List Char) : Option (List Char) :=
  if text.head? = some c then some (text.drop 1) else none

/-- The number of days of a month. -/
def daysOf (year month : Nat) : Nat :=
  if month = 2 then
    if year % 4 = 0 && (year % 100 ≠ 0 || year % 400 = 0) then 29 else 28
  else if month = 4 || month = 6 || month = 9 || month = 11 then 30
  else 31

/-- The rest of a text that starts with a date. -/
def afterDate? (text : List Char) : Option (List Char) := do
  let (year, text) ← readCount? 4 text
  let (month, text) ← readCount? 2 (← pass? '-' text)
  let (day, text) ← readCount? 2 (← pass? '-' text)
  guard (1 ≤ month && month ≤ 12 && 1 ≤ day && day ≤ daysOf year month)
  return text

/-- The rest of a text that starts with seconds, which may have a fraction. -/
def afterSeconds? (text : List Char) : Option (List Char) := do
  let (second, text) ← readCount? 2 text
  guard (second ≤ 60)
  match text with
  | '.' :: rest =>
    guard (rest.head?.any Char.isDigit)
    return rest.dropWhile Char.isDigit
  | _ => return text

/-- The rest of a text that starts with a time, which may have seconds. -/
def afterTime? (text : List Char) : Option (List Char) := do
  let (hour, text) ← readCount? 2 text
  let (minute, text) ← readCount? 2 (← pass? ':' text)
  guard (hour ≤ 23 && minute ≤ 59)
  match text with
  | ':' :: rest => afterSeconds? rest
  | _ => return text

/-- Whether a text is an offset from universal time. -/
def isOffset (text : List Char) : Bool :=
  match text with
  | ['Z'] => true
  | ['z'] => true
  | sign :: rest =>
    (sign = '+' || sign = '-') &&
      (do
        let (hour, rest) ← readCount? 2 rest
        let (minute, rest) ← readCount? 2 (← pass? ':' rest)
        guard (hour ≤ 23 && minute ≤ 59)
        return rest) == some []
  | [] => false

/-- Whether a text is a time, or a date and, if there is more, a time behind it with an offset or
without. -/
def isMoment (text : List Char) : Bool :=
  match afterDate? text with
  | some [] => true
  | some (mark :: time) =>
    (mark = 'T' || mark = 't' || mark = ' ') &&
      match afterTime? time with
      | some [] => true
      | some offset => isOffset offset
      | none => false
  | none => afterTime? text = some []

/-! ## Values -/

/-- The characters of a value without quotes. -/
def isBareChar (c : Char) : Bool :=
  c.isAlphanum || "_+-.:".toList.contains c

/-- The value without quotes at the start of a text, as far as it goes, and the rest. A time may
stand a space behind its date. -/
def splitBare (text : List Char) : List Char × List Char :=
  let bare := text.takeWhile isBareChar
  let rest := text.drop bare.length
  match rest with
  | ' ' :: time =>
    if afterDate? bare = some [] && time.head?.any Char.isDigit then
      (bare ++ ' ' :: time.takeWhile isBareChar, time.dropWhile isBareChar)
    else (bare, rest)
  | _ => (bare, rest)

/-- Whether a whole number is held by a signed or an unsigned type of 128 bits. -/
def fitsWidest (n : Int) : Bool :=
  -(Nat.pow 2 127 : Int) ≤ n && n < (Nat.pow 2 128 : Int)

/-- The value that a text without quotes is. -/
def bareItem (text : List Char) : Except Fault Item :=
  if text = "true".toList then .ok (.bool true)
  else if text = "false".toList then .ok (.bool false)
  else
    match whole? text, float? text with
    | some n, _ => .ok (if fitsWidest n then .integer n else .huge)
    | none, some item => .ok item
    | none, none =>
      if isMoment text then .ok (.moment (String.ofList text)) else .error .badValue

/-- Reads a value without quotes. -/
def readBare (text : List Char) : Except Fault (Item × List Char) :=
  let (bare, rest) := splitBare text
  (bareItem bare).map fun item => (item, rest)

end ComplianceTriage.Toml
