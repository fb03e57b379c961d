import ComplianceTriage.Decimal.Reading
import ComplianceTriage.Manifest.Property
import ComplianceTriage.Value.Basic

/-!
# What a scalar means

A plain scalar is null, a truth value, a whole number, a number with a fraction, or else a text. A
whole number may be written with a base, and one that no 64-bit type holds is a fault as long as it
has 128 bits; a longer one in decimal is a number with a fraction. Digits after a leading zero make
a text. Infinities and what is not a number have no place in a tree and become null.
-/

namespace ComplianceTriage.Manifest

open Text (natural?)

/-- The spellings of null. -/
def isNull (text : List Char) : Bool :=
  text = "null".toList || text = "Null".toList || text = "NULL".toList || text = ['~']

/-- The truth value that a text spells. -/
def truth? (text : List Char) : Option Bool :=
  if text = "true".toList || text = "True".toList || text = "TRUE".toList then some true
  else if text = "false".toList || text = "False".toList || text = "FALSE".toList then some false
  else none

/-- The digits after the mark of a base, with that base. -/
def based? : List Char → Option (Nat × List Char)
  | '0' :: 'x' :: digits => some (16, digits)
  | '0' :: 'o' :: digits => some (8, digits)
  | '0' :: 'b' :: digits => some (2, digits)
  | _ => none

/-- Whether a text without its sign is a zero before more digits. -/
def hasLeadingZero : List Char → Bool
  | '0' :: c :: rest => (c :: rest).all Char.isDigit
  | _ => false

/-- The number that a text without its sign stands for. -/
def magnitude? (text : List Char) : Option Nat :=
  match based? text with
  | some (base, digits) => natural? base digits
  | none => if hasLeadingZero text then none else natural? 10 text

/-- The whole number that a text stands for. -/
def whole? : List Char → Option Int
  | '-' :: text => (magnitude? text).map fun n => -(n : Int)
  | '+' :: text => (magnitude? text).map fun n => n
  | text => (magnitude? text).map fun n => n

/-- Whether a text spells an infinity. -/
def isInfinity (text : List Char) : Bool :=
  let spelled := match text with
    | '-' :: rest => rest
    | '+' :: rest => rest
    | _ => text
  spelled = ".inf".toList || spelled = ".Inf".toList || spelled = ".INF".toList

/-- Whether a text spells what is not a number. -/
def isNotNumber (text : List Char) : Bool :=
  text = ".nan".toList || text = ".NaN".toList || text = ".NAN".toList

/-- The value of a number with a fraction. -/
def float? (text : List Char) : Option Value :=
  if isInfinity text || isNotNumber text then some .null
  else (Double.ofText? text).map fun x => .number (.double x)

/-- Whether a whole number is held by a signed or an unsigned type of some bits. -/
def fitsBits (bits : Nat) (n : Int) : Bool :=
  -(Nat.pow 2 (bits - 1) : Int) ≤ n && n < (Nat.pow 2 bits : Int)

/-- The value of a whole number. One beyond 128 bits is none. -/
def integer? (text : List Char) : Option (Except Fault Value) :=
  match whole? text with
  | some n =>
    if fitsBits 64 n then some (.ok (.number (.integer n)))
    else if fitsBits 128 n then some (.error .hugeInteger)
    else none
  | none => none

/-- Whether a text, but for its sign, is a zero before more digits. -/
def isPadded : List Char → Bool
  | '-' :: text => hasLeadingZero text
  | '+' :: text => hasLeadingZero text
  | text => hasLeadingZero text

/-- What a plain scalar means. -/
def plainValue (text : List Char) : Except Fault Value :=
  if text.isEmpty || isNull text then .ok .null
  else
    match truth? text with
    | some b => .ok (.bool b)
    | none =>
      match integer? text with
      | some value => value
      | none =>
        -- Digits behind a leading zero are no number, although they would read as one with a
        -- fraction.
        let number? := if isPadded text then none else float? text
        .ok (number?.getD (.string (String.ofList text)))

/-- A tag that the language itself defines. -/
def coreTag (name : String) : List UInt8 :=
  asciiBytes ("tag:yaml.org,2002:" ++ name).toList

/-- Whether a tag starts with the mark of a text's own tags. -/
def hasOwnMark (tag : List UInt8) : Bool :=
  asciiBytes ['!'] <+: tag

/-- Whether a tag is one of the text's own. One whose bytes make no text is not known as such. -/
def isOwnTag (tag : List UInt8) : Bool :=
  hasOwnMark tag && (String.fromUTF8? ⟨tag.toArray⟩).isSome

/-- What a scalar means that has a tag, but none of the text's own. Any other tag than those of the
language makes a text, except that one with the mark says nothing of a plain scalar. -/
def taggedValue (tag : List UInt8) (text : List Char) (plain : Bool) : Except Fault Value :=
  if tag = coreTag "bool" then
    match truth? text with
    | some b => .ok (.bool b)
    | none => .error .badValue
  else if tag = coreTag "int" then (integer? text).getD (.error .badValue)
  else if tag = coreTag "float" then
    match float? text with
    | some value => .ok value
    | none => .error .badValue
  else if tag = coreTag "null" then if isNull text then .ok .null else .error .badValue
  else if hasOwnMark tag && plain then plainValue text
  else .ok (.string (String.ofList text))

end ComplianceTriage.Manifest
