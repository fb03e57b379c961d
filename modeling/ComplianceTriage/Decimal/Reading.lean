import ComplianceTriage.Decimal.Double
import ComplianceTriage.Text.Digits

/-!
# Reading doubles

A double is read from digits with at most one point among or beside them, and an exponent, if there
is one.
-/

namespace ComplianceTriage.Double

open Text (natural?)

/-- The number that an exponent with or without a sign stands for. -/
def exponent? : List Char → Option Int
  | '-' :: digits => (natural? 10 digits).map fun n => -(n : Int)
  | '+' :: digits => (natural? 10 digits).map fun n => (n : Int)
  | digits => (natural? 10 digits).map fun n => (n : Int)

/-- A text without its sign: its digits as a whole number, and the power of ten that they are
multiplied by. -/
def decimal? (text : List Char) : Option (Nat × Int) := do
  let whole := text.takeWhile Char.isDigit
  let rest := text.dropWhile Char.isDigit
  let (fraction, rest) := match rest with
    | '.' :: rest => (rest.takeWhile Char.isDigit, rest.dropWhile Char.isDigit)
    | rest => ([], rest)
  let digits ← natural? 10 (whole ++ fraction)
  match rest with
  | [] => return (digits, -fraction.length)
  | e :: rest =>
    guard (e = 'e' || e = 'E')
    return (digits, (← exponent? rest) - fraction.length)

/-- The double that a text stands for. -/
def ofText? : List Char → Option Double
  | '-' :: text => (decimal? text).bind fun (digits, e) => ofDecimal? true digits e
  | '+' :: text => (decimal? text).bind fun (digits, e) => ofDecimal? false digits e
  | text => (decimal? text).bind fun (digits, e) => ofDecimal? false digits e

end ComplianceTriage.Double
