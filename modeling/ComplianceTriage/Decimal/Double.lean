/-!
# Doubles and decimals

Numbers with a fraction are held as finite binary64 numbers, `± mantissa * 2 ^ exponent`, and are
only ever read and written, never computed with. A decimal is read as the nearest double, a tie
going to the even mantissa (`Double.ofDecimal?`), and a double is written with the fewest digits
that read back as it, the nearest such decimal where several have that length
(`Double.shortest`). All of this is exact arithmetic on natural numbers.
-/

namespace ComplianceTriage

/-- A finite double: `mantissa * 2 ^ exponent`, negated if `negative`. Where the mantissa has fewer
than 53 bits, the exponent is the least one. -/
structure Double where
  negative : Bool
  mantissa : Nat
  exponent : Int
deriving DecidableEq, Repr, Inhabited

namespace Double

/-- The exponent of the smallest doubles. -/
def minExponent : Int := -1074

/-- The exponent of the largest doubles. -/
def maxExponent : Int := 971

/-- The least mantissa of 53 bits. -/
def leastNormal : Nat := Nat.pow 2 52

/-- The quotient rounded to the nearest natural number, a tie to the even one. -/
def divNearestEven (num den : Nat) : Nat :=
  let q := num / den
  let twice := 2 * (num % den)
  if twice < den then q else if den < twice then q + 1 else q + q % 2

/-- The fraction `num / den` divided by `base ^ e`, as a fraction. -/
def unscale (base : Nat) (e : Int) (num den : Nat) : Nat × Nat :=
  if 0 ≤ e then (num, den * Nat.pow base e.toNat) else (num * Nat.pow base (-e).toNat, den)

/-- The double nearest to the positive fraction `num / den`, if it is within range. -/
def ofFraction? (negative : Bool) (num den : Nat) : Option Double :=
  let guess : Int := (num.log2 : Int) - den.log2 - 52
  let (gnum, gden) := unscale 2 guess num den
  let fitted := if gnum < gden * leastNormal then guess - 1 else guess
  let e := max fitted minExponent
  let (n, d) := unscale 2 e num den
  let m := divNearestEven n d
  -- Rounding up may reach the next power of two.
  let (m, e) := if m = 2 * leastNormal then (leastNormal, e + 1) else (m, e)
  if maxExponent < e then none else some ⟨negative, m, e⟩

/-- The number of decimal digits. -/
def digitCount (n : Nat) : Nat :=
  (Nat.toDigits 10 n).length

/-- The double nearest to `digits * 10 ^ e`, if it is within range. Decimals far outside the range
are settled by their length alone. -/
def ofDecimal? (negative : Bool) (digits : Nat) (e : Int) : Option Double :=
  if digits = 0 then some ⟨negative, 0, minExponent⟩
  else
    let magnitude : Int := digitCount digits + e
    if magnitude < -330 then some ⟨negative, 0, minExponent⟩
    else if 310 < magnitude then none
    else
      let (num, den) := unscale 10 (-e) digits 1
      ofFraction? negative num den

/-- The decimals `digits * 10 ^ exponent`. -/
structure Digits where
  digits : Nat
  exponent : Int
deriving DecidableEq, Repr

/-- The fractions between which a decimal reads back as the double, and whether the two ends do
so. -/
structure Interval where
  lowNum : Nat
  highNum : Nat
  den : Nat
  closed : Bool

/-- The interval of a nonzero double. Its neighbours are half a unit away, but the one below a
power of two only a quarter. -/
def interval (x : Double) : Interval :=
  let tight := x.mantissa = leastNormal ∧ minExponent < x.exponent
  let low := if tight then 4 * x.mantissa - 1 else 4 * x.mantissa - 2
  let high := 4 * x.mantissa + 2
  let scale := unscale 2 (-(x.exponent - 2)) 1 1
  ⟨low * scale.1, high * scale.1, scale.2, x.mantissa % 2 = 0⟩

/-- Whether the fraction `num / den` lies in the interval. -/
def Interval.holds (i : Interval) (num den : Nat) : Bool :=
  if i.closed then i.lowNum * den ≤ num * i.den && num * i.den ≤ i.highNum * den
  else i.lowNum * den < num * i.den && num * i.den < i.highNum * den

/-- The least `k` with `num / den < 10 ^ k`, found upwards from `k`. -/
def magnitudeFrom (num den : Nat) : (fuel : Nat) → (k : Int) → Int
  | 0, k => k
  | fuel + 1, k =>
    let (n, d) := unscale 10 k num den
    if n < d then k else magnitudeFrom num den fuel (k + 1)

/-- The decimal with `count` digits that is nearest to the double among its two neighbours on that
grid, if one of them reads back as the double. -/
def onGrid? (x : Double) (num den : Nat) (magnitude : Int) (count : Nat) : Option Digits :=
  let e := magnitude - count
  let (n, d) := unscale 10 e num den
  let below := n / d
  let reads (m : Nat) : Bool :=
    let (a, b) := unscale 10 (-e) m 1
    x.interval.holds a b
  let lower := reads below
  let upper := reads (below + 1)
  if lower && upper then some ⟨divNearestEven n d, e⟩
  else if lower then some ⟨below, e⟩
  else if upper then some ⟨below + 1, e⟩
  else none

/-- The decimal of the fewest digits that reads back as the double, for a nonzero double. -/
def shortest (x : Double) : Digits :=
  let (num, den) := unscale 2 (-x.exponent) x.mantissa 1
  let guess : Int := (num.log2 : Int) - den.log2
  -- The guess in base ten, lowered so far that the search starts no higher than the magnitude.
  let start := (guess * 30103) / 100000 - 2
  let magnitude := magnitudeFrom num den 8 start
  let counts := (List.range 17).map (· + 1)
  (counts.findSome? (onGrid? x num den magnitude)).getD ⟨x.mantissa, x.exponent⟩

/-- The digits without the zeros at their end. -/
def dropZeros : (fuel : Nat) → Digits → Digits
  | 0, d => d
  | fuel + 1, d =>
    if d.digits ≠ 0 ∧ d.digits % 10 = 0 then dropZeros fuel ⟨d.digits / 10, d.exponent + 1⟩ else d

/-- Where positional notation ends: the point lies more than `left` places before the first digit,
or more than `right` places after it. -/
structure Positional where
  left : Int
  right : Int

/-- Numbers below `10 ^ -5` and from `10 ^ 16` on are written with an exponent. -/
def jsonPositional : Positional := ⟨-5, 16⟩

/-- The text of the digits. An exponent has a sign, also a positive one. -/
def Digits.render (style : Positional) (d : Digits) : String :=
  let text := (Nat.toDigits 10 d.digits)
  let point : Int := text.length + d.exponent
  let chars :=
    if 0 ≤ d.exponent ∧ point ≤ style.right then
      text ++ List.replicate d.exponent.toNat '0' ++ ['.', '0']
    else if 0 < point ∧ point ≤ style.right then
      text.take point.toNat ++ '.' :: text.drop point.toNat
    else if style.left < point ∧ point ≤ 0 then
      '0' :: '.' :: List.replicate (-point).toNat '0' ++ text
    else
      let fraction := if text.length = 1 then [] else '.' :: text.drop 1
      let sign := if 0 < point then ['+'] else []
      text.take 1 ++ fraction ++ 'e' :: sign ++ (toString (point - 1)).toList
  String.ofList chars

/-- The text of a double: always with a point or an exponent, so that it reads back as a double. -/
def render (x : Double) : String :=
  let body :=
    if x.mantissa = 0 then "0.0" else (dropZeros 20 x.shortest).render jsonPositional
  if x.negative then "-" ++ body else body

end Double

end ComplianceTriage
