/-!
# Digits

Numbers are written in digits of a base, and characters are named by the digits of their code
points.
-/

namespace ComplianceTriage.Text

/-- The value of a digit of a base up to sixteen. -/
def digit? (base : Nat) (c : Char) : Option Nat :=
  let value? :=
    if c.isDigit then some (c.toNat - '0'.toNat)
    else if 'a' ≤ c && c ≤ 'f' then some (c.toNat - 'a'.toNat + 10)
    else if 'A' ≤ c && c ≤ 'F' then some (c.toNat - 'A'.toNat + 10)
    else none
  value?.filter (· < base)

/-- The number that at least one digit of a base stands for. -/
def natural? (base : Nat) (digits : List Char) : Option Nat :=
  if digits.isEmpty then none
  else digits.foldlM (fun n c => (digit? base c).map fun d => base * n + d) 0

/-- The character whose code point is written in a number of hexadecimal digits. Not every code
point is that of a character. -/
def namedChar? (length : Nat) (digits : List Char) : Option Char :=
  if digits.length ≠ length then none
  else
    (natural? 16 digits).bind fun n =>
      -- Surrogates are no characters, and neither is what lies beyond the last plane.
      if (0xD800 ≤ n && n ≤ 0xDFFF) || 0x10FFFF < n then none else some (Char.ofNat n)

end ComplianceTriage.Text
