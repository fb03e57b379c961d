import ComplianceTriage.Text.Concealed

/-!
# Quoted texts

Error texts name objects between double quotes. A quote and a backslash inside are escaped, the
usual controls have short escapes, and every other character that would not be shown as it is is
written by its code point, so that a reader can tell which characters a name holds.
-/

namespace ComplianceTriage.Text

/-- The lower-case hexadecimal digits of a number. -/
def hexDigits (n : Nat) : List Char :=
  Nat.toDigits 16 n

/-- How one character stands between quotes. -/
def quotedChar (c : Char) : List Char :=
  match c with
  | '\x00' => ['\\', '0']
  | '\t' => ['\\', 't']
  | '\r' => ['\\', 'r']
  | '\n' => ['\\', 'n']
  | '"' => ['\\', '"']
  | '\\' => ['\\', '\\']
  | c => if isConcealed c then ['\\', 'u', '\x7b'] ++ hexDigits c.toNat ++ ['\x7d'] else [c]

/-- A text between double quotes. -/
def quoted (s : String) : String :=
  String.ofList ('"' :: s.toList.flatMap quotedChar ++ ['"'])

end ComplianceTriage.Text
