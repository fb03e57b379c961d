import ComplianceTriage.Value.Basic

/-!
# Trees as text

Reports are written as JSON over several lines, each level two spaces further in, with a space after
the colon of a field and with empty objects and arrays on one line. Between quotes only the quote,
the backslash and the controls are escaped.
-/

namespace ComplianceTriage.Value

/-- How one character stands in a JSON text. -/
def escapedChar (c : Char) : List Char :=
  match c with
  | '"' => ['\\', '"']
  | '\\' => ['\\', '\\']
  | '\n' => ['\\', 'n']
  | '\r' => ['\\', 'r']
  | '\t' => ['\\', 't']
  | '\x08' => ['\\', 'b']
  | '\x0c' => ['\\', 'f']
  | c =>
    if c.toNat < 0x20 then
      ['\\', 'u', '0', '0', Nat.digitChar (c.toNat / 16), Nat.digitChar (c.toNat % 16)]
    else [c]

/-- A JSON text. -/
def escaped (s : String) : String :=
  String.ofList ('"' :: s.toList.flatMap escapedChar ++ ['"'])

/-- A new line at a depth. -/
def newline (depth : Nat) : String :=
  String.ofList ('\n' :: List.replicate (2 * depth) ' ')

mutual

/-- The text of a tree whose first line stands at `depth`. -/
def layout (depth : Nat) : Value → String
  | .null => "null"
  | .bool b => if b then "true" else "false"
  | .number n => n.render
  | .string s => escaped s
  | .array [] => "[]"
  | .array (item :: rest) =>
    "[" ++ newline (depth + 1) ++ layout (depth + 1) item ++ layoutItems depth rest
  | .object [] => "\x7b\x7d"
  | .object (field :: rest) =>
    "\x7b" ++ newline (depth + 1) ++ layoutField depth field ++ layoutFields depth rest

/-- The text after an item, up to the end of its array. -/
def layoutItems (depth : Nat) : List Value → String
  | [] => newline depth ++ "]"
  | item :: rest =>
    "," ++ newline (depth + 1) ++ layout (depth + 1) item ++ layoutItems depth rest

/-- The text of a field. -/
def layoutField (depth : Nat) : String × Value → String
  | (key, value) => escaped key ++ ": " ++ layout (depth + 1) value

/-- The text after a field, up to the end of its object. -/
def layoutFields (depth : Nat) : List (String × Value) → String
  | [] => newline depth ++ "\x7d"
  | field :: rest =>
    "," ++ newline (depth + 1) ++ layoutField depth field ++ layoutFields depth rest

end

/-- The text of a tree over several lines. -/
def pretty (value : Value) : String :=
  value.layout 0

end ComplianceTriage.Value
