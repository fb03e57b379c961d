/-!
# Faults of a TOML text

Why a TOML text cannot be read.
-/

namespace ComplianceTriage.Toml

/-- What is wrong with a TOML text. -/
inductive Fault where
  /-- A key is expected and there is none. -/
  | missingKey
  /-- A key without its equals sign. -/
  | missingEquals
  /-- A header without its closing bracket. -/
  | unclosedHeader
  /-- An array or inline table without its closing bracket. -/
  | unclosedValue
  /-- A text without its closing quote. -/
  | unclosedText
  /-- An escape that does not exist, or that names no character. -/
  | badEscape
  /-- A control character. -/
  | forbiddenCharacter
  /-- A value that is none of the known kinds. -/
  | badValue
  /-- More on a line than belongs there. -/
  | trailingText
  /-- A key or a table that is defined twice. -/
  | duplicateKey
  /-- Values nested too deeply. -/
  | tooDeep
  /-- More text than the reader accounts for. -/
  | exhausted
deriving DecidableEq, Repr, Inhabited

/-- The text of a fault. -/
def Fault.message : Fault → String
  | missingKey => "a key is expected"
  | missingEquals => "an equals sign is expected after a key"
  | unclosedHeader => "a header is not closed"
  | unclosedValue => "an array or inline table is not closed"
  | unclosedText => "a text is not closed"
  | badEscape => "an escape is not valid"
  | forbiddenCharacter => "a control character is not allowed"
  | badValue => "a value is not valid"
  | trailingText => "the end of the line is expected"
  | duplicateKey => "a key is defined twice"
  | tooDeep => "values are nested too deeply"
  | exhausted => "the text is too long"

end ComplianceTriage.Toml
