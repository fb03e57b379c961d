/-!
# Faults of a manifest

Why a YAML text cannot be read. The causes are those that a reader of the text would name; where in
the text they lie is not kept.
-/

namespace ComplianceTriage.Manifest

/-- What is wrong with a YAML text. -/
inductive Fault where
  /-- A character that no text may hold. -/
  | forbiddenCharacter
  /-- A character that starts no token. -/
  | strayCharacter
  /-- A key, a value or an item where none is allowed. -/
  | misplacedIndicator
  /-- A key without the colon that it needs. -/
  | missingColon
  /-- A directive that is unknown, malformed or repeated. -/
  | badDirective
  /-- An anchor or alias without a name. -/
  | badAnchor
  /-- A malformed tag, or one whose handle is not defined. -/
  | badTag
  /-- A malformed header of a block scalar. -/
  | badBlockHeader
  /-- A tab where only spaces indent. -/
  | tabIndent
  /-- A quoted text without its closing quote. -/
  | unclosedQuote
  /-- An escape that does not exist, or that names no character. -/
  | badEscape
  /-- A colon inside a plain text in brackets. -/
  | strayColon
  /-- A token where another one is expected. -/
  | unexpectedToken
  /-- An alias whose anchor is not known. -/
  | unknownAnchor
  /-- Collections nested too deeply. -/
  | tooDeep
  /-- Aliases that would repeat too much. -/
  | tooManyAliases
  /-- A value whose tag does not fit, or is not known. -/
  | badValue
  /-- A number that fits no integer type. -/
  | hugeInteger
  /-- A key that is not a scalar. -/
  | badKey
  /-- More nesting or text than the reader accounts for. -/
  | exhausted
deriving DecidableEq, Repr, Inhabited

/-- The text of a fault. -/
def Fault.message : Fault → String
  | forbiddenCharacter => "control characters are not allowed"
  | strayCharacter => "found character that cannot start any token"
  | misplacedIndicator => "found an indicator that is not allowed in this context"
  | missingColon => "could not find expected ':'"
  | badDirective => "found an invalid directive"
  | badAnchor => "did not find expected alphabetic or numeric character"
  | badTag => "found an invalid tag"
  | badBlockHeader => "did not find expected comment or line break"
  | tabIndent => "found a tab character where an indentation space is expected"
  | unclosedQuote => "found unexpected end of stream"
  | badEscape => "found an invalid escape"
  | strayColon => "found unexpected ':'"
  | unexpectedToken => "did not find expected node content"
  | unknownAnchor => "unknown anchor"
  | tooDeep => "recursion limit exceeded"
  | tooManyAliases => "repetition limit exceeded"
  | badValue => "invalid value"
  | hugeInteger => "integer out of range"
  | badKey => "invalid type: expected a string key"
  | exhausted => "text too long"

end ComplianceTriage.Manifest
