/-!
# Tokens of a YAML text

The tokens of a text, among them those that indentation stands for: the start of a block sequence or
mapping and the end of a block. A tag is held in bytes, as its escapes may name any.
-/

namespace ComplianceTriage.Manifest

/-- A token of a YAML text. -/
inductive Token where
  | streamEnd
  | version (major minor : Nat)
  | tagShorthand (handle : List Char) (expansion : List UInt8)
  | documentStart
  | documentEnd
  | blockSequenceStart
  | blockMappingStart
  | blockEnd
  | flowSequenceStart
  | flowSequenceEnd
  | flowMappingStart
  | flowMappingEnd
  | blockEntry
  | flowEntry
  | key
  | value
  | alias (name : List Char)
  | anchor (name : List Char)
  | tag (handle : List Char) (suffix : List UInt8)
  /-- A scalar, and whether it is written without quotes or indicators. -/
  | scalar (text : List Char) (plain : Bool)
deriving DecidableEq, Repr, Inhabited

end ComplianceTriage.Manifest
