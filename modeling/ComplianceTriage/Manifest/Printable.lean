/-!
# Printable characters

A YAML text holds printable characters only. It is checked block by block, each block when reading
comes to it. So a character that is not printable is a fault at the start of its block, and what was
read before stays (`faultyBlock?`).
-/

namespace ComplianceTriage.Manifest

/-- The characters that a text may hold. -/
def isPrintable (c : Char) : Bool :=
  let n := c.toNat
  n = 0x09 || n = 0x0A || n = 0x0D || (0x20 ≤ n && n ≤ 0x7E) || n = 0x85 ||
    (0xA0 ≤ n && n ≤ 0xD7FF) || (0xE000 ≤ n && n ≤ 0xFFFD) || 0x10000 ≤ n

/-- The number of bytes of a block. -/
def blockSize : Nat := 16384

/-- Where the block with the first character that is not printable starts, if there is one. Places
count bytes: the current block starts at `start`, and the text at `offset`. A character that does
not fit into a block as a whole starts the next one. -/
def faultyBlock? (start offset : Nat) : List Char → Option Nat
  | [] => none
  | c :: rest =>
    let next := offset + c.utf8Size
    let start := if start + blockSize < next then offset else start
    if isPrintable c then faultyBlock? start next rest else some start

end ComplianceTriage.Manifest
