/-!
# Nodes of a document

A document is a tree of scalars, sequences and mappings, in which an alias stands for a node that
has an anchor. A tag stands in full, in bytes.

An anchor takes as its number the count of different names so far. A name that is given again takes
a new number but does not change that count, so that the next new name takes the same number; then
the aliases of both stand for the node that took the number last (`Anchors.target?`).
-/

namespace ComplianceTriage.Manifest

/-- A node of a document, with its tag in full. -/
inductive Node where
  /-- A scalar, and whether it is written without quotes or indicators. -/
  | scalar (tag? : Option (List UInt8)) (text : List Char) (plain : Bool)
  | sequence (tag? : Option (List UInt8)) (items : List Node)
  | mapping (tag? : Option (List UInt8)) (entries : List (Node × Node))
  | alias (number : Nat)
deriving Repr, Inhabited

namespace Node

/-- The node that stands where nothing is written. -/
def missing : Node := .scalar none [] true

mutual

/-- The number of marks that a node is made of: one for a scalar or an alias, one for each end of a
collection, and those of what is inside. -/
def size : Node → Nat
  | .scalar .. => 1
  | .alias _ => 1
  | .sequence _ items => 2 + sizeOfItems items
  | .mapping _ entries => 2 + sizeOfEntries entries

/-- The marks of the items of a sequence. -/
def sizeOfItems : List Node → Nat
  | [] => 0
  | item :: rest => item.size + sizeOfItems rest

/-- The marks of the keys and values of a mapping. -/
def sizeOfEntries : List (Node × Node) → Nat
  | [] => 0
  | (key, value) :: rest => key.size + value.size + sizeOfEntries rest

end

end Node

/-- The anchors of a document. -/
structure Anchors where
  /-- The names, each with its latest number. -/
  names : List (List Char × Nat)
  /-- The numbers in the order in which nodes took them, latest first. The place of a node is the
  count of those before it. -/
  taken : List Nat
  /-- The nodes by their places. -/
  nodes : List (Nat × Node)
deriving Repr

namespace Anchors

/-- No anchors. -/
def none : Anchors := ⟨[], [], []⟩

/-- The number that the aliases of a name stand for. -/
def number? (anchors : Anchors) (name : List Char) : Option Nat :=
  anchors.names.lookup name

/-- Gives a name to the node that starts next, and tells the place of that node. -/
def declare (anchors : Anchors) (name : List Char) : Nat × Anchors :=
  let number := anchors.names.length
  let names := (name, number) :: anchors.names.filter fun entry => entry.1 ≠ name
  (anchors.taken.length, { anchors with names, taken := number :: anchors.taken })

/-- Puts a node at its place. -/
def attach (anchors : Anchors) (place : Nat) (node : Node) : Anchors :=
  { anchors with nodes := (place, node) :: anchors.nodes }

/-- The node that aliases with a number stand for: the last that took it. -/
def target? (anchors : Anchors) (number : Nat) : Option Node :=
  let earlier := (anchors.taken.dropWhile (· ≠ number)).drop 1
  anchors.nodes.lookup earlier.length

end Anchors

/-- A document: its root, and the nodes that its aliases stand for. -/
structure Document where
  root : Node
  anchors : Anchors
deriving Repr

/-- The document of a text in which there is nothing. -/
def Document.blank : Document := ⟨Node.missing, Anchors.none⟩

end ComplianceTriage.Manifest
