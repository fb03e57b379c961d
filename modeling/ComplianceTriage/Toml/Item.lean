import ComplianceTriage.Decimal.Double
import ComplianceTriage.Toml.Fault

/-!
# Tables of a TOML text

A table is filled by keys, by dotted keys that lead into tables inside it, and by headers. Each
table may be defined in one place only: one that a header opened is closed to dotted keys from
elsewhere, one that dotted keys made is closed to a header of its own, and an inline table is closed
to all. A table that only stands on the way to another one may still be opened by a header, once.
-/

namespace ComplianceTriage.Toml

/-- What made a table. -/
inductive Origin where
  /-- A header of its own, or the text itself. -/
  | header
  /-- The header of a table inside it. -/
  | longerHeader
  /-- A dotted key. -/
  | dottedKey
  /-- Braces. -/
  | inline
deriving DecidableEq, Repr, Inhabited

/-- A value of a TOML text. -/
inductive Item where
  | text (s : String)
  | integer (n : Int)
  /-- A number with a fraction; an infinity and what is not a number have no double. -/
  | float (x : Option Double)
  /-- A number that no type holds. It does no harm where nobody looks at it. -/
  | huge
  | bool (b : Bool)
  /-- A date, a time, or both, as written. -/
  | moment (s : String)
  | array (items : List Item)
  | table (origin : Origin) (entries : List (String × Item))
  /-- The tables of headers in double brackets, of which there is at least one. -/
  | rows (rows : List (List (String × Item)))
deriving Repr, Inhabited

namespace Item

mutual

/-- Whether there is no huge number in a value. -/
def isHeld : Item → Bool
  | .huge => false
  | .array items => itemsHeld items
  | .table _ entries => entriesHeld entries
  | .rows tables => rowsHeld tables
  | _ => true

/-- Whether there is no huge number in the items of an array. -/
def itemsHeld : List Item → Bool
  | [] => true
  | item :: rest => item.isHeld && itemsHeld rest

/-- Whether there is no huge number in the entries of a table. -/
def entriesHeld : List (String × Item) → Bool
  | [] => true
  | (_, item) :: rest => item.isHeld && entriesHeld rest

/-- Whether there is no huge number in rows. -/
def rowsHeld : List (List (String × Item)) → Bool
  | [] => true
  | row :: rest => entriesHeld row && rowsHeld rest

end

end Item

/-- A table, and what made it. -/
structure Table where
  origin : Origin
  entries : List (String × Item)
deriving Repr, Inhabited

namespace Table

/-- The table of a text in which there is nothing. -/
def empty : Table := ⟨.header, []⟩

/-- The table as a value. -/
def toItem (table : Table) : Item := .table table.origin table.entries

/-- The value of a key. -/
def get? (table : Table) (key : String) : Option Item :=
  table.entries.lookup key

/-- Sets an entry: in its place if it is there, at the end otherwise. -/
def setEntry (key : String) (item : Item) : List (String × Item) → List (String × Item)
  | [] => [(key, item)]
  | (k, i) :: rest => if k = key then (k, item) :: rest else (k, i) :: setEntry key item rest

/-- The table with a value for a key. -/
def set (table : Table) (key : String) (item : Item) : Table :=
  { table with entries := setEntry key item table.entries }

/-- Whether a path leads through a table that something made, for dotted keys or for headers. -/
def leadsThrough (dotted : Bool) : Origin → Bool
  | .header => !dotted
  | .longerHeader => true
  | .dottedKey => true
  | .inline => false

/-- Changes the table at the end of a path, and makes those on the way that are missing. Among rows
the way leads through the last one. -/
def alter (dotted : Bool) (change : Table → Except Fault Table) :
    List String → Table → Except Fault Table
  | [], table => change table
  | key :: path, table =>
    match table.get? key with
    | none => do
      let child := ⟨if dotted then .dottedKey else .longerHeader, []⟩
      return table.set key (← alter dotted change path child).toItem
    | some (.table origin entries) => do
      if !leadsThrough dotted origin then throw .duplicateKey
      return table.set key (← alter dotted change path ⟨origin, entries⟩).toItem
    | some (.rows rows) => do
      let last ← alter dotted change path ⟨.header, rows.getLast?.getD []⟩
      return table.set key (.rows (rows.dropLast ++ [last.entries]))
    | some _ => throw .duplicateKey

/-- Gives a value to a key that has none. A dotted key ends in a table that dotted keys made. -/
def define (path : List String) (key : String) (item : Item) (table : Table) :
    Except Fault Table :=
  alter true (fun parent =>
    if (parent.get? key).isSome || (!path.isEmpty && parent.origin ≠ .dottedKey) then
      .error .duplicateKey
    else .ok (parent.set key item)) path table

/-- Opens the table of a header. -/
def openTable (path : List String) (key : String) (table : Table) : Except Fault Table :=
  alter false (fun parent =>
    match parent.get? key with
    | none => .ok (parent.set key (.table .header []))
    -- So far the table only stood on the way to another one.
    | some (.table .longerHeader entries) => .ok (parent.set key (.table .header entries))
    | some _ => .error .duplicateKey) path table

/-- Opens the next row of a header in double brackets. -/
def openRow (path : List String) (key : String) (table : Table) : Except Fault Table :=
  alter false (fun parent =>
    match parent.get? key with
    | none => .ok (parent.set key (.rows [[]]))
    | some (.rows rows) => .ok (parent.set key (.rows (rows ++ [[]])))
    | some _ => .error .duplicateKey) path table

end Table

end ComplianceTriage.Toml
