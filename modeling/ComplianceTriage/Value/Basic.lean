import ComplianceTriage.Decimal.Double

/-!
# Object trees

Everything the hub holds is an untyped tree of objects, arrays, texts and numbers, in which any
field may be missing or of another type than expected. An object keeps its fields in the order in
which they came. A field that is set again keeps its place and takes the new value (`Fields.set`).
-/

namespace ComplianceTriage

/-- A number of a tree: a whole number as written, or a double. -/
inductive Number where
  | integer (n : Int)
  | double (x : Double)
deriving DecidableEq, Repr, Inhabited

/-- The text of a number. -/
def Number.render : Number → String
  | .integer n => toString n
  | .double x => x.render

/-- An untyped tree. -/
inductive Value where
  | null
  | bool (b : Bool)
  | number (n : Number)
  | string (s : String)
  | array (items : List Value)
  | object (fields : List (String × Value))
deriving Repr, Inhabited

/-- The fields of an object, in order. -/
abbrev Fields := List (String × Value)

/-- Sets a field: in its place if it is there, at the end otherwise. -/
def Fields.set (fields : Fields) (key : String) (value : Value) : Fields :=
  match fields with
  | [] => [(key, value)]
  | (k, v) :: rest => if k = key then (k, value) :: rest else (k, v) :: Fields.set rest key value

/-- The value of a field. -/
def Fields.get? (fields : Fields) (key : String) : Option Value :=
  fields.lookup key

namespace Value

/-- Whether the value is an object. -/
def isObject : Value → Bool
  | .object _ => true
  | _ => false

/-- The text of a text value. -/
def text? : Value → Option String
  | .string s => some s
  | _ => none

/-- The items of an array. -/
def items? : Value → Option (List Value)
  | .array items => some items
  | _ => none

/-- The fields of an object. -/
def fields? : Value → Option Fields
  | .object fields => some fields
  | _ => none

/-- The value of a field of an object; nothing else has fields. -/
def field? (value : Value) (key : String) : Option Value :=
  match value with
  | .object fields => Fields.get? fields key
  | _ => none

end Value

end ComplianceTriage
