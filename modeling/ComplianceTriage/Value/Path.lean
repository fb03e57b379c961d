import ComplianceTriage.Value.Basic

/-!
# Paths into a tree

A field is read by the path of keys that leads to it. A path that leaves the tree, or that leads to
a value of another type than the one asked for, reads as absent and never as an error; an absent
text is often read as the empty one (`Option.getD`).
-/

namespace ComplianceTriage.Value

/-- The value that a path of keys leads to. -/
def at? (value : Value) : List String → Option Value
  | [] => some value
  | key :: path => (value.field? key).bind fun next => next.at? path

/-- The text at a path. -/
def textAt? (value : Value) (path : List String) : Option String :=
  (value.at? path).bind text?

/-- The text at a path is that of the text value there. -/
theorem textAt?_eq_some_iff {value : Value} {path : List String} {text : String} :
    value.textAt? path = some text ↔ value.at? path = some (.string text) := by
  rw [textAt?, Option.bind_eq_some_iff]
  constructor
  · rintro ⟨found, hfound, htext⟩
    -- Only a text reads as one.
    cases found with
    | string s =>
      cases htext
      exact hfound
    | _ => cases htext
  · intro hfound
    exact ⟨_, hfound, rfl⟩

/-- The text at a path; an absent one reads as empty. -/
def textAt (value : Value) (path : List String) : String :=
  (value.textAt? path).getD ""

/-- The items of the array at a path; an absent one reads as empty. -/
def itemsAt (value : Value) (path : List String) : List Value :=
  ((value.at? path).bind items?).getD []

/-- The fields of the object at a path. -/
def fieldsAt? (value : Value) (path : List String) : Option Fields :=
  (value.at? path).bind fields?

/-- The value at a path, if it is an object. -/
def objectAt? (value : Value) (path : List String) : Option Value :=
  (value.at? path).filter isObject

/-- The object at a path is the value there, and an object. -/
theorem objectAt?_eq_some_iff {value object : Value} {path : List String} :
    value.objectAt? path = some object ↔ value.at? path = some object ∧ object.isObject = true :=
  Option.filter_eq_some_iff

/-- The kind of an object. -/
def kind (value : Value) : String :=
  value.textAt ["kind"]

/-- The name in an object's metadata. -/
def name (value : Value) : String :=
  value.textAt ["metadata", "name"]

/-- The namespace in an object's metadata. -/
def ns (value : Value) : String :=
  value.textAt ["metadata", "namespace"]

end ComplianceTriage.Value
