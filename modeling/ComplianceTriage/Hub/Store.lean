import ComplianceTriage.Hub.Access

/-!
# A hub of exported objects

Exported manifests are served as if they were a hub. Objects keep the order in which they came. An
object whose kind ends in `List` is not kept itself: its items are, and so on downwards; what is not
an object is dropped. `Store.objects_insert` says that the objects kept are exactly the leaves of
what was put in, from left to right.
-/

namespace ComplianceTriage

/-- Whether the fields are those of a wrapper around a list of objects. -/
def wrapsItems (fields : Fields) : Bool :=
  match Fields.get? fields "kind" with
  | some (.string kind) => "List".toList.isSuffixOf kind.toList
  | _ => false

mutual

/-- The objects inside a value that are not wrappers, from left to right. -/
def Value.leaves : Value → List Value
  | .object fields => if wrapsItems fields then itemLeaves fields else [.object fields]
  | _ => []

/-- The leaves of the items of a wrapper, which must be an array. -/
def itemLeaves : List (String × Value) → List Value
  | [] => []
  | (key, value) :: rest => if key = "items" then arrayLeaves value else itemLeaves rest

/-- The leaves of the items of an array. -/
def arrayLeaves : Value → List Value
  | .array items => listLeaves items
  | _ => []

/-- The leaves of several values. -/
def listLeaves : List Value → List Value
  | [] => []
  | value :: rest => value.leaves ++ listLeaves rest

end

/-- Exported objects, in the order in which they came. -/
structure Store where
  objects : List Value
deriving Repr, Inhabited

namespace Store

/-- No objects. -/
def empty : Store := ⟨[]⟩

/-- The store with one more object at its end. -/
def push (store : Store) (object : Value) : Store :=
  ⟨store.objects ++ [object]⟩

mutual

/-- Puts a value into the store: an object at the end, a wrapper item by item. -/
def insert (store : Store) : Value → Store
  | .object fields =>
    if wrapsItems fields then store.insertItems fields else store.push (.object fields)
  | _ => store

/-- Puts the items of a wrapper into the store. -/
def insertItems (store : Store) : List (String × Value) → Store
  | [] => store
  | (key, value) :: rest =>
    if key = "items" then store.insertArray value else store.insertItems rest

/-- Puts the items of an array into the store. -/
def insertArray (store : Store) : Value → Store
  | .array items => store.insertAll items
  | _ => store

/-- Puts values into the store, one after the other. -/
def insertAll (store : Store) : List Value → Store
  | [] => store
  | value :: rest => (store.insert value).insertAll rest

end

/-- The store of some values. -/
def ofValues (values : List Value) : Store :=
  empty.insertAll values

/-- The number of objects. -/
def size (store : Store) : Nat :=
  store.objects.length

/-- Whether an object has a type, a name and a namespace. -/
def answers (type : ResourceType) (name ns : String) (object : Value) : Bool :=
  type.holds object && object.name = name && object.ns = ns

/-- The first object of a type with a name and a namespace. -/
def get (store : Store) (type : ResourceType) (name ns : String) : Except AccessError Value :=
  match store.objects.find? (answers type name ns) with
  | some object => .ok object
  | none => .error (.notFound type.kind name ns)

/-- The objects of a type, in one namespace or in all. -/
def list (store : Store) (type : ResourceType) (ns? : Option String) : List Value :=
  store.objects.filter fun object =>
    type.holds object && match ns? with
      | some ns => object.ns = ns
      | none => true

/-- The store as a hub. -/
def access (store : Store) : Access :=
  ⟨store.get, fun type ns? => .ok (store.list type ns?)⟩

mutual

/-- What a value adds to a store are its leaves. -/
theorem objects_insert (store : Store) (value : Value) :
    (store.insert value).objects = store.objects ++ value.leaves := by
  -- By recursion over a value, its fields and its items, as they are put in.
  cases value with
  | object fields =>
    simp only [insert, Value.leaves]
    split
    · exact objects_insertItems store fields
    · rfl
  | _ => simp [insert, Value.leaves]

/-- What the fields of a wrapper add to a store are the leaves of its items. -/
theorem objects_insertItems (store : Store) (fields : List (String × Value)) :
    (store.insertItems fields).objects = store.objects ++ itemLeaves fields := by
  match fields with
  | [] => simp [insertItems, itemLeaves]
  | (key, value) :: rest =>
    simp only [insertItems, itemLeaves]
    split
    · exact objects_insertArray store value
    · exact objects_insertItems store rest

/-- What an array adds to a store are the leaves of its items, and nothing else adds any. -/
theorem objects_insertArray (store : Store) (value : Value) :
    (store.insertArray value).objects = store.objects ++ arrayLeaves value := by
  cases value with
  | array items =>
    simp only [insertArray, arrayLeaves]
    exact objects_insertAll store items
  | _ => simp [insertArray, arrayLeaves]

/-- What several values add to a store are their leaves. -/
theorem objects_insertAll (store : Store) (values : List Value) :
    (store.insertAll values).objects = store.objects ++ listLeaves values := by
  match values with
  | [] => simp [insertAll, listLeaves]
  | value :: rest =>
    rw [insertAll, listLeaves, objects_insertAll (store.insert value) rest,
      objects_insert store value, List.append_assoc]

end

end Store

end ComplianceTriage
