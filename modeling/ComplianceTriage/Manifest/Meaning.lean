import ComplianceTriage.Manifest.Plain
import ComplianceTriage.Manifest.Reading

/-!
# What a document means

A document means a tree of values: a sequence is an array, a mapping an object whose keys are the
texts of scalars, and an alias means what its node means. A key that comes again takes the later
value. Collections may be nested 128 deep, and aliases may be followed a hundred times for each mark
that the document is made of, so that no document means more than its length accounts for. A tag of
one's own means nothing here and is a fault.
-/

namespace ComplianceTriage.Manifest

namespace Document

/-- How deep collections may be nested. -/
def depthLimit : Nat := 128

/-- How often aliases may be followed for each mark. -/
def aliasFactor : Nat := 100

/-- A step of telling what a document means; the state is how many aliases may still be followed. -/
abbrev Telling := StateT Nat (Except Fault)

/-- The node itself, or the one that an alias stands for. -/
def follow (document : Document) (node : Node) : Telling Node :=
  match node with
  | .alias number => do
    match ← get with
    | 0 => throw .tooManyAliases
    | left + 1 =>
      set left
      match document.anchors.target? number with
      | some target => return target
      | none => throw .unknownAnchor
  | node => return node

/-- The key that a node stands for. -/
def keyOf (document : Document) (node : Node) : Telling String := do
  match ← document.follow node with
  | .scalar _ text _ => return String.ofList text
  | _ => throw .badKey

/-- What a scalar means. -/
def scalarValue (tag? : Option (List UInt8)) (text : List Char) (plain : Bool) :
    Except Fault Value :=
  match tag? with
  | some tag => if isOwnTag tag then .error .badValue else taggedValue tag text plain
  | none => if plain then plainValue text else .ok (.string (String.ofList text))

/-- What a node means, where collections may be nested `depth` deep. -/
def meaning (document : Document) (depth : Nat) (node : Node) : Telling Value := do
  match ← document.follow node with
  | .scalar tag? text plain => scalarValue tag? text plain
  | .sequence tag? items =>
    if tag?.any isOwnTag then throw .badValue
    match depth with
    | 0 => throw .tooDeep
    | depth + 1 => return .array (← items.mapM (document.meaning depth))
  | .mapping tag? entries =>
    if tag?.any isOwnTag then throw .badValue
    match depth with
    | 0 => throw .tooDeep
    | depth + 1 =>
      let fields ← entries.foldlM (fun (fields : Fields) (key, value) => do
        let key ← document.keyOf key
        return fields.set key (← document.meaning depth value)) []
      return .object fields
  | .alias _ => throw .unknownAnchor

/-- What a document means. -/
def value (document : Document) : Except Fault Value :=
  let aliases := aliasFactor * document.root.size
  ((document.meaning depthLimit document.root).run aliases).map Prod.fst

/-- A mapping without entries means an empty object. -/
@[simp]
theorem value_mapping_nil (anchors : Anchors) :
    value ⟨.mapping none [], anchors⟩ = .ok (.object []) := by
  rw [value, meaning]
  rfl

/-- A sequence without items means an empty array. -/
@[simp]
theorem value_sequence_nil (anchors : Anchors) :
    value ⟨.sequence none [], anchors⟩ = .ok (.array []) := by
  rw [value, meaning]
  rfl

end Document

/-- The values of the documents of a text up to the first fault, and that fault. -/
structure Values where
  values : List Value
  fault : Option Fault

/-- The values of documents, up to the first one that means nothing. -/
def Values.ofDocuments (fault : Option Fault) : List Document → Values
  | [] => ⟨[], fault⟩
  | document :: rest =>
    match document.value with
    | .error fault => ⟨[], some fault⟩
    | .ok value =>
      let rest := ofDocuments fault rest
      { rest with values := value :: rest.values }

/-- The values of the documents of a text. -/
def Values.ofText (text : List Char) : Values :=
  let documents := Documents.ofText text
  .ofDocuments documents.fault documents.documents

end ComplianceTriage.Manifest
