import ComplianceTriage.Hub.Manifests
import ComplianceTriage.Triage.Diagnosis
import ComplianceTriage.Triage.Inspection

/-!
# Packaging

Exported objects come in many packages: by themselves, in lists, in lists of lists, as documents of
one file or of several. A hub made of them keeps the objects and nothing of the packages. What it
keeps is told without it by `AllHold`: a wrapper holds what its items hold, and any other object
holds itself. `packaging_immaterial` says that this is what is stored, and that repacking the
objects or distributing their documents over other files is not seen by any question to the hub, nor
by a diagnosis or an inspection.

The items of a wrapper are parts of it, and that is all that the inductions over packages need
(`Value.induction_on_items`).
-/

namespace ComplianceTriage

/-! ## What a package holds -/

/-- Whether a value is a wrapper around a list of objects: its kind ends in `List`. -/
def Value.Wraps (value : Value) : Prop :=
  ∃ kind, value.textAt? ["kind"] = some kind ∧ "List".toList <:+ kind.toList

/-- The items of a value. What is absent or no array has none. -/
def Value.items (value : Value) : List Value :=
  value.itemsAt ["items"]

mutual

/-- The objects that a value holds, from left to right. -/
inductive Value.Holds : Value → List Value → Prop where
  /-- What is no object holds nothing. -/
  | junk {value : Value} (junk : value.isObject = false) : Value.Holds value []
  /-- A wrapper holds what its items hold. -/
  | wrapper {value : Value} {objects : List Value} (wraps : value.Wraps)
      (items : AllHold value.items objects) : Value.Holds value objects
  /-- Any other object holds itself. -/
  | object {value : Value} (object : value.isObject = true) (plain : ¬ value.Wraps) :
      Value.Holds value [value]

/-- The objects that several values hold, one value after the other. -/
inductive AllHold : List Value → List Value → Prop where
  | nil : AllHold [] []
  | cons {value : Value} {values objects objects' : List Value} (first : value.Holds objects)
      (rest : AllHold values objects') : AllHold (value :: values) (objects ++ objects')

end

/-- The leaves of several values are those of each, one value after the other. -/
theorem listLeaves_eq_flatMap (values : List Value) :
    listLeaves values = values.flatMap Value.leaves := by
  induction values with
  | nil => rfl
  | cons value rest ih => rw [listLeaves, ih, List.flatMap_cons]

namespace Value

/-- An object that is not a wrapper. -/
structure IsPlain (value : Value) : Prop where
  isObject : value.isObject = true
  not_wraps : ¬ value.Wraps

/-- A path of one key leads to the field of this key. -/
theorem at?_singleton (value : Value) (key : String) : value.at? [key] = value.field? key := by
  simp [at?]

/-- The test of the fields finds the wrappers. -/
theorem wraps_object_iff (fields : Fields) :
    (Value.object fields).Wraps ↔ wrapsItems fields = true := by
  unfold Wraps textAt? wrapsItems
  rw [at?_singleton, field?]
  cases Fields.get? fields "kind" with
  | none => simp
  | some value => cases value <;> simp [text?]

/-- An object whose kind does not end in `List` is not a wrapper. -/
theorem isPlain_of_kind {fields : Fields} {kind : String}
    (hkind : Fields.get? fields "kind" = some (.string kind))
    (hlist : "List".toList.isSuffixOf kind.toList = false) : (Value.object fields).IsPlain := by
  refine ⟨rfl, ?_⟩
  rw [wraps_object_iff]
  unfold wrapsItems
  rw [hkind]
  exact Bool.eq_false_iff.1 hlist

/-- A wrapper is an object. -/
theorem Wraps.isObject {value : Value} (h : value.Wraps) : value.isObject = true := by
  obtain ⟨kind, hkind, -⟩ := h
  cases value with
  | object fields => rfl
  | _ => cases hkind

/-- An item is a part of its wrapper. -/
theorem sizeOf_lt_of_mem_items {value item : Value} (h : item ∈ value.items) :
    sizeOf item < sizeOf value := by
  unfold items itemsAt at h
  rw [at?_singleton] at h
  cases value with
  | object fields =>
    rw [field?] at h
    cases hfield : Fields.get? fields "items" with
    | none => simp [hfield] at h
    | some found =>
      rw [hfield] at h
      cases found with
      | array items =>
        have hitem : item ∈ items := h
        -- The item is a part of the array, and the array is a part of the field that is found
        -- first.
        obtain ⟨front, back, hfields, -⟩ := List.lookup_eq_some_iff.1 hfield
        have hmem : ("items", Value.array items) ∈ fields := by simp [hfields]
        have hsize := List.sizeOf_lt_of_mem hitem
        have hsize' := List.sizeOf_lt_of_mem hmem
        simp only [Prod.mk.sizeOf_spec, array.sizeOf_spec, object.sizeOf_spec] at hsize' ⊢
        omega
      | _ => cases h
  | _ => cases h

/-- What holds of a value whenever it holds of its items holds of all values. -/
theorem induction_on_items {motive : Value → Prop}
    (step : ∀ value, (∀ item ∈ value.items, motive item) → motive value) (value : Value) :
    motive value :=
  step value fun item _ => induction_on_items step item
termination_by sizeOf value
decreasing_by exact sizeOf_lt_of_mem_items ‹_›

/-! ## Leaves -/

/-- What is no object has no leaves. -/
theorem leaves_of_junk {value : Value} (h : value.isObject = false) : value.leaves = [] := by
  cases value with
  | object fields => cases h
  | _ => rfl

/-- An object that is not a wrapper is its only leaf. -/
theorem IsPlain.leaves_eq {value : Value} (h : value.IsPlain) : value.leaves = [value] := by
  obtain ⟨hobject, hplain⟩ := h
  cases value with
  | object fields =>
    rw [wraps_object_iff] at hplain
    rw [leaves, if_neg hplain]
  | _ => cases hobject

/-- The leaves of the items are found among the fields. -/
theorem itemLeaves_eq (fields : Fields) :
    itemLeaves fields = listLeaves (Value.object fields).items := by
  unfold items itemsAt
  rw [at?_singleton, field?]
  induction fields with
  | nil => rfl
  | cons field rest ih =>
    obtain ⟨key, value⟩ := field
    rw [itemLeaves, Fields.get?, List.lookup_cons]
    -- Both look for the first field of this key, and only an array there has items.
    by_cases hkey : key = "items"
    · rw [if_pos hkey, beq_iff_eq.2 hkey.symm]
      cases value <;> rfl
    · rw [if_neg hkey, beq_eq_false_iff_ne.2 (Ne.symm hkey)]
      exact ih

/-- The leaves of a wrapper are those of its items. -/
theorem Wraps.leaves_eq {value : Value} (h : value.Wraps) :
    value.leaves = listLeaves value.items := by
  cases value with
  | object fields =>
    rw [wraps_object_iff] at h
    rw [leaves, if_pos h, itemLeaves_eq]
  | _ => cases h.isObject

/-- What a value holds are its leaves. -/
theorem Holds.eq_leaves {value : Value} {objects : List Value} (h : value.Holds objects) :
    objects = value.leaves := by
  -- On what values hold and on what lists of values hold, together.
  induction h using Value.Holds.rec
    (motive_2 := fun values objects _ => objects = listLeaves values) with
  | junk hjunk => rw [leaves_of_junk hjunk]
  | wrapper hwraps _ ih => rw [hwraps.leaves_eq, ih]
  | object hobject hplain => rw [IsPlain.leaves_eq ⟨hobject, hplain⟩]
  | nil => rfl
  | cons _ _ ihfirst ihrest => rw [listLeaves, ihfirst, ihrest]

/-- What a value holds is not wrapped any more. -/
theorem Holds.isPlain {value : Value} {objects : List Value} (h : value.Holds objects) :
    ∀ object ∈ objects, object.IsPlain := by
  induction h using Value.Holds.rec
    (motive_2 := fun _ objects _ => ∀ object ∈ objects, object.IsPlain) with
  | junk hjunk =>
    intro object hobject
    cases hobject
  | wrapper hwraps _ ih => exact ih
  | object hobject hplain => exact List.forall_mem_singleton.2 ⟨hobject, hplain⟩
  | nil object hobject => cases hobject
  | cons _ _ ihfirst ihrest object hobject =>
    exact (List.mem_append.1 hobject).elim (ihfirst object) (ihrest object)

end Value

/-- If every value holds its leaves, they all hold all leaves. -/
theorem allHold_of_forall {values : List Value} (h : ∀ value ∈ values, value.Holds value.leaves) :
    AllHold values (listLeaves values) := by
  induction values with
  | nil => exact .nil
  | cons value rest ih =>
    obtain ⟨hfirst, hrest⟩ := List.forall_mem_cons.1 h
    exact .cons hfirst (ih hrest)

/-- A value holds its leaves. -/
theorem Value.holds_leaves (value : Value) : value.Holds value.leaves := by
  induction value using induction_on_items with
  | step value ih =>
    -- A wrapper holds what its items hold, and these are smaller; the rest is decided at once.
    by_cases hwraps : value.Wraps
    · rw [hwraps.leaves_eq]
      exact .wrapper hwraps (allHold_of_forall ih)
    · cases hobject : value.isObject with
      | false =>
        rw [leaves_of_junk hobject]
        exact .junk hobject
      | true =>
        rw [IsPlain.leaves_eq ⟨hobject, hwraps⟩]
        exact .object hobject hwraps

/-- What several values hold are their leaves, and nothing else. -/
theorem allHold_iff {values objects : List Value} :
    AllHold values objects ↔ objects = listLeaves values := by
  constructor
  · intro h
    induction values generalizing objects with
    | nil => cases h; rfl
    | cons value rest ih =>
      cases h with
      | cons hfirst hrest => rw [listLeaves, hfirst.eq_leaves, ih hrest]
  · rintro rfl
    exact allHold_of_forall fun value _ => value.holds_leaves

/-- Objects that are not wrapped are their own leaves. -/
theorem listLeaves_of_plain {objects : List Value} (h : ∀ object ∈ objects, object.IsPlain) :
    listLeaves objects = objects := by
  induction objects with
  | nil => rfl
  | cons object rest ih =>
    obtain ⟨hfirst, hrest⟩ := List.forall_mem_cons.1 h
    rw [listLeaves, hfirst.leaves_eq, ih hrest]
    rfl

/-! ## Repacking -/

/-- Values that come from others by putting some of them into a wrapper, or by taking them out of
one, at any depth. -/
inductive Repacked : List Value → List Value → Prop where
  | refl (values : List Value) : Repacked values values
  | symm {values values' : List Value} (h : Repacked values values') : Repacked values' values
  | trans {values values' values'' : List Value} (first : Repacked values values')
      (second : Repacked values' values'') : Repacked values values''
  /-- A run of values is put into a wrapper. -/
  | wrap (front run back : List Value) {wrapper : Value} (wraps : wrapper.Wraps)
      (items_eq : wrapper.items = run) :
      Repacked (front ++ run ++ back) (front ++ [wrapper] ++ back)
  /-- The items of a wrapper are repacked. -/
  | inside (front back : List Value) {wrapper wrapper' : Value} (wraps : wrapper.Wraps)
      (wraps' : wrapper'.Wraps) (items : Repacked wrapper.items wrapper'.items) :
      Repacked (front ++ [wrapper] ++ back) (front ++ [wrapper'] ++ back)

/-- The leaves of one value are its own. -/
theorem listLeaves_singleton (value : Value) : listLeaves [value] = value.leaves :=
  List.append_nil _

/-- The leaves of two runs of values are those of each. -/
theorem listLeaves_append (values values' : List Value) :
    listLeaves (values ++ values') = listLeaves values ++ listLeaves values' := by
  simp only [listLeaves_eq_flatMap, List.flatMap_append]

/-- Repacking keeps the leaves. -/
theorem Repacked.listLeaves_eq {values values' : List Value} (h : Repacked values values') :
    listLeaves values = listLeaves values' := by
  induction h with
  | refl values => rfl
  | symm _ ih => exact ih.symm
  | trans _ _ ih ih' => exact ih.trans ih'
  -- A wrapper has the leaves of its items, at whatever depth it stands.
  | wrap front run back hwraps hitems =>
    simp only [listLeaves_append, listLeaves_singleton, hwraps.leaves_eq, hitems]
  | inside front back hwraps hwraps' _ ih =>
    simp only [listLeaves_append, listLeaves_singleton, hwraps.leaves_eq, hwraps'.leaves_eq, ih]

/-! ## Hubs -/

namespace Store

/-- Two hubs of which every question and every request gets the same answer. -/
structure SameAnswers (hub hub' : Store) : Prop where
  get_eq : ∀ type name ns, hub.access.get type name ns = hub'.access.get type name ns
  list_eq : ∀ type ns?, hub.access.list type ns? = hub'.access.list type ns?
  diagnose_eq : ∀ conditions settings request,
    diagnose hub.access conditions settings request =
      diagnose hub'.access conditions settings request
  inspect_eq : ∀ conditions settings request,
    inspect hub.access conditions settings request =
      inspect hub'.access conditions settings request

/-- A hub answers as itself. -/
theorem SameAnswers.refl (hub : Store) : hub.SameAnswers hub where
  get_eq _ _ _ := rfl
  list_eq _ _ := rfl
  diagnose_eq _ _ _ := rfl
  inspect_eq _ _ _ := rfl

/-- The objects of a hub are the leaves of what it was made of. -/
theorem objects_ofValues (values : List Value) :
    (ofValues values).objects = listLeaves values := by
  rw [ofValues, objects_insertAll]
  rfl

/-- Values with the same leaves make the same hub. -/
theorem ofValues_congr {values values' : List Value} (h : listLeaves values = listLeaves values') :
    ofValues values = ofValues values' := by
  rw [← objects_ofValues, ← objects_ofValues] at h
  exact congrArg Store.mk h

/-- Values may be put into a hub in two runs. -/
theorem insertAll_append (hub : Store) (values values' : List Value) :
    hub.insertAll (values ++ values') = (hub.insertAll values).insertAll values' := by
  induction values generalizing hub with
  | nil => rfl
  | cons value rest ih => exact ih (hub.insert value)

end Store

/-! ## Files -/

namespace Store

/-- The hub of some files, for any way to read the documents of a file. -/
def ofFiles (read : FileText → Except Failure (List Value)) (files : List FileText) :
    Except Failure Store :=
  files.foldlM (fun hub file => (read file).map hub.insertAll) empty

section

variable (read : FileText → Except Failure (List Value))

/-- Files add their documents to a hub, one file after the other. -/
theorem foldlM_insertAll (hub : Store) (files : List FileText) :
    files.foldlM (fun hub file => (read file).map hub.insertAll) hub =
      (files.mapM read).map fun documents => hub.insertAll documents.flatten := by
  -- Every file meets a larger hub, and the first fault ends both sides.
  induction files generalizing hub with
  | nil => rfl
  | cons file files ih =>
    rw [List.foldlM_cons, List.mapM_cons]
    cases read file with
    | error failure => rfl
    | ok documents =>
      show files.foldlM (fun hub file => (read file).map hub.insertAll)
        (hub.insertAll documents) = _
      rw [ih]
      cases files.mapM read with
      | error failure => rfl
      | ok rest =>
        show Except.ok _ = Except.ok (hub.insertAll (documents :: rest).flatten)
        rw [List.flatten_cons, insertAll_append]

/-- The hub of some files is that of their documents. -/
theorem ofFiles_eq (files : List FileText) :
    ofFiles read files =
      (files.mapM read).map fun documents => ofValues documents.flatten :=
  foldlM_insertAll read empty files

/-- Files that can be read make the hub of their documents. -/
theorem ofFiles_eq_ok {files : List FileText} {documents : List (List Value)}
    (h : files.mapM read = .ok documents) :
    ofFiles read files = .ok (ofValues documents.flatten) := by
  rw [ofFiles_eq, h]
  rfl

end

end Store

/-- The documents of a file of manifests, unless it has a fault. -/
def documentsOf : FileText → Except Failure (List Value)
  | .error cause => .error (.file cause)
  | .ok text =>
    match (Manifest.Values.ofText text.toList).fault with
    | none => .ok (Manifest.Values.ofText text.toList).values
    | some fault => .error (.manifest fault.message)

namespace Store

/-- A file of manifests adds its documents to a hub. -/
theorem loaded_eq (hub : Store) (file : FileText) :
    hub.loaded file = (documentsOf file).map hub.insertAll := by
  unfold loaded load documentsOf
  cases file with
  | error cause => rfl
  | ok text =>
    dsimp only
    cases (Manifest.Values.ofText text.toList).fault <;> rfl

/-- A hub of manifests is one of files that are read in this way. -/
theorem ofManifests_eq (files : List FileText) :
    ofManifests files = ofFiles documentsOf files := by
  have hloaded : loaded = fun hub file => (documentsOf file).map hub.insertAll :=
    funext fun hub => funext fun file => hub.loaded_eq file
  rw [ofManifests, ofFiles, hloaded]

end Store

/-- What a hub answers depends on the leaves of what it is made of, and on nothing of their
packages. It stores the objects that the values hold, none of which is a wrapper; to store these
again changes nothing; and neither does repacking them, or distributing their documents over other
files, in whatever way the documents of a file are read. -/
theorem packaging_immaterial :
    (∀ values objects, AllHold values objects ↔ objects = (Store.ofValues values).objects) ∧
      (∀ values, ∀ object ∈ (Store.ofValues values).objects, ¬ object.Wraps) ∧
      (∀ values, Store.ofValues (Store.ofValues values).objects = Store.ofValues values) ∧
      (∀ values values', Repacked values values' →
        (Store.ofValues values).SameAnswers (Store.ofValues values')) ∧
      (∀ read files files' documents documents', files.mapM read = .ok documents →
        files'.mapM read = .ok documents' →
        Repacked documents.flatten documents'.flatten →
          ∃ hub hub', Store.ofFiles read files = .ok hub ∧ Store.ofFiles read files' = .ok hub' ∧
            hub.SameAnswers hub') ∧
      (∀ files files' documents documents', files.mapM documentsOf = .ok documents →
        files'.mapM documentsOf = .ok documents' →
        Repacked documents.flatten documents'.flatten →
          ∃ hub hub', Store.ofManifests files = .ok hub ∧ Store.ofManifests files' = .ok hub' ∧
            hub.SameAnswers hub') := by
  have hplain : ∀ values, ∀ object ∈ (Store.ofValues values).objects, object.IsPlain := by
    intro values object hobject
    rw [Store.objects_ofValues, listLeaves_eq_flatMap] at hobject
    obtain ⟨value, -, hleaf⟩ := List.mem_flatMap.1 hobject
    exact value.holds_leaves.isPlain object hleaf
  have hrepacked : ∀ values values', Repacked values values' →
      (Store.ofValues values).SameAnswers (Store.ofValues values') := by
    intro values values' h
    rw [Store.ofValues_congr h.listLeaves_eq]
    exact .refl _
  refine ⟨fun values objects => ?_, fun values object hobject => (hplain values object hobject).2,
    fun values => ?_, hrepacked, fun read files files' documents documents' hfiles hfiles' h => ?_,
    fun files files' documents documents' hfiles hfiles' h => ?_⟩
  · rw [Store.objects_ofValues]
    exact allHold_iff
  -- What is stored is not wrapped, and so it is stored as it is.
  · refine Store.ofValues_congr ?_
    rw [listLeaves_of_plain (hplain values), Store.objects_ofValues]
  · exact ⟨_, _, Store.ofFiles_eq_ok read hfiles, Store.ofFiles_eq_ok read hfiles', hrepacked _ _ h⟩
  -- Manifests are read in one of these ways.
  · rw [Store.ofManifests_eq, Store.ofManifests_eq]
    exact ⟨_, _, Store.ofFiles_eq_ok documentsOf hfiles, Store.ofFiles_eq_ok documentsOf hfiles',
      hrepacked _ _ h⟩

namespace Sample

/-- A policy as it is exported, with the fields of its content. -/
def exported (name ns : String) (content : Fields) : Value :=
  .object
    ([("apiVersion", .string "policy.open-cluster-management.io/v1"), ("kind", .string "Policy"),
      ("metadata", .object [("name", .string name), ("namespace", .string ns)])] ++ content)

/-- An exported policy is not a wrapper, whatever its content. -/
theorem isPlain_exported (name ns : String) (content : Fields) :
    (exported name ns content).IsPlain :=
  Value.isPlain_of_kind rfl (by decide)

/-- What a hub exports: a policy, its copy, and something that is no object. -/
def exports : List Value :=
  [exported "drift" "hub" [], exported "hub.drift" "east" [], .null]

/-- The same with the copy and the junk in a list. -/
def listed : List Value :=
  [exported "drift" "hub" [],
    .object [("kind", .string "List"), ("items", .array [exported "hub.drift" "east" [], .null])]]

/-- A list of it all. -/
def bundle : Value :=
  .object [("kind", .string "PolicyList"), ("items", .array listed)]

/-- A file of two documents holds an empty object and an empty array. -/
theorem documentsOf_together : documentsOf (.ok "{}\n---\n[]") = .ok [.object [], .array []] := by
  have hread : Manifest.Documents.ofText "{}\n---\n[]".toList =
      ⟨[⟨.mapping none [], .none⟩, ⟨.sequence none [], .none⟩], none⟩ := rfl
  simp only [documentsOf, Manifest.Values.ofText, hread, Manifest.Values.ofDocuments,
    Manifest.Document.value_mapping_nil, Manifest.Document.value_sequence_nil]

/-- So do two files of one document each. -/
theorem documentsOf_apart :
    documentsOf (.ok "{}") = .ok [.object []] ∧ documentsOf (.ok "[]") = .ok [.array []] := by
  have hobject : Manifest.Documents.ofText "{}".toList =
      ⟨[⟨.mapping none [], .none⟩], none⟩ := rfl
  have harray : Manifest.Documents.ofText "[]".toList =
      ⟨[⟨.sequence none [], .none⟩], none⟩ := rfl
  simp only [documentsOf, Manifest.Values.ofText, hobject, harray, Manifest.Values.ofDocuments,
    Manifest.Document.value_mapping_nil, Manifest.Document.value_sequence_nil, and_self]

end Sample

/-- What a hub exports makes the same hub by itself as in nested lists, and two documents make the
same hub in one file as in two. -/
theorem packaging_immaterial_bundle :
    Repacked Sample.exports [Sample.bundle] ∧
      (Store.ofValues Sample.exports).SameAnswers (Store.ofValues [Sample.bundle]) ∧
      [(.ok "{}\n---\n[]" : FileText)].mapM documentsOf = .ok [[.object [], .array []]] ∧
      [(.ok "{}" : FileText), .ok "[]"].mapM documentsOf = .ok [[.object []], [.array []]] ∧
      ∃ hub hub', Store.ofManifests [.ok "{}\n---\n[]"] = .ok hub ∧
        Store.ofManifests [.ok "{}", .ok "[]"] = .ok hub' ∧ hub.SameAnswers hub' := by
  obtain ⟨-, -, -, hvalues, -, hfiles⟩ := packaging_immaterial
  -- First the copy and the junk are put into a list, and then all of it into another.
  have hlisted : Repacked Sample.exports Sample.listed :=
    .wrap [Sample.exported "drift" "hub" []] [Sample.exported "hub.drift" "east" [], .null] []
      ⟨"List", rfl, by decide⟩ rfl
  have hbundle : Repacked Sample.exports [Sample.bundle] :=
    hlisted.trans (.wrap [] Sample.listed [] ⟨"PolicyList", rfl, by decide⟩ rfl)
  have hone : [(.ok "{}\n---\n[]" : FileText)].mapM documentsOf =
      .ok [[.object [], .array []]] := by
    rw [List.mapM_cons, Sample.documentsOf_together]
    rfl
  have htwo : [(.ok "{}" : FileText), .ok "[]"].mapM documentsOf =
      .ok [[.object []], [.array []]] := by
    rw [List.mapM_cons, List.mapM_cons, Sample.documentsOf_apart.1, Sample.documentsOf_apart.2]
    rfl
  exact ⟨hbundle, hvalues _ _ hbundle, hone, htwo, hfiles _ _ _ _ hone htwo (.refl _)⟩

end ComplianceTriage
