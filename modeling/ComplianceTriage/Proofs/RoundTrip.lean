import ComplianceTriage.Proofs.Survey
import ComplianceTriage.Report.Encoding

/-!
# Reports survive as trees

A report is written as a tree and read back by others. Fields that are not known vanish from it, a
field that is null reads as one that is missing, and unknown fields are passed over. So a tree is
not always written as it came. But what was read from a tree is written in a form that is read as
the same report and written as itself (`Settles`), and a report that was made here is read back as
it was, but for one case: a resource that is wanted, and is null (`Diagnosis.IsWritable`).

A diagnosis never holds such a resource, since the desired state of a policy holds nothing but
objects (`DesiredState.holdsObjects_ofPolicy`). `reports_survive` puts all this together.

Each record is read back by the same steps: `read_toValue` says what its fields read, and each kind
of field has one lemma on how it is decoded.
-/

namespace ComplianceTriage

/-! ## Fields -/

/-- Where there are no fields, none is found. -/
theorem Fields.get?_nil (name : String) : Fields.get? [] name = none := rfl

/-- The first field of a name is the one that counts. -/
theorem Fields.get?_cons (key : String) (value : Value) (rest : Fields) (name : String) :
    Fields.get? ((key, value) :: rest) name =
      if name = key then some value else Fields.get? rest name := by
  unfold Fields.get?
  rw [List.lookup_cons]
  by_cases h : name = key
  · simp [h]
  · have hne : (name == key) = false := by simpa using h
    rw [hne, if_neg h]

/-- A field is looked for in the front, and then in the back. -/
theorem Fields.get?_append (front back : Fields) (name : String) :
    Fields.get? (front ++ back) name = (Fields.get? front name).or (Fields.get? back name) :=
  List.lookup_append

/-- A field that is left out where it is not known reads as what is known. -/
theorem Encoding.get?_optional (key : String) (value? : Option Value) (name : String) :
    Fields.get? (optional key value?) name = if name = key then value? else none := by
  cases value? with
  | none => simp [optional, Fields.get?]
  | some value => exact Fields.get?_cons key value [] name

/-- A text that may be absent is written under its own key only. -/
theorem Encoding.get?_optionalText (key : String) (text? : Option String) (name : String) :
    Fields.get? (optionalText key text?) name = if name = key then text?.map .string else none :=
  get?_optional key (text?.map .string) name

namespace Decoding

variable {read : String → Option Value} {name : String}

/-- A text that was written is read. -/
theorem text_eq {s : String} (h : read name = some (.string s)) : text read name = some s := by
  unfold text
  rw [h]
  rfl

/-- A text that may be absent is read as it was written. -/
theorem optionalText_eq {text? : Option String} (h : read name = text?.map .string) :
    optionalText read name = some text? := by
  unfold optionalText
  rw [h]
  cases text? <;> rfl

/-- A value that may be absent is read as it was written, unless it is null. -/
theorem optionalValue_eq {value? : Option Value} (h : read name = value?)
    (hnull : value? ≠ some .null) : optionalValue read name = value? := by
  unfold optionalValue
  rw [h]
  split
  · contradiction
  · rfl

/-- A tree that may be null is never read as null. -/
theorem optionalValue_ne_null (read : String → Option Value) (name : String) :
    optionalValue read name ≠ some .null := by
  unfold optionalValue
  split
  · exact nofun
  · assumption

section

variable {α : Type} {one : Value → Option α} {write : α → Value}

/-- Where each item is read as it was written, all are. -/
theorem all_map {as : List α} (h : ∀ a ∈ as, one (write a) = some a) :
    all one (as.map write) = some as := by
  induction as with
  | nil => rfl
  | cons a as ih =>
    have ha := h a List.mem_cons_self
    have has := ih fun b hb => h b (List.mem_cons_of_mem a hb)
    rw [List.map_cons, all, ha, has]
    rfl

/-- A list is read back as it was if each of its items is. -/
theorem list_eq {as : List α} (h : read name = some (.array (as.map write)))
    (hone : ∀ a ∈ as, one (write a) = some a) : list one read name = some as := by
  unfold list
  rw [h]
  exact all_map hone

/-- What was read from a list was read from one of its items. -/
theorem exists_of_mem_all {items : List Value} {as : List α} (h : all one items = some as) {a : α}
    (ha : a ∈ as) : ∃ item, one item = some a := by
  -- A list is read item by item, so that the n-th report comes from the n-th tree.
  induction items generalizing as with
  | nil =>
    cases h
    cases ha
  | cons item items ih =>
    rw [all, Option.bind_eq_some_iff] at h
    obtain ⟨first, hfirst, h⟩ := h
    obtain ⟨rest, hrest, rfl⟩ := Option.map_eq_some_iff.1 h
    rcases List.mem_cons.1 ha with rfl | hmem
    · exact ⟨item, hfirst⟩
    · exact ih hrest hmem

/-- What a list is read to have was read from a tree. -/
theorem exists_of_mem_list {as : List α} (h : list one read name = some as) {a : α}
    (ha : a ∈ as) : ∃ item, one item = some a := by
  unfold list at h
  split at h
  · cases h
    cases ha
  · exact exists_of_mem_all h ha
  · cases h

end

end Decoding

/-! ## Reading what was written -/

/-- A verdict is read as it was written. -/
theorem Verdict.ofValue?_toValue (verdict : Verdict) : ofValue? verdict.toValue = some verdict :=
  ofLabel?_label verdict

/-- A call is read as it was written. -/
theorem ToolCall.ofValue?_toValue (call : ToolCall) : ofValue? call.toValue = some call := by
  simp [ofValue?, toValue, Decoding.fieldReader?, Decoding.text, Fields.get?_cons, Value.text?,
    Value.fields?]

/-- The state of a cluster is read as it was written. -/
theorem ClusterState.ofValue?_toValue (state : ClusterState) :
    ofValue? state.toValue = some state := by
  simp [ofValue?, toValue, Decoding.fieldReader?, Decoding.text, Fields.get?_cons, Value.text?]

/-- A template is read as it was written. -/
theorem Template.ofValue?_toValue (template : Template) :
    ofValue? template.toValue = some template := by
  simp [ofValue?, toValue, Decoding.fieldReader?, Decoding.text, Fields.get?_cons, Value.text?]

namespace Violation

/-- A violation that is read back as it was: nothing is wanted, or something that is not null. -/
def IsWritable (v : Violation) : Prop :=
  v.desired ≠ some .null

/-- What the fields of a written violation read. -/
theorem read_toValue (v : Violation) :
    ∃ read, Decoding.fieldReader? fieldNames v.toValue = some read ∧
      read "violation_type" = some v.verdict.toValue ∧
      read "template_name" = some (.string v.template) ∧
      read "resource_kind" = v.resourceKind.map .string ∧
      read "resource_name" = v.resourceName.map .string ∧
      read "resource_namespace" = v.resourceNs.map .string ∧
      read "message" = some (.string v.message) ∧
      read "desired_state" = v.desired ∧
      read "suggested_tool_call" = v.call.map ToolCall.toValue := by
  refine ⟨_, rfl, ?_⟩
  simp [Fields.get?_append, Fields.get?_cons, Encoding.get?_optional, Encoding.get?_optionalText]

/-- A call that may be absent is read as it was written. -/
theorem callOf?_eq {read : String → Option Value} {call? : Option ToolCall}
    (h : read "suggested_tool_call" = call?.map ToolCall.toValue) : callOf? read = some call? := by
  -- A call is written as an object, which a reader does not take for a call that is missing.
  have hnull : call?.map ToolCall.toValue ≠ some .null := by
    cases call? with
    | none => exact nofun
    | some call => exact nofun
  unfold callOf?
  rw [Decoding.optionalValue_eq h hnull]
  cases call? with
  | none => rfl
  | some call => simp [ToolCall.ofValue?_toValue]

/-- A violation that can be written is read as it was written. -/
theorem ofValue?_toValue {v : Violation} (h : v.IsWritable) : ofValue? v.toValue = some v := by
  obtain ⟨read, hread, hverdict, htemplate, hkind, hname, hns, hmessage, hdesired, hcall⟩ :=
    v.read_toValue
  unfold ofValue?
  rw [hread]
  simp only [Option.bind_eq_bind, Option.bind_some, hverdict, Verdict.ofValue?_toValue,
    Decoding.text_eq htemplate, Decoding.optionalText_eq hkind, Decoding.optionalText_eq hname,
    Decoding.optionalText_eq hns, Decoding.text_eq hmessage, Decoding.optionalValue_eq hdesired h,
    callOf?_eq hcall]
  rfl

/-- What is read from a tree is writable. -/
theorem isWritable_of_ofValue? {value : Value} {v : Violation} (h : ofValue? value = some v) :
    v.IsWritable := by
  simp only [ofValue?, Option.bind_eq_bind, Option.bind_eq_some_iff, Option.pure_def,
    Option.some.injEq] at h
  obtain ⟨read, -, _, -, _, -, _, -, _, -, _, -, _, -, _, -, rfl⟩ := h
  exact Decoding.optionalValue_ne_null read "desired_state"

end Violation

namespace ClusterDiagnosis

/-- A cluster's diagnosis of which all violations are read back as they were. -/
def IsWritable (c : ClusterDiagnosis) : Prop :=
  ∀ v ∈ c.issues, v.IsWritable

/-- The fields that a written cluster has. -/
theorem read_toValue (c : ClusterDiagnosis) :
    ∃ read, Decoding.fieldReader? fieldNames c.toValue = some read ∧
      read "cluster_name" = some (.string c.cluster) ∧
      read "compliance_state" = some (.string c.state) ∧
      read "issues" = some (.array (c.issues.map Violation.toValue)) := by
  refine ⟨_, rfl, ?_⟩
  simp [Fields.get?_cons]

/-- A cluster whose violations can be written is read as it was written. -/
theorem ofValue?_toValue {c : ClusterDiagnosis} (h : c.IsWritable) :
    ofValue? c.toValue = some c := by
  obtain ⟨read, hread, hcluster, hstate, hissues⟩ := c.read_toValue
  unfold ofValue?
  rw [hread]
  simp only [Option.bind_eq_bind, Option.bind_some, Decoding.text_eq hcluster,
    Decoding.text_eq hstate,
    Decoding.list_eq hissues fun v hv => Violation.ofValue?_toValue (h v hv)]
  rfl

/-- What was read as a cluster can be written. -/
theorem isWritable_of_ofValue? {value : Value} {c : ClusterDiagnosis}
    (h : ofValue? value = some c) : c.IsWritable := by
  simp only [ofValue?, Option.bind_eq_bind, Option.bind_eq_some_iff, Option.pure_def,
    Option.some.injEq] at h
  obtain ⟨read, -, _, -, _, -, issues, hissues, rfl⟩ := h
  intro v hv
  obtain ⟨item, hitem⟩ := Decoding.exists_of_mem_list hissues hv
  exact Violation.isWritable_of_ofValue? hitem

end ClusterDiagnosis

namespace Diagnosis

/-- A diagnosis that is read back as it was: no resource that it shows as wanted is null. -/
def IsWritable (d : Diagnosis) : Prop :=
  ∀ c ∈ d.clusters, c.IsWritable

/-- The fields that a written diagnosis has. -/
theorem read_toValue (d : Diagnosis) :
    ∃ read, Decoding.fieldReader? fieldNames d.toValue = some read ∧
      read "policy_name" = some (.string d.policy) ∧
      read "namespace" = some (.string d.ns) ∧
      read "compliance_state" = some (.string d.state) ∧
      read "clusters" = some (.array (d.clusters.map ClusterDiagnosis.toValue)) ∧
      read "summary" = some (.string d.summary) := by
  refine ⟨_, rfl, ?_⟩
  simp [Fields.get?_cons]

/-- What was read as a diagnosis can be written. -/
theorem isWritable_of_ofValue? {value : Value} {d : Diagnosis} (h : ofValue? value = some d) :
    d.IsWritable := by
  simp only [ofValue?, Option.bind_eq_bind, Option.bind_eq_some_iff, Option.pure_def,
    Option.some.injEq] at h
  obtain ⟨read, -, _, -, _, -, _, -, clusters, hclusters, _, -, rfl⟩ := h
  intro c hc
  obtain ⟨item, hitem⟩ := Decoding.exists_of_mem_list hclusters hc
  exact ClusterDiagnosis.isWritable_of_ofValue? hitem

/-- The writable diagnoses are those that are read back as they were. -/
theorem ofValue?_toValue_iff {d : Diagnosis} :
    ofValue? d.toValue = some d ↔ d.IsWritable := by
  refine ⟨isWritable_of_ofValue?, fun h => ?_⟩
  obtain ⟨read, hread, hpolicy, hns, hstate, hclusters, hsummary⟩ := d.read_toValue
  unfold ofValue?
  rw [hread]
  simp only [Option.bind_eq_bind, Option.bind_some, Decoding.text_eq hpolicy,
    Decoding.text_eq hns, Decoding.text_eq hstate, Decoding.text_eq hsummary,
    Decoding.list_eq hclusters fun c hc => ClusterDiagnosis.ofValue?_toValue (h c hc)]
  rfl

end Diagnosis

namespace Finding

/-- The fields that a written finding has. -/
theorem read_toValue (f : Finding) :
    ∃ read, Decoding.fieldReader? fieldNames f.toValue = some read ∧
      read "template_name" = some (.string f.template) ∧
      read "cluster_name" = f.cluster.map .string ∧
      read "violation_type" = some f.verdict.toValue ∧
      read "resource_kind" = f.resourceKind.map .string ∧
      read "resource_name" = f.resourceName.map .string ∧
      read "namespace" = f.resourceNs.map .string ∧
      read "message" = some (.string f.message) := by
  refine ⟨_, rfl, ?_⟩
  simp [Fields.get?_append, Fields.get?_cons, Fields.get?_nil, Encoding.get?_optionalText]

/-- A finding is read as it was written. -/
theorem ofValue?_toValue (f : Finding) : ofValue? f.toValue = some f := by
  obtain ⟨read, hread, htemplate, hcluster, hverdict, hkind, hname, hns, hmessage⟩ :=
    f.read_toValue
  unfold ofValue?
  rw [hread]
  simp only [Option.bind_eq_bind, Option.bind_some, hverdict, Verdict.ofValue?_toValue,
    Decoding.text_eq htemplate, Decoding.optionalText_eq hcluster, Decoding.optionalText_eq hkind,
    Decoding.optionalText_eq hname, Decoding.optionalText_eq hns, Decoding.text_eq hmessage]
  rfl

end Finding

namespace Inspection

/-- The fields that a written inspection has. -/
theorem read_toValue (i : Inspection) :
    ∃ read, Decoding.fieldReader? fieldNames i.toValue = some read ∧
      read "policy_name" = some (.string i.policy) ∧
      read "namespace" = some (.string i.ns) ∧
      read "compliance_state" = some (.string i.state) ∧
      read "affected_clusters" = some (.array (i.affected.map ClusterState.toValue)) ∧
      read "templates" = some (.array (i.templates.map Template.toValue)) ∧
      read "violations" = some (.array (i.violations.map Finding.toValue)) ∧
      read "next_step" = i.nextStep.map .string := by
  refine ⟨_, rfl, ?_⟩
  simp [Fields.get?_cons, Encoding.get?_optionalText]

/-- An inspection is read as it was written. -/
theorem ofValue?_toValue (i : Inspection) : ofValue? i.toValue = some i := by
  obtain ⟨read, hread, hpolicy, hns, hstate, haffected, htemplates, hviolations, hnextStep⟩ :=
    i.read_toValue
  unfold ofValue?
  rw [hread]
  simp only [Option.bind_eq_bind, Option.bind_some, Decoding.text_eq hpolicy,
    Decoding.text_eq hns, Decoding.text_eq hstate,
    Decoding.list_eq haffected fun state _ => ClusterState.ofValue?_toValue state,
    Decoding.list_eq htemplates fun template _ => Template.ofValue?_toValue template,
    Decoding.list_eq hviolations fun finding _ => Finding.ofValue?_toValue finding,
    Decoding.optionalText_eq hnextStep]
  rfl

end Inspection

/-! ## What is wanted is an object -/

namespace DesiredState

/-- Everything that is wanted is an object. -/
def HoldsObjects (state : DesiredState) : Prop :=
  ∀ key value, (key, value) ∈ state.entries → value.isObject = true

/-- An object may be inserted where only objects are held. -/
theorem HoldsObjects.insert {state : DesiredState} (h : state.HoldsObjects) {key : Key}
    {value : Value} (hvalue : value.isObject = true) : (state.insert key value).HoldsObjects := by
  intro other value' hmem
  rcases mem_insertEntry hmem with ⟨-, rfl⟩ | hmem
  · exact hvalue
  · exact h other value' hmem

/-- What a template wants is an object. -/
theorem isObject_of_mem_wantedBy {template resource : Value} (h : resource ∈ wantedBy template) :
    resource.isObject = true := by
  obtain ⟨entry, -, hentry⟩ := List.mem_filterMap.1 h
  exact (Option.filter_eq_some_iff.1 hentry).2

/-- A template adds only objects. -/
theorem HoldsObjects.addTemplate {state : DesiredState} (h : state.HoldsObjects)
    (template : Value) : (state.addTemplate template).HoldsObjects := by
  unfold DesiredState.addTemplate
  refine List.foldlRecOn (wantedBy template) _ h fun state hstate resource hresource => ?_
  exact hstate.insert (isObject_of_mem_wantedBy hresource)

/-- The desired state of a policy holds nothing but objects. -/
theorem holdsObjects_ofPolicy (policy : Value) : (ofPolicy policy).HoldsObjects := by
  unfold ofPolicy
  -- Both loops, over the templates and over what each of them wants, only insert objects.
  refine List.foldlRecOn (templatesOf policy) _ ?_ fun state hstate template _ => ?_
  · exact fun key value hmem => absurd hmem List.not_mem_nil
  · exact hstate.addTemplate template

/-- What a message is paired with is an entry. -/
theorem exists_entry_of_find? {state : DesiredState} {template kind name : String} {value : Value}
    {tier : Tier} (h : state.find? template kind name = some (value, tier)) :
    ∃ key, (key, value) ∈ state.entries := by
  -- All three tiers choose among the entries: the exact key, the alike ones, the only one of a
  -- template.
  unfold find? at h
  split at h
  · next key _ hfound =>
    cases h
    exact ⟨key, List.mem_of_find?_eq_some hfound⟩
  · split at h
    · next key _ hfound =>
      cases h
      exact ⟨key, List.mem_of_find?_eq_some hfound⟩
    · split at h
      · next key _ hsole =>
        cases h
        have hmem : (key, value) ∈ state.ofTemplate template := by
          rw [hsole]
          exact List.mem_singleton_self _
        exact ⟨key, (List.mem_filter.1 hmem).1⟩
      · cases h

end DesiredState

namespace Violation

variable {wanted : DesiredState}

/-- The violation of a message can be written where only objects are wanted. -/
theorem isWritable_ofMessage (h : wanted.HoldsObjects) (template message cluster : String)
    (settings : Settings) : (ofMessage template message cluster wanted settings).IsWritable := by
  -- What is shown as wanted was found under some key, and is an object.
  intro hnull
  obtain ⟨⟨value, tier⟩, hfound, rfl⟩ := Option.map_eq_some_iff.1 hnull
  obtain ⟨key, hmem⟩ := DesiredState.exists_entry_of_find? hfound
  exact absurd (h key _ hmem) Bool.false_ne_true

/-- So can all violations of a policy. -/
theorem isWritable_ofPolicy (h : wanted.HoldsObjects) (policy : Value) (cluster : String)
    (settings : Settings) : ∀ v ∈ ofPolicy policy cluster wanted settings, v.IsWritable := by
  intro v hv
  obtain ⟨detail, -, rfl⟩ := List.mem_map.1 hv
  exact isWritable_ofMessage h detail.template detail.message cluster settings

end Violation

namespace Diagnosis

/-- So can what comes of the answer to a fetch. -/
theorem isWritable_ofAnswer {wanted : DesiredState} (h : wanted.HoldsObjects) (copy : String)
    (settings : Settings) (cluster : ClusterState) (answer : Except AccessError Value) :
    (ofAnswer copy wanted settings cluster answer).IsWritable := by
  cases answer with
  | ok policy => exact Violation.isWritable_ofPolicy h policy cluster.cluster settings
  | error cause =>
    -- The one violation of a copy that cannot be fetched shows nothing as wanted.
    intro v hv
    obtain rfl := List.mem_singleton.1 hv
    exact nofun

/-- So can what there is to say of a policy that is its own cluster. -/
theorem isWritable_ofOwn (found : Resolved) (settings : Settings) :
    ∀ c ∈ ofOwn found settings, c.IsWritable := by
  intro c hc
  unfold ofOwn at hc
  split at hc
  · obtain rfl := List.mem_singleton.1 hc
    exact Violation.isWritable_ofPolicy (DesiredState.holdsObjects_ofPolicy found.policy)
      found.policy found.ns settings
  · cases hc

/-- A complete diagnosis is writable. -/
theorem isWritable_complete (access : Access) (settings : Settings) (request : Request)
    (found : Resolved) : ((survey access settings request).complete request found).IsWritable := by
  intro c hc
  -- The policy is its own cluster, or each cluster comes from the answer to a fetch.
  by_cases hstates : Policy.clusterStates found.policy = []
  · rw [clusters_complete_of_nil access settings request hstates, ofCopy_eq_filter] at hc
    exact isWritable_ofOwn found settings c (List.mem_filter.1 hc).1
  · rw [clusters_complete access settings request hstates] at hc
    obtain ⟨cluster, -, rfl⟩ := List.mem_map.1 hc
    exact isWritable_ofAnswer (DesiredState.holdsObjects_ofPolicy found.policy) _ settings cluster _

end Diagnosis

/-! ## Reports as trees -/

/-- Trees that are read as reports of a type settle at once: the report is written in a form that is
read as the same report, and written as itself. -/
def Settles {α : Type} (write : α → Value) (read? : Value → Option α) : Prop :=
  ∀ value report, read? value = some report →
    read? (write report) = some report ∧
      (read? (write report)).map write = some (write report)

/-- What is read back as it was settles. -/
theorem settles_of_read {α : Type} {write : α → Value} {read? : Value → Option α}
    (h : ∀ value report, read? value = some report → read? (write report) = some report) :
    Settles write read? := by
  intro value report hread
  have hagain := h value report hread
  rw [hagain]
  exact ⟨rfl, rfl⟩

/-- A null and a field of another name are gone at once. -/
example :
    (Finding.ofValue? (.object [("message", .string "nodes not found"), ("severity", .null),
      ("namespace", .null), ("violation_type", .object [("resource_missing", .null)]),
      ("template_name", .string "nodes")])).map Finding.toValue =
    some (.object [("template_name", .string "nodes"),
      ("violation_type", .string "resource_missing"), ("message", .string "nodes not found")]) :=
  rfl

/-- Reports survive as trees. An inspection is read back as it was, and so is a diagnosis in which
nothing that is wanted is null; whatever the policies, the settings and the conditions are, a
diagnosis is returned as such. And whatever tree is read as a report or as a part of one settles. -/
theorem reports_survive :
    (∀ inspection : Inspection, Inspection.ofValue? inspection.toValue = some inspection) ∧
      (∀ diagnosis : Diagnosis,
        Diagnosis.ofValue? diagnosis.toValue = some diagnosis ↔ diagnosis.IsWritable) ∧
      (∀ (access : Access) (conditions : Conditions) (settings : Settings) (request : Request)
        (diagnosis : Diagnosis),
        (conditions.outcome fun conditions => diagnose access conditions settings request).1 =
          .ok diagnosis → diagnosis.IsWritable) ∧
      Settles Inspection.toValue Inspection.ofValue? ∧
      Settles Diagnosis.toValue Diagnosis.ofValue? ∧
      Settles ClusterDiagnosis.toValue ClusterDiagnosis.ofValue? ∧
      Settles Violation.toValue Violation.ofValue? ∧
      Settles Finding.toValue Finding.ofValue? ∧
      Settles ToolCall.toValue ToolCall.ofValue? ∧
      Settles ClusterState.toValue ClusterState.ofValue? ∧
      Settles Template.toValue Template.ofValue? ∧
      Settles Verdict.toValue Verdict.ofValue? := by
  refine ⟨Inspection.ofValue?_toValue, fun _ => Diagnosis.ofValue?_toValue_iff, ?_, ?_, ?_, ?_, ?_,
    ?_, ?_, ?_, ?_, ?_⟩
  -- A diagnosis that is returned is the complete one of the policy that was found.
  · intro access conditions settings request diagnosis hdiagnosis
    simp only [diagnose_eq_run] at hdiagnosis
    obtain ⟨found, -, rfl, -⟩ := Survey.completed_of_ok _ settings.window_pos hdiagnosis
    exact Diagnosis.isWritable_complete access settings request found
  · exact settles_of_read fun _ report _ => Inspection.ofValue?_toValue report
  · exact settles_of_read fun _ _ hread =>
      Diagnosis.ofValue?_toValue_iff.2 (Diagnosis.isWritable_of_ofValue? hread)
  · exact settles_of_read fun _ _ hread =>
      ClusterDiagnosis.ofValue?_toValue (ClusterDiagnosis.isWritable_of_ofValue? hread)
  · exact settles_of_read fun _ _ hread =>
      Violation.ofValue?_toValue (Violation.isWritable_of_ofValue? hread)
  · exact settles_of_read fun _ report _ => Finding.ofValue?_toValue report
  · exact settles_of_read fun _ report _ => ToolCall.ofValue?_toValue report
  · exact settles_of_read fun _ report _ => ClusterState.ofValue?_toValue report
  · exact settles_of_read fun _ report _ => Template.ofValue?_toValue report
  · exact settles_of_read fun _ report _ => Verdict.ofValue?_toValue report

end ComplianceTriage
