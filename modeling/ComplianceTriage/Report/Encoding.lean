import ComplianceTriage.Report.Basic

/-!
# Reports as trees

A report is written as a tree, its fields in a fixed order, and read back from one. Writing leaves
out what is not known. Reading takes an object, whose fields may come in any order and be joined by
others, or an array of the fields in their order. A field that may be unknown may be missing or
null; a list that has a default may be missing, but not null.
-/

namespace ComplianceTriage

namespace Decoding

/-- How the fields of a record are read from a tree: by name from an object, or by place from an
array that has no more places than there are fields. -/
def fieldReader? (names : List String) : Value → Option (String → Option Value)
  | .object fields => some fun name => Fields.get? fields name
  | .array items =>
    if items.length ≤ names.length then some fun name => (names.zip items).lookup name else none
  | _ => none

/-- A text that must be there. -/
def text (read : String → Option Value) (name : String) : Option String :=
  (read name).bind Value.text?

/-- A text that may be missing or null. -/
def optionalText (read : String → Option Value) (name : String) : Option (Option String) :=
  match read name with
  | none => some none
  | some .null => some none
  | some (.string s) => some (some s)
  | some _ => none

/-- A tree that may be missing or null. -/
def optionalValue (read : String → Option Value) (name : String) : Option Value :=
  match read name with
  | some .null => none
  | other => other

/-- All of the items, each read, if each can be. -/
def all {α : Type} (one : Value → Option α) : List Value → Option (List α)
  | [] => some []
  | item :: rest => (one item).bind fun a => (all one rest).map fun as => a :: as

/-- A list that may be missing. -/
def list {α : Type} (one : Value → Option α) (read : String → Option Value) (name : String) :
    Option (List α) :=
  match read name with
  | none => some []
  | some (.array items) => all one items
  | some _ => none

end Decoding

namespace Encoding

/-- A field that is left out where it is not known. -/
def optional (name : String) (value? : Option Value) : Fields :=
  match value? with
  | some value => [(name, value)]
  | none => []

/-- A text field that is left out where it is not known. -/
def optionalText (name : String) (text? : Option String) : Fields :=
  optional name (text?.map .string)

end Encoding

open Encoding

namespace Verdict

/-- A verdict as a tree: its name. -/
def toValue (verdict : Verdict) : Value := .string verdict.label

/-- The verdict that a tree is: its name, also as the single field of an object, set to null. -/
def ofValue? : Value → Option Verdict
  | .string s => ofLabel? s
  | .object [(s, .null)] => ofLabel? s
  | _ => none

end Verdict

namespace ToolCall

/-- The fields of a call. -/
def fieldNames : List String := ["server", "tool", "args"]

/-- A call as a tree. -/
def toValue (call : ToolCall) : Value :=
  .object [("server", .string call.server), ("tool", .string call.tool),
    ("args", .object call.args)]

/-- The call that a tree is. -/
def ofValue? (value : Value) : Option ToolCall := do
  let read ← Decoding.fieldReader? fieldNames value
  let server ← Decoding.text read "server"
  let tool ← Decoding.text read "tool"
  let args ← (read "args").bind Value.fields?
  return ⟨server, tool, args⟩

end ToolCall

namespace Violation

/-- The fields of a violation. -/
def fieldNames : List String :=
  ["violation_type", "template_name", "resource_kind", "resource_name", "resource_namespace",
    "message", "desired_state", "suggested_tool_call"]

/-- A violation as a tree. -/
def toValue (v : Violation) : Value :=
  .object ([("violation_type", v.verdict.toValue), ("template_name", .string v.template)] ++
    optionalText "resource_kind" v.resourceKind ++ optionalText "resource_name" v.resourceName ++
    optionalText "resource_namespace" v.resourceNs ++ [("message", .string v.message)] ++
    optional "desired_state" v.desired ++
    optional "suggested_tool_call" (v.call.map ToolCall.toValue))

/-- The call of a violation; it may be missing or null. -/
def callOf? (read : String → Option Value) : Option (Option ToolCall) :=
  match Decoding.optionalValue read "suggested_tool_call" with
  | none => some none
  | some value => (ToolCall.ofValue? value).map some

/-- The violation that a tree is. -/
def ofValue? (value : Value) : Option Violation := do
  let read ← Decoding.fieldReader? fieldNames value
  let verdict ← (read "violation_type").bind Verdict.ofValue?
  let template ← Decoding.text read "template_name"
  let kind ← Decoding.optionalText read "resource_kind"
  let name ← Decoding.optionalText read "resource_name"
  let ns ← Decoding.optionalText read "resource_namespace"
  let message ← Decoding.text read "message"
  let call ← callOf? read
  return ⟨verdict, template, kind, name, ns, message,
    Decoding.optionalValue read "desired_state", call⟩

end Violation

namespace ClusterDiagnosis

/-- The fields of a cluster's diagnosis. -/
def fieldNames : List String := ["cluster_name", "compliance_state", "issues"]

/-- A cluster's diagnosis as a tree. -/
def toValue (c : ClusterDiagnosis) : Value :=
  .object [("cluster_name", .string c.cluster), ("compliance_state", .string c.state),
    ("issues", .array (c.issues.map Violation.toValue))]

/-- The cluster's diagnosis that a tree is. -/
def ofValue? (value : Value) : Option ClusterDiagnosis := do
  let read ← Decoding.fieldReader? fieldNames value
  let cluster ← Decoding.text read "cluster_name"
  let state ← Decoding.text read "compliance_state"
  let issues ← Decoding.list Violation.ofValue? read "issues"
  return ⟨cluster, state, issues⟩

end ClusterDiagnosis

namespace Diagnosis

/-- The fields of a diagnosis. -/
def fieldNames : List String :=
  ["policy_name", "namespace", "compliance_state", "clusters", "summary"]

/-- A diagnosis as a tree. -/
def toValue (d : Diagnosis) : Value :=
  .object [("policy_name", .string d.policy), ("namespace", .string d.ns),
    ("compliance_state", .string d.state),
    ("clusters", .array (d.clusters.map ClusterDiagnosis.toValue)),
    ("summary", .string d.summary)]

/-- The diagnosis that a tree is. -/
def ofValue? (value : Value) : Option Diagnosis := do
  let read ← Decoding.fieldReader? fieldNames value
  let policy ← Decoding.text read "policy_name"
  let ns ← Decoding.text read "namespace"
  let state ← Decoding.text read "compliance_state"
  let clusters ← Decoding.list ClusterDiagnosis.ofValue? read "clusters"
  let summary ← Decoding.text read "summary"
  return ⟨policy, ns, state, clusters, summary⟩

end Diagnosis

namespace ClusterState

/-- The fields of a cluster's state. -/
def fieldNames : List String := ["cluster_name", "compliance_state"]

/-- A cluster's state as a tree. -/
def toValue (c : ClusterState) : Value :=
  .object [("cluster_name", .string c.cluster), ("compliance_state", .string c.state)]

/-- The cluster's state that a tree is. -/
def ofValue? (value : Value) : Option ClusterState := do
  let read ← Decoding.fieldReader? fieldNames value
  let cluster ← Decoding.text read "cluster_name"
  let state ← Decoding.text read "compliance_state"
  return ⟨cluster, state⟩

end ClusterState

namespace Template

/-- The fields of a template. -/
def fieldNames : List String := ["name", "kind"]

/-- A template as a tree. -/
def toValue (t : Template) : Value :=
  .object [("name", .string t.name), ("kind", .string t.kind)]

/-- The template that a tree is. -/
def ofValue? (value : Value) : Option Template := do
  let read ← Decoding.fieldReader? fieldNames value
  let name ← Decoding.text read "name"
  let kind ← Decoding.text read "kind"
  return ⟨name, kind⟩

end Template

namespace Finding

/-- The fields of a finding. -/
def fieldNames : List String :=
  ["template_name", "cluster_name", "violation_type", "resource_kind", "resource_name",
    "namespace", "message"]

/-- A finding as a tree. -/
def toValue (f : Finding) : Value :=
  .object ([("template_name", .string f.template)] ++ optionalText "cluster_name" f.cluster ++
    [("violation_type", f.verdict.toValue)] ++ optionalText "resource_kind" f.resourceKind ++
    optionalText "resource_name" f.resourceName ++ optionalText "namespace" f.resourceNs ++
    [("message", .string f.message)])

/-- The finding that a tree is. -/
def ofValue? (value : Value) : Option Finding := do
  let read ← Decoding.fieldReader? fieldNames value
  let template ← Decoding.text read "template_name"
  let cluster ← Decoding.optionalText read "cluster_name"
  let verdict ← (read "violation_type").bind Verdict.ofValue?
  let kind ← Decoding.optionalText read "resource_kind"
  let name ← Decoding.optionalText read "resource_name"
  let ns ← Decoding.optionalText read "namespace"
  let message ← Decoding.text read "message"
  return ⟨template, cluster, verdict, kind, name, ns, message⟩

end Finding

namespace Inspection

/-- The fields of an inspection. -/
def fieldNames : List String :=
  ["policy_name", "namespace", "compliance_state", "affected_clusters", "templates",
    "violations", "next_step"]

/-- An inspection as a tree. -/
def toValue (i : Inspection) : Value :=
  .object ([("policy_name", .string i.policy), ("namespace", .string i.ns),
    ("compliance_state", .string i.state),
    ("affected_clusters", .array (i.affected.map ClusterState.toValue)),
    ("templates", .array (i.templates.map Template.toValue)),
    ("violations", .array (i.violations.map Finding.toValue))] ++
    optionalText "next_step" i.nextStep)

/-- The inspection that a tree is. -/
def ofValue? (value : Value) : Option Inspection := do
  let read ← Decoding.fieldReader? fieldNames value
  let policy ← Decoding.text read "policy_name"
  let ns ← Decoding.text read "namespace"
  let state ← Decoding.text read "compliance_state"
  let affected ← Decoding.list ClusterState.ofValue? read "affected_clusters"
  let templates ← Decoding.list Template.ofValue? read "templates"
  let violations ← Decoding.list Finding.ofValue? read "violations"
  let nextStep ← Decoding.optionalText read "next_step"
  return ⟨policy, ns, state, affected, templates, violations, nextStep⟩

end Inspection

end ComplianceTriage
