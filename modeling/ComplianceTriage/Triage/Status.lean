import ComplianceTriage.Message.Resource
import ComplianceTriage.Report.Basic

/-!
# The status of a policy

A root policy lists the state of each of its clusters, and a policy of either kind has details for
each of its templates, with a history of messages of which the latest stands first. A copy of a root
policy is named after the root's namespace and name.
-/

namespace ComplianceTriage

namespace Policy

/-- The state of a policy. -/
def state (policy : Value) : String :=
  policy.textAt ["status", "compliant"]

/-- The states of the clusters of a root policy, in order. -/
def clusterStates (policy : Value) : List ClusterState :=
  ((policy.itemsAt ["status", "status"]).filter Value.isObject).map fun entry =>
    ⟨entry.textAt ["clustername"], entry.textAt ["compliant"]⟩

/-- The latest message of a template that is not compliant. -/
structure Detail where
  template : String
  message : String
deriving DecidableEq, Repr

/-- The latest message in the details of a template, if they have a history. -/
def detail? (entry : Value) : Option Detail :=
  match entry.itemsAt ["history"] with
  | latest :: _ =>
    if latest.isObject then
      some ⟨entry.textAt ["templateMeta", "name"], latest.textAt ["message"]⟩
    else none
  | [] => none

/-- The latest messages of the templates that are not compliant, in order. -/
def details (policy : Value) : List Detail :=
  ((policy.itemsAt ["status", "details"]).filter fun entry =>
    entry.textAt? ["compliant"] ≠ some compliant).filterMap detail?

/-- The templates of a policy by name and kind. -/
def templates (policy : Value) : List Template :=
  ((policy.itemsAt ["spec", "policy-templates"]).filter Value.isObject).map fun entry =>
    match entry.at? ["objectDefinition"] with
    | some definition => ⟨definition.name, definition.kind⟩
    | none => ⟨"", ""⟩

/-- The name of the copies of a root policy. -/
def copyName (ns name : String) : String :=
  ns ++ "." ++ name

end Policy

end ComplianceTriage
