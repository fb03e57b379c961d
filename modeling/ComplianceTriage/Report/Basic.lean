import ComplianceTriage.Triage.Suggestion

/-!
# Reports

A diagnosis lists the clusters of a policy that are not compliant, each with its violations and what
to do next about each of them. An inspection lists the states of all clusters, the templates and the
bare messages. A part that is not known is left out of the written report.
-/

namespace ComplianceTriage

/-- The state of a policy or cluster that needs no attention. -/
def compliant : String := "Compliant"

/-- A violation with what was wanted and what to do next. -/
structure Violation where
  verdict : Verdict
  template : String
  resourceKind : Option String
  resourceName : Option String
  resourceNs : Option String
  message : String
  desired : Option Value
  call : Option ToolCall
deriving Repr, Inhabited

/-- The violations of one cluster. -/
structure ClusterDiagnosis where
  cluster : String
  state : String
  issues : List Violation
deriving Repr, Inhabited

/-- The diagnosis of a policy. -/
structure Diagnosis where
  policy : String
  ns : String
  state : String
  clusters : List ClusterDiagnosis
  summary : String
deriving Repr, Inhabited

/-- The number of violations on some clusters. -/
def issueCount (clusters : List ClusterDiagnosis) : Nat :=
  (clusters.flatMap fun cluster => cluster.issues).length

/-- The number of violations in a diagnosis. -/
def Diagnosis.issueCount (diagnosis : Diagnosis) : Nat :=
  ComplianceTriage.issueCount diagnosis.clusters

/-- The state of one cluster. -/
structure ClusterState where
  cluster : String
  state : String
deriving DecidableEq, Repr, Inhabited

/-- A template of a policy by name and kind. -/
structure Template where
  name : String
  kind : String
deriving DecidableEq, Repr, Inhabited

/-- A violation as it was found; without a cluster it is the policy's own. -/
structure Finding where
  template : String
  cluster : Option String
  verdict : Verdict
  resourceKind : Option String
  resourceName : Option String
  resourceNs : Option String
  message : String
deriving DecidableEq, Repr, Inhabited

/-- The inspection of a policy. -/
structure Inspection where
  policy : String
  ns : String
  state : String
  affected : List ClusterState
  templates : List Template
  violations : List Finding
  nextStep : Option String
deriving DecidableEq, Repr, Inhabited

/-- The summary of the clusters of a diagnosis. -/
def summarize (clusters : List ClusterDiagnosis) : String :=
  s!"Found {issueCount clusters} issue(s) across {clusters.length} non-compliant cluster(s). " ++
    "Follow the suggested_tool_call in each issue to continue investigation."

/-- What to do after an inspection that found violations, starting at a cluster. -/
def nextStep (cluster server : String) : String :=
  "Continue the investigation on the managed cluster. " ++
    "Use " ++ server ++ "'s resources_get or resources_list with cluster='" ++ cluster ++
    "' to inspect the violated resources. " ++
    "For OLM-related violations (Subscription, CSV), call trace_olm_subscription with cluster='" ++
    cluster ++ "'. Base findings on the actual tool results."

end ComplianceTriage
