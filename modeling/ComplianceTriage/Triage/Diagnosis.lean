import ComplianceTriage.DesiredState.Matching
import ComplianceTriage.Triage.Resolution
import ComplianceTriage.Triage.Status

/-!
# Diagnosis

A diagnosis finds the policy, indexes what it wants, and goes through the clusters that are not
compliant. For each of them the copy of the policy in the cluster's namespace is fetched, and each
of its messages becomes a violation. A copy that cannot be fetched becomes one unknown violation, so
that no cluster is lost. A policy without states of clusters is itself a copy, and its namespace is
its cluster.
-/

namespace ComplianceTriage

namespace Violation

/-- The violation that a message of a template on a cluster tells of. -/
def ofMessage (template message cluster : String) (wanted : DesiredState) (settings : Settings) :
    Violation :=
  let resource := Message.resource message
  let suggestion := suggest resource (Message.verdict message) cluster wanted settings
  { verdict := suggestion.verdict
    template
    resourceKind := resource.kind?
    resourceName := resource.name?
    resourceNs := resource.ns?
    message := Message.truncate message settings.messageLimit
    desired := (wanted.find? template resource.kind resource.name).map Prod.fst
    call := suggestion.call }

section

variable (template message cluster : String) (wanted : DesiredState) (settings : Settings)

/-- The kind of a violation is the one that its message names. -/
@[simp]
theorem resourceKind_ofMessage : (ofMessage template message cluster wanted settings).resourceKind =
    (Message.resource message).kind? := rfl

/-- The name of a violation is the one that its message names. -/
@[simp]
theorem resourceName_ofMessage : (ofMessage template message cluster wanted settings).resourceName =
    (Message.resource message).name? := rfl

/-- The namespace of a violation is the one that its message names. -/
@[simp]
theorem resourceNs_ofMessage : (ofMessage template message cluster wanted settings).resourceNs =
    (Message.resource message).ns? := rfl

/-- The call of a violation is the one that is suggested for its message. -/
@[simp]
theorem call_ofMessage : (ofMessage template message cluster wanted settings).call =
    (suggest (Message.resource message) (Message.verdict message) cluster wanted settings).call :=
  rfl

end

/-- The violation that stands for a copy that could not be fetched. -/
def fetchFailure (copy cluster : String) : Violation :=
  { verdict := .unknown
    template := ""
    resourceKind := none
    resourceName := none
    resourceNs := none
    message := "Could not fetch propagated policy " ++ copy ++ " in namespace " ++ cluster
    desired := none
    call := none }

/-- The violations that a policy tells of on a cluster. -/
def ofPolicy (policy : Value) (cluster : String) (wanted : DesiredState) (settings : Settings) :
    List Violation :=
  (Policy.details policy).map fun detail =>
    ofMessage detail.template detail.message cluster wanted settings

end Violation

namespace Diagnosis

/-- The clusters whose copies a diagnosis fetches. -/
def targets (request : Request) (states : List ClusterState) : List ClusterState :=
  (states.filter fun s => request.selects s.cluster).filter fun s => s.state ≠ compliant

/-- The diagnosis of a policy that is its own cluster. -/
def ofCopy (request : Request) (found : Resolved) (settings : Settings) :
    List ClusterDiagnosis :=
  let state := Policy.state found.policy
  if state ≠ "" && state ≠ compliant && request.selects found.ns then
    let wanted := DesiredState.ofPolicy found.policy
    [⟨found.ns, state, Violation.ofPolicy found.policy found.ns wanted settings⟩]
  else []

/-- The diagnosis of a cluster, given the answer to the fetch of its copy. -/
def ofAnswer (copy : String) (wanted : DesiredState) (settings : Settings) (cluster : ClusterState)
    (answer : Except AccessError Value) : ClusterDiagnosis :=
  let issues := match answer with
    | .ok policy => Violation.ofPolicy policy cluster.cluster wanted settings
    -- Whatever the failure is, the cluster stays in the report.
    | .error _ => [Violation.fetchFailure copy cluster.cluster]
  ⟨cluster.cluster, cluster.state, issues⟩

/-- What is done for each cluster. -/
def errand (access : Access) (copy : String) (wanted : DesiredState) (settings : Settings) :
    Errand ClusterState ClusterDiagnosis :=
  { fetch := fun cluster => .get .policy copy cluster.cluster
    result := fun cluster =>
      ofAnswer copy wanted settings cluster (access.get .policy copy cluster.cluster) }

/-- The report on some clusters. -/
def report (request : Request) (found : Resolved) (clusters : List ClusterDiagnosis) :
    Diagnosis :=
  ⟨request.policy, found.ns, Policy.state found.policy, clusters, summarize clusters⟩

end Diagnosis

open Diagnosis in
/-- Diagnoses the clusters of a policy. -/
def diagnose (access : Access) (conditions : Conditions) (settings : Settings)
    (request : Request) : Run Diagnosis := do
  Run.checkSignal
  liftExcept request.check
  let found ← resolve access conditions request.policy request.place?
  -- Whether the policy lists clusters is decided before they are filtered.
  let states := Policy.clusterStates found.policy
  if states.isEmpty then
    return report request found (ofCopy request found settings)
  else
    let copy := Policy.copyName found.ns request.policy
    let wanted := DesiredState.ofPolicy found.policy
    let clusters ← Run.fetchAll (errand access copy wanted settings) conditions settings.window
      (targets request states)
    return report request found clusters

end ComplianceTriage
