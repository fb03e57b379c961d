import ComplianceTriage.Triage.Resolution
import ComplianceTriage.Triage.Status

/-!
# Inspection

An inspection lists the clusters of a policy with their states, its templates, and the bare messages
of the policy itself and of the copies on the clusters that are not compliant. A copy that cannot be
fetched adds nothing. Where the policy lists no states of clusters, its own namespace is the
affected cluster.
-/

namespace ComplianceTriage

namespace Finding

/-- The findings of a policy, on a cluster or its own. -/
def ofPolicy (policy : Value) (cluster : Option String) (limit : Nat) : List Finding :=
  (Policy.details policy).map fun detail =>
    let resource := Message.resource detail.message
    { template := detail.template
      cluster
      verdict := Message.verdict detail.message
      resourceKind := resource.kind?
      resourceName := resource.name?
      resourceNs := resource.ns?
      message := Message.truncate detail.message limit }

end Finding

namespace Inspection

/-- The states of the clusters that a request reports on. -/
def selected (request : Request) (states : List ClusterState) : List ClusterState :=
  states.filter fun s => request.selects s.cluster

/-- The clusters that a policy affects, where none of its own states are reported on. -/
def ownCluster (found : Resolved) : List ClusterState :=
  if found.ns = "" then [] else [⟨found.ns, Policy.state found.policy⟩]

/-- The findings of a cluster, given the answer to the fetch of its copy. -/
def ofAnswer (settings : Settings) (cluster : ClusterState)
    (answer : Except AccessError Value) : List Finding :=
  match answer with
  | .ok policy => Finding.ofPolicy policy (some cluster.cluster) settings.messageLimit
  | .error _ => []

/-- What is done for each cluster. -/
def errand (access : Access) (copy : String) (settings : Settings) :
    Errand ClusterState (List Finding) :=
  { fetch := fun cluster => .get .policy copy cluster.cluster
    result := fun cluster =>
      ofAnswer settings cluster (access.get .policy copy cluster.cluster) }

/-- The instruction that follows an inspection: it starts at the first affected cluster, and there
is none without violations. -/
def instruction (settings : Settings) (affected : List ClusterState)
    (violations : List Finding) : Option String :=
  match affected, violations with
  | first :: _, _ :: _ => some (ComplianceTriage.nextStep first.cluster settings.server)
  | _, _ => none

/-- The report on the affected clusters with some violations. -/
def report (settings : Settings) (request : Request) (found : Resolved)
    (affected : List ClusterState) (violations : List Finding) : Inspection :=
  { policy := request.policy
    ns := found.ns
    state := Policy.state found.policy
    affected
    templates := Policy.templates found.policy
    violations
    nextStep := instruction settings affected violations }

end Inspection

open Inspection in
/-- Inspects a policy. -/
def inspect (access : Access) (conditions : Conditions) (settings : Settings)
    (request : Request) : Run Inspection := do
  Run.checkSignal
  liftExcept request.check
  let found ← resolve access conditions request.policy request.place?
  let own := Finding.ofPolicy found.policy none settings.messageLimit
  -- The clusters are filtered before it is decided whether the policy lists any.
  let states := selected request (Policy.clusterStates found.policy)
  if states.isEmpty then
    return report settings request found (ownCluster found) own
  else
    let copy := Policy.copyName found.ns request.policy
    let targets := states.filter fun s => s.state ≠ compliant
    let copies ← Run.fetchAll (errand access copy settings) conditions settings.window targets
    return report settings request found states (own ++ copies.flatten)

end ComplianceTriage
