import ComplianceTriage.Message.Resource
import ComplianceTriage.Triage.Run

/-!
# Finding the policy

A policy is asked for by name, with or without its namespace. With one, it is fetched directly; if
that fails for whatever reason, or if no namespace was given, all policies are searched and the
first of that name is taken. An empty namespace counts as none.
-/

namespace ComplianceTriage

/-- A policy and the namespace in which it was found. -/
structure Resolved where
  policy : Value
  ns : String
deriving Repr, Inhabited

/-- What is asked about which policy. -/
structure Request where
  policy : String
  ns? : Option String
  cluster? : Option String
deriving DecidableEq, Repr, Inhabited

namespace Request

/-- The namespace to look in first. -/
def place? (request : Request) : Option String :=
  request.ns?.bind presence

/-- The one cluster to report on. -/
def onlyCluster? (request : Request) : Option String :=
  request.cluster?.bind presence

/-- Whether a request reports on a cluster. -/
def selects (request : Request) (cluster : String) : Bool :=
  match request.onlyCluster? with
  | some only => only = cluster
  | none => true

/-- A request must name its policy with more than blanks. -/
def check (request : Request) : Except Failure Unit :=
  if (Text.trim request.policy.toList).isEmpty then
    .error (.invalidArguments "'policy_name' is required")
  else .ok ()

end Request

namespace Resolved

/-- The first policy of a name among all. -/
def first? (name : String) (policies : List Value) : Option Resolved :=
  (policies.find? fun policy => policy.name = name).map fun policy => ⟨policy, policy.ns⟩

end Resolved

/-- Searches all namespaces for a policy, one of which was named. -/
def searchAll (access : Access) (conditions : Conditions) (name : String) (ns? : Option String) :
    Run Resolved := do
  let question := Fetch.list .policy none
  match ← Run.fetch conditions question (access.list .policy none) with
  | .error cause => throw (.access cause)
  | .ok policies =>
    match Resolved.first? name policies with
    | some found => return found
    | none => throw (.policyNotFound name ns?)

/-- Finds a policy by name, in the namespace given first. -/
def resolve (access : Access) (conditions : Conditions) (name : String) (place? : Option String) :
    Run Resolved := do
  match place? with
  | none => searchAll access conditions name none
  | some ns =>
    let question := Fetch.get .policy name ns
    match ← Run.fetch conditions question (access.get .policy name ns) with
    | .ok policy => return ⟨policy, ns⟩
    -- Whatever the failure is, the policy may still be found elsewhere.
    | .error _ => searchAll access conditions name (some ns)

end ComplianceTriage
