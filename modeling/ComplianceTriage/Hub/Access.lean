import ComplianceTriage.Text.Quoted
import ComplianceTriage.Value.Path

/-!
# Access to a hub

A triage only ever reads from the hub, and in two ways: one object by name and namespace, or all
objects of a type. An access is anything that answers these two questions.
-/

namespace ComplianceTriage

/-- A type of resource. -/
structure ResourceType where
  group : String
  version : String
  kind : String
  plural : String
deriving DecidableEq, Repr, Inhabited

namespace ResourceType

/-- The version of a type as objects write it: with the group, unless that is the core group. -/
def apiVersion (type : ResourceType) : String :=
  if type.group = "" then type.version else type.group ++ "/" ++ type.version

/-- Whether an object is of the type. -/
def holds (type : ResourceType) (object : Value) : Bool :=
  object.textAt? ["kind"] = some type.kind && object.textAt? ["apiVersion"] = some type.apiVersion

/-- The type of policies, of root policies and of their copies alike. -/
def policy : ResourceType :=
  ⟨"policy.open-cluster-management.io", "v1", "Policy", "policies"⟩

end ResourceType

/-- Why an access could not answer. -/
inductive AccessError where
  /-- There is no such object. -/
  | notFound (kind name ns : String)
  /-- An answer came and could not be understood. -/
  | undecodable (detail : String)
  /-- No hub could be reached. -/
  | unreachable (detail : String)
deriving DecidableEq, Repr, Inhabited

/-- The text of an access error. -/
def AccessError.message : AccessError → String
  | notFound kind name ns =>
    kind ++ " " ++ Text.quoted name ++ " not found in namespace " ++ Text.quoted ns
  | undecodable detail => "Failed to decode object: " ++ detail
  | unreachable detail => "Failed to infer Kubernetes config: " ++ detail

/-- Read access to the objects of a hub. -/
structure Access where
  /-- The object of a type with a name and a namespace. -/
  get : ResourceType → String → String → Except AccessError Value
  /-- The objects of a type, in one namespace or in all. -/
  list : ResourceType → Option String → Except AccessError (List Value)

end ComplianceTriage
