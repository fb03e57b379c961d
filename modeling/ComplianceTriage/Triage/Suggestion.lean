import ComplianceTriage.DesiredState.Index
import ComplianceTriage.Message.Resource
import ComplianceTriage.Message.Verdict
import ComplianceTriage.Triage.Settings

/-!
# Suggested tool calls

Each violation gets at most one suggestion for the next step of the investigation: the trace of a
subscription where an operator's install chain is involved and a name is known, the object itself
where kind and name are known, and a list of objects where only the kind is.
-/

namespace ComplianceTriage

/-- A call of a tool on a server. -/
structure ToolCall where
  server : String
  tool : String
  args : Fields
deriving Repr, Inhabited

/-- The final verdict on a violation, and the call to make next. -/
structure Suggestion where
  verdict : Verdict
  call : Option ToolCall
deriving Repr, Inhabited

/-- A subscription by name and namespace. -/
structure Subscription where
  name : String
  ns : String
deriving DecidableEq, Repr, Inhabited

namespace Subscription

/-- The subscription that a wanted resource is, if it is one that has a name. -/
def ofResource? (resource : Value) : Option Subscription :=
  match resource.textAt? ["kind"] with
  | none => none
  | some kind =>
    if Text.sameUpToAsciiCase kind "Subscription" && resource.name ≠ "" then
      some ⟨resource.name, resource.ns⟩
    else none

/-- The first subscription that is wanted, in the order of keys. -/
def first? (state : DesiredState) : Option Subscription :=
  state.entries.findSome? fun entry => ofResource? entry.2

/-- The subscription of an aggregate named `name.namespace`. -/
def ofAggregateName? (name : String) : Option Subscription :=
  (Text.splitAtChar? '.' name.toList).map fun parts =>
    ⟨String.ofList parts.1, String.ofList parts.2⟩

/-- The subscription behind a named resource of an install chain. An aggregate stands for the first
subscription that is wanted, or else for the one that its name says; where no namespace is known
the usual one is assumed. -/
def behind (resource : Resource) (state : DesiredState) (settings : Settings) : Subscription :=
  let named : Subscription := ⟨resource.name, resource.ns⟩
  let found : Subscription :=
    if Kind.isOperator resource.kind then
      -- The subscription is wanted under its own name, which need not be that of the aggregate.
      match first? state with
      | some wanted => ⟨wanted.name, if wanted.ns = "" then named.ns else wanted.ns⟩
      | none => (ofAggregateName? resource.name).getD named
    else named
  ⟨found.name, if found.ns = "" then settings.operatorNs else found.ns⟩

end Subscription

namespace ToolCall

/-- The tool that traces a subscription. -/
def traceTool : String := "trace_olm_subscription"

/-- The tool that shows one object. -/
def getTool : String := "resources_get"

/-- The tool that lists the objects of a kind. -/
def listTool : String := "resources_list"

/-- The call that traces a subscription on a cluster. -/
def trace (subscription : Subscription) (cluster : String) (settings : Settings) : ToolCall :=
  ⟨settings.server, traceTool,
    [("subscription_name", .string subscription.name),
      ("subscription_namespace", .string subscription.ns),
      ("cluster", .string cluster)]⟩

/-- A call that looks at resources on a cluster, in a namespace if one is known. -/
def look (tool target : String) (ns? : Option String) (cluster : String) (settings : Settings) :
    ToolCall :=
  let place := match ns? with
    | some ns => [("namespace", Value.string ns)]
    | none => []
  ⟨settings.server, tool,
    [("resource", .string target), ("cluster", .string cluster)] ++ place ++
      [("clean_metadata", .bool true)]⟩

end ToolCall

/-- The suggestion for a resource, given the verdict on its message. A named resource of an install
chain is taken for a stuck chain, by its kind or by its message. -/
def suggest (resource : Resource) (verdict : Verdict) (cluster : String) (state : DesiredState)
    (settings : Settings) : Suggestion :=
  match resource.kind?, resource.name? with
  | kind?, some name =>
    if verdict = .olmStuck || Kind.isOlm resource.kind then
      ⟨.olmStuck, some (.trace (.behind resource state settings) cluster settings)⟩
    else
      match kind? with
      | some kind =>
        let target := Text.lowerString kind ++ "/" ++ name
        ⟨verdict, some (.look ToolCall.getTool target resource.ns? cluster settings)⟩
      | none => ⟨verdict, none⟩
  | some kind, none =>
    let target := Text.lowerString kind
    ⟨verdict, some (.look ToolCall.listTool target resource.ns? cluster settings)⟩
  | none, none => ⟨verdict, none⟩

end ComplianceTriage
