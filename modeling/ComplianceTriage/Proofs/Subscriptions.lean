import ComplianceTriage.Config.Reading
import ComplianceTriage.Proofs.Coherence

/-!
# Subscriptions that are traced

The name and the namespace of a traced subscription come from what the message says, from what is
wanted, from the name of an aggregate, and for the namespace from the settings. Everything but the
last is what is told (`Subscription.told`), and a trace is of what is told, with the usual namespace
where none is (`Violation.eq_trace_of_tool`).

Two things can go wrong. Nothing keeps the usual namespace from being empty, and the name of an
aggregate may begin with the point that divides it; but for these, a trace names its subscription
in full (`trace_named_iff`). And an aggregate is taken to stand for the first subscription that is
wanted, whatever its own name says; so the one that its name says is traced exactly where no other
comes first (`trace_aggregate_iff`).
-/

namespace ComplianceTriage

namespace ToolCall

/-- Whether a call traces a subscription. -/
def Traces (call : ToolCall) (subscription : Subscription) : Prop :=
  call.tool = traceTool ∧
    Fields.get? call.args "subscription_name" = some (.string subscription.name) ∧
    Fields.get? call.args "subscription_namespace" = some (.string subscription.ns)

/-- A call traces the one subscription that it is made for. -/
theorem traces_trace_iff {subscription other : Subscription} {cluster : String}
    {settings : Settings} :
    (trace subscription cluster settings).Traces other ↔ other = subscription := by
  have hname : Fields.get? (trace subscription cluster settings).args "subscription_name" =
      some (.string subscription.name) := rfl
  have hns : Fields.get? (trace subscription cluster settings).args "subscription_namespace" =
      some (.string subscription.ns) := rfl
  unfold Traces
  rw [hname, hns]
  constructor
  · rintro ⟨-, hname', hns'⟩
    cases other
    cases hname'
    cases hns'
    rfl
  · rintro rfl
    exact ⟨rfl, rfl, rfl⟩

end ToolCall

namespace Subscription

/-- The subscription behind a resource, as far as the message, what is wanted and the name of the
aggregate tell. -/
def told (resource : Resource) (wanted : DesiredState) : Subscription :=
  if Kind.isOperator resource.kind then
    match first? wanted with
    | some first => ⟨first.name, if first.ns = "" then resource.ns else first.ns⟩
    | none => (ofAggregateName? resource.name).getD ⟨resource.name, resource.ns⟩
  else ⟨resource.name, resource.ns⟩

/-- A subscription with a namespace for the case that it has none. -/
def inUsual (subscription : Subscription) (usual : String) : Subscription :=
  ⟨subscription.name, if subscription.ns = "" then usual else subscription.ns⟩

/-- The subscription behind a resource is the one told of, in the usual namespace if none is known.
-/
theorem behind_eq (resource : Resource) (wanted : DesiredState) (settings : Settings) :
    behind resource wanted settings = (told resource wanted).inUsual settings.operatorNs := rfl

/-- The usual namespace does not change the name. -/
@[simp]
theorem name_inUsual (subscription : Subscription) (usual : String) :
    (subscription.inUsual usual).name = subscription.name := rfl

/-- No namespace is left only if none is known and the usual one is empty. -/
theorem ns_inUsual_eq_empty_iff {subscription : Subscription} {usual : String} :
    (subscription.inUsual usual).ns = "" ↔ subscription.ns = "" ∧ usual = "" := by
  unfold inUsual
  by_cases h : subscription.ns = "" <;> simp [h]

/-- What is wanted as a subscription has a name. -/
theorem name_ne_of_first? {wanted : DesiredState} {first : Subscription}
    (h : first? wanted = some first) : first.name ≠ "" := by
  obtain ⟨entry, -, hentry⟩ := List.exists_of_findSome?_eq_some h
  -- An object without a name is passed over, whatever its kind.
  unfold ofResource? at hentry
  split at hentry
  · cases hentry
  · split at hentry
    · next hnamed =>
      cases hentry
      simp only [Bool.and_eq_true, decide_eq_true_eq] at hnamed
      exact hnamed.2
    · cases hentry

/-- The name of an aggregate is cut at its first point. -/
theorem ofAggregateName?_append {name : String} (hname : '.' ∉ name.toList) (ns : String) :
    ofAggregateName? (name ++ "." ++ ns) = some ⟨name, ns⟩ := by
  have hcut : Text.splitAtChar? '.' (name ++ "." ++ ns).toList =
      some (name.toList, ns.toList) := by
    rw [Text.splitAtChar?_eq_some]
    exact ⟨by simp [String.toList_append], hname⟩
  unfold ofAggregateName?
  rw [hcut]
  simp

/-- Nothing stands in front of the point if the name begins with it. -/
theorem name_ofAggregateName?_eq_empty_iff {name : String} {subscription : Subscription}
    (h : ofAggregateName? name = some subscription) :
    subscription.name = "" ↔ name.toList.head? = some '.' := by
  obtain ⟨⟨front, back⟩, hcut, rfl⟩ := Option.map_eq_some_iff.1 h
  obtain ⟨hname, hfront⟩ := Text.splitAtChar?_eq_some.1 hcut
  rw [hname]
  cases front with
  | nil => simp
  | cons c front =>
    -- The name is cut at its first point, so it does not begin with one.
    have hc : c ≠ '.' := by
      rintro rfl
      exact hfront List.mem_cons_self
    simp [hc]

/-- What is told has no name only if it is told by the name of an aggregate that begins with the
point. -/
theorem name_told_eq_empty_iff {resource : Resource} (hname : resource.name ≠ "")
    (wanted : DesiredState) :
    (told resource wanted).name = "" ↔
      Kind.isOperator resource.kind = true ∧ first? wanted = none ∧
        resource.name.toList.head? = some '.' := by
  unfold told
  cases Kind.isOperator resource.kind with
  | false => simp [hname]
  | true =>
    cases hfirst : first? wanted with
    | some first => simp [name_ne_of_first? hfirst]
    | none =>
      cases haggregate : ofAggregateName? resource.name with
      | some subscription => simp [name_ofAggregateName?_eq_empty_iff haggregate]
      | none =>
        -- A name without the point does not begin with it.
        have hpoint : '.' ∉ resource.name.toList :=
          Text.splitAtChar?_eq_none.1 (Option.map_eq_none_iff.1 haggregate)
        have hhead : resource.name.toList.head? ≠ some '.' := fun hhead =>
          hpoint (List.mem_of_head? hhead)
        simp [hname, hhead]

/-- What is told is full with the usual namespace if neither part of it stays empty. -/
theorem full_inUsual_told_iff {resource : Resource} (hname : resource.name ≠ "")
    (wanted : DesiredState) (usual : String) :
    ((told resource wanted).inUsual usual).name ≠ "" ∧
        ((told resource wanted).inUsual usual).ns ≠ "" ↔
      ¬ (Kind.isOperator resource.kind = true ∧ first? wanted = none ∧
          resource.name.toList.head? = some '.') ∧
        ((told resource wanted).ns ≠ "" ∨ usual ≠ "") := by
  have hns : ((told resource wanted).inUsual usual).ns ≠ "" ↔
      (told resource wanted).ns ≠ "" ∨ usual ≠ "" := by
    rw [Ne, ns_inUsual_eq_empty_iff, not_and_or]
  rw [name_inUsual]
  exact and_congr (not_congr (name_told_eq_empty_iff hname wanted)) hns

/-- A wanted subscription goes before the name of an aggregate, and takes from the message no more
than the namespace that it lacks. -/
theorem inUsual_told_of_first? {resource : Resource} {wanted : DesiredState} {first : Subscription}
    (hoperator : Kind.isOperator resource.kind = true) (hfirst : first? wanted = some first)
    (usual : String) :
    (told resource wanted).inUsual usual = first.inUsual (resource.ns?.getD usual) := by
  unfold told inUsual Resource.ns? presence
  rw [if_pos hoperator, hfirst]
  by_cases hns : first.ns = "" <;> by_cases hns' : resource.ns = "" <;> simp [hns, hns']

/-- Where none is wanted, the name of an aggregate says all. -/
theorem inUsual_told_of_name {resource : Resource} {wanted : DesiredState} {name ns : String}
    (hoperator : Kind.isOperator resource.kind = true) (hfirst : first? wanted = none)
    (hname : resource.name = name ++ "." ++ ns) (hpoint : '.' ∉ name.toList) (hns : ns ≠ "")
    (usual : String) :
    (told resource wanted).inUsual usual = ⟨name, ns⟩ := by
  unfold told inUsual
  rw [if_pos hoperator, hfirst, hname, ofAggregateName?_append hpoint]
  simp [hns]

end Subscription

/-- The kinds of aggregates are kinds of install chains. -/
theorem Kind.isOlm_of_isOperator {kind : String} (h : isOperator kind = true) :
    isOlm kind = true := by
  unfold isOperator at h
  unfold isOlm
  rw [List.any_eq_true] at h ⊢
  obtain ⟨known, hknown, hsame⟩ := h
  have hsubset : ∀ known ∈ operatorKinds, known ∈ olmKinds := by decide
  exact ⟨known, hsubset known hknown, hsame⟩

namespace Violation

variable {template message cluster : String} {wanted : DesiredState} {settings : Settings}
  {violation : Violation} {call : ToolCall}

/-- A trace that a violation suggests is of a named resource, and of what is told about it. -/
theorem eq_trace_of_tool
    (hviolation : violation = ofMessage template message cluster wanted settings)
    (hcall : violation.call = some call) (htool : call.tool = ToolCall.traceTool) :
    (Message.resource message).name ≠ "" ∧
      call = .trace ((Subscription.told (Message.resource message) wanted).inUsual
        settings.operatorNs) cluster settings := by
  have hmade := suggest_made (Message.resource message) (Message.verdict message) cluster wanted
    settings
  rw [hviolation, call_ofMessage] at hcall
  generalize suggest (Message.resource message) (Message.verdict message) cluster wanted settings =
    suggestion at hmade hcall
  -- Of the calls that are made only one is of this tool.
  cases hmade with
  | trace hname _ =>
    cases hcall
    rw [Subscription.behind_eq]
    exact ⟨(presence_eq_some_iff.1 hname).1, rfl⟩
  | get =>
    cases hcall
    rw [ToolCall.tool_look] at htool
    exact absurd htool (by decide)
  | list =>
    cases hcall
    rw [ToolCall.tool_look] at htool
    exact absurd htool (by decide)
  | nothing => cases hcall

/-- A named resource of an install chain is traced. -/
theorem call_of_isOlm (template cluster : String) (wanted : DesiredState) (settings : Settings)
    {resource : Resource} (hresource : Message.resource message = resource)
    (hname : resource.name ≠ "") (hchain : Kind.isOlm resource.kind = true) :
    (ofMessage template message cluster wanted settings).call =
      some (.trace ((Subscription.told resource wanted).inUsual settings.operatorNs) cluster
        settings) := by
  have hname' : resource.name? = some resource.name := presence_eq_some_iff.2 ⟨hname, rfl⟩
  rw [call_ofMessage, hresource, suggest, hname', hchain, Bool.or_true, Subscription.behind_eq]
  rfl

end Violation

section

variable {template message cluster : String} {wanted : DesiredState} {settings : Settings}
  {violation : Violation} {call : ToolCall}

/-- A trace names its subscription in full exactly where the name is not that of an aggregate which
begins with the point, with no subscription wanted, and a namespace is told or usual. -/
theorem trace_named_iff
    (hviolation : violation = Violation.ofMessage template message cluster wanted settings)
    (hcall : violation.call = some call) (htool : call.tool = ToolCall.traceTool) :
    (∃ subscription, call.Traces subscription ∧ subscription.name ≠ "" ∧ subscription.ns ≠ "") ↔
      ¬ (Kind.isOperator (Message.resource message).kind = true ∧
          Subscription.first? wanted = none ∧
          (Message.resource message).name.toList.head? = some '.') ∧
        ((Subscription.told (Message.resource message) wanted).ns ≠ "" ∨
          settings.operatorNs ≠ "") := by
  obtain ⟨hname, rfl⟩ := Violation.eq_trace_of_tool hviolation hcall htool
  simp only [ToolCall.traces_trace_iff, exists_eq_left]
  exact Subscription.full_inUsual_told_iff hname wanted settings.operatorNs

/-- A message on an aggregate. -/
def Sample.drift : String :=
  "operators [web-terminal.openshift-web-terminal] found but not as specified"

/-- The sample names an aggregate after its subscription and namespace. -/
theorem Sample.resource_drift : Message.resource Sample.drift =
    ⟨"operators", "web-terminal.openshift-web-terminal", ""⟩ := by
  decide +kernel

/-- A trace of an aggregate, with no subscription wanted, names the subscription in full. -/
theorem trace_named_iff_aggregate :
    let violation := Violation.ofMessage "web" Sample.drift "sno-1" .empty {}
    ∃ call, violation.call = some call ∧ call.tool = ToolCall.traceTool ∧
      ∃ subscription, call.Traces subscription ∧ subscription.name ≠ "" ∧ subscription.ns ≠ "" := by
  have hcall := Violation.call_of_isOlm "web" "sno-1" .empty {} Sample.resource_drift (by decide)
    (by decide +kernel)
  refine ⟨_, hcall, rfl, (trace_named_iff rfl hcall rfl).2 ⟨?_, .inr (by decide)⟩⟩
  rw [Sample.resource_drift]
  decide +kernel

/-- A configuration that leaves the usual namespace empty is accepted, and a trace by it may have no
namespace. By the usual configuration a trace may have no name. -/
theorem trace_unnamed :
    (∃ config call,
      Config.load "doctor.toml" (.ok "[diagnosis]\ndefault_operator_namespace = \"\"\n") =
        .ok config ∧
      (Violation.ofMessage "ptp" "subscriptions [ptp-operator] not found" "sno-1" .empty
        config.triage).call = some call ∧
      call.Traces ⟨"ptp-operator", ""⟩) ∧
    ∃ config call, Config.load "doctor.toml" (.ok "") = .ok config ∧
      (Violation.ofMessage "lvms" "operators [.openshift-storage] not found" "sno-1" .empty
        config.triage).call = some call ∧
      call.Traces ⟨"", "openshift-storage"⟩ := by
  have hempty : Config.load "doctor.toml"
      (.ok "[diagnosis]\ndefault_operator_namespace = \"\"\n") =
        .ok { triage := { operatorNs := "" } } :=
    Config.load_eq_ok_iff.2 ⟨_, rfl, by decide +kernel, by decide, by decide⟩
  have husual : Config.load "doctor.toml" (.ok "") = .ok {} :=
    Config.load_eq_ok_iff.2 ⟨_, rfl, by decide +kernel, by decide, by decide⟩
  have hptp : Message.resource "subscriptions [ptp-operator] not found" =
      ⟨"subscriptions", "ptp-operator", ""⟩ := by decide +kernel
  have hlvms : Message.resource "operators [.openshift-storage] not found" =
      ⟨"operators", ".openshift-storage", ""⟩ := by decide +kernel
  -- The one traces what the message names, and the other what its name is cut to.
  refine ⟨⟨_, _, hempty, Violation.call_of_isOlm _ _ _ _ hptp (by decide) (by decide +kernel), ?_⟩,
    ⟨_, _, husual, Violation.call_of_isOlm _ _ _ _ hlvms (by decide) (by decide +kernel), ?_⟩⟩
  · rw [ToolCall.traces_trace_iff]
    decide +kernel
  · rw [ToolCall.traces_trace_iff]
    decide +kernel

/-- An aggregate is always traced, and what is traced is the subscription that its name says exactly
where this comes first of all that are wanted, or none is wanted. -/
theorem trace_aggregate_iff {kind name ns : String}
    (hviolation : violation = Violation.ofMessage template message cluster wanted settings)
    (hkind : violation.resourceKind = some kind) (hoperator : Kind.isOperator kind = true)
    (hname : violation.resourceName = some (name ++ "." ++ ns)) (hpoint : '.' ∉ name.toList)
    (hns : ns ≠ "") :
    ∃ call, violation.call = some call ∧ call.tool = ToolCall.traceTool ∧
      (call.Traces ⟨name, ns⟩ ↔ ∀ first, Subscription.first? wanted = some first →
        first.inUsual (violation.resourceNs.getD settings.operatorNs) = ⟨name, ns⟩) := by
  rw [hviolation, Violation.resourceKind_ofMessage] at hkind
  rw [hviolation, Violation.resourceName_ofMessage] at hname
  rw [hviolation, Violation.resourceNs_ofMessage]
  obtain ⟨-, rfl⟩ := presence_eq_some_iff.1 hkind
  obtain ⟨hpresent, hname'⟩ := presence_eq_some_iff.1 hname
  refine ⟨_, Violation.call_of_isOlm template cluster wanted settings rfl hpresent
    (Kind.isOlm_of_isOperator hoperator), rfl, ?_⟩
  rw [ToolCall.traces_trace_iff]
  -- Where one is wanted, it is traced; where none is, the name of the aggregate says all.
  cases hfirst : Subscription.first? wanted with
  | none =>
    rw [Subscription.inUsual_told_of_name hoperator hfirst hname' hpoint hns]
    simp
  | some first =>
    rw [Subscription.inUsual_told_of_first? hoperator hfirst]
    constructor
    · rintro htold _ ⟨⟩
      exact htold.symm
    · intro hall
      exact (hall first rfl).symm

/-- A subscription as a policy declares it. -/
def Sample.subscription (name ns : String) : Value :=
  .object [("kind", .string "Subscription"),
    ("metadata", .object [("name", .string name), ("namespace", .string ns)])]

/-- Two subscriptions that one template declares. -/
def Sample.operators : DesiredState :=
  (DesiredState.empty.insert ⟨"operators", "Subscription", "lvms-operator"⟩
    (Sample.subscription "lvms-operator" "openshift-storage")).insert
      ⟨"operators", "Subscription", "web-terminal"⟩
      (Sample.subscription "web-terminal" "openshift-web-terminal")

/-- The aggregate of the first of the two is traced as its name says. -/
theorem trace_aggregate_iff_first :
    let violation := Violation.ofMessage "operators"
      "operators [lvms-operator.openshift-storage] not found" "sno-1" Sample.operators {}
    violation.resourceKind = some "operators" ∧ Kind.isOperator "operators" = true ∧
      violation.resourceName = some ("lvms-operator" ++ "." ++ "openshift-storage") ∧
      '.' ∉ "lvms-operator".toList ∧ "openshift-storage" ≠ "" ∧
      ∃ call, violation.call = some call ∧
        call.Traces ⟨"lvms-operator", "openshift-storage"⟩ := by
  intro violation
  have hresource : Message.resource "operators [lvms-operator.openshift-storage] not found" =
      ⟨"operators", "lvms-operator.openshift-storage", ""⟩ := by decide +kernel
  have hkind : violation.resourceKind = some "operators" := by
    rw [Violation.resourceKind_ofMessage, hresource]
    rfl
  have hoperator : Kind.isOperator "operators" = true := by decide +kernel
  have hname : violation.resourceName = some ("lvms-operator" ++ "." ++ "openshift-storage") := by
    rw [Violation.resourceName_ofMessage, hresource]
    rfl
  have hpoint : '.' ∉ "lvms-operator".toList := by decide
  have hns : "openshift-storage" ≠ "" := by decide
  have hfirst : Subscription.first? Sample.operators =
      some ⟨"lvms-operator", "openshift-storage"⟩ := by decide +kernel
  -- By their keys it comes first of the two, and so it is the one that is traced.
  obtain ⟨call, hcall, -, htraces⟩ := trace_aggregate_iff rfl hkind hoperator hname hpoint hns
  refine ⟨hkind, hoperator, hname, hpoint, hns, call, hcall, htraces.2 fun first hfirst' => ?_⟩
  rw [hfirst] at hfirst'
  cases hfirst'
  rfl

/-- The aggregate of the second of the two is traced as the first, although the second is wanted
under the very name of the aggregate. -/
theorem trace_other_than_named :
    let violation := Violation.ofMessage "operators" Sample.drift "sno-1" Sample.operators {}
    violation.resourceKind = some "operators" ∧ Kind.isOperator "operators" = true ∧
      violation.resourceName = some ("web-terminal" ++ "." ++ "openshift-web-terminal") ∧
      (∃ key resource, Sample.operators.get? key = some resource ∧
        Subscription.ofResource? resource = some ⟨"web-terminal", "openshift-web-terminal"⟩) ∧
      ∃ call, violation.call = some call ∧ call.Traces ⟨"lvms-operator", "openshift-storage"⟩ ∧
        ¬ call.Traces ⟨"web-terminal", "openshift-web-terminal"⟩ := by
  intro violation
  have hkind : violation.resourceKind = some "operators" := by
    rw [Violation.resourceKind_ofMessage, Sample.resource_drift]
    rfl
  have hname : violation.resourceName =
      some ("web-terminal" ++ "." ++ "openshift-web-terminal") := by
    rw [Violation.resourceName_ofMessage, Sample.resource_drift]
    rfl
  have hcall := Violation.call_of_isOlm "operators" "sno-1" Sample.operators {}
    Sample.resource_drift (by decide) (by decide +kernel)
  -- What is told is the first subscription that is wanted, whatever the message names.
  have htold : (Subscription.told ⟨"operators", "web-terminal.openshift-web-terminal", ""⟩
      Sample.operators).inUsual "openshift-operators" = ⟨"lvms-operator", "openshift-storage"⟩ := by
    decide +kernel
  refine ⟨hkind, by decide +kernel, hname,
    ⟨_, _, DesiredState.get?_insert_self _ _ _, by decide +kernel⟩, _, hcall, ?_, ?_⟩
  · rw [ToolCall.traces_trace_iff, htold]
  · rw [ToolCall.traces_trace_iff, htold]
    decide

end

end ComplianceTriage
