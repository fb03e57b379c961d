import ComplianceTriage.Proofs.Agreement

/-!
# Violations whose parts fit together

A violation puts side by side what four readings of one message have found: the resource that it
names, the verdict, the raise of the verdict where the kind is of an operator's install chain, and
the call to make next. They fit together in every case (`violation_coherent`): the tool of the call
is decided by what the violation itself shows, and what the violation shows is what the call is
about.

All of it is read off the four forms that a suggestion may take (`Suggestion.Made`), which
`suggest_made` shows to be all.
-/

namespace ComplianceTriage

/-- The forms that a suggestion about a resource may take, given the verdict on its message. -/
inductive Suggestion.Made (resource : Resource) (verdict : Verdict) (cluster : String)
    (wanted : DesiredState) (settings : Settings) : Suggestion → Prop where
  /-- A named resource of an install chain, by its message or by its kind, is traced. -/
  | trace {name : String} (name_eq : resource.name? = some name)
      (of_chain : verdict = .olmStuck ∨ Kind.isOlm resource.kind = true) :
      Made resource verdict cluster wanted settings
        ⟨.olmStuck, some (.trace (.behind resource wanted settings) cluster settings)⟩
  /-- Any other resource of a kind and a name is looked at. -/
  | get {kind name : String} (kind_eq : resource.kind? = some kind)
      (name_eq : resource.name? = some name) (not_stuck : verdict ≠ .olmStuck) :
      Made resource verdict cluster wanted settings
        ⟨verdict, some (.look ToolCall.getTool (Text.lowerString kind ++ "/" ++ name) resource.ns?
          cluster settings)⟩
  /-- Without a name, the resources of the kind are listed. -/
  | list {kind : String} (kind_eq : resource.kind? = some kind) (name_eq : resource.name? = none) :
      Made resource verdict cluster wanted settings
        ⟨verdict, some (.look ToolCall.listTool (Text.lowerString kind) resource.ns? cluster
          settings)⟩
  /-- Without a kind there is nothing to do about a resource that is of no stuck chain. -/
  | nothing (kind_eq : resource.kind? = none)
      (not_stuck : resource.name? ≠ none → verdict ≠ .olmStuck) :
      Made resource verdict cluster wanted settings ⟨verdict, none⟩

/-- Every suggestion takes one of these forms. -/
theorem suggest_made (resource : Resource) (verdict : Verdict) (cluster : String)
    (wanted : DesiredState) (settings : Settings) :
    Suggestion.Made resource verdict cluster wanted settings
      (suggest resource verdict cluster wanted settings) := by
  unfold suggest
  -- The cases are those of the resource: without a name, and with one.
  cases hname : resource.name? with
  | none =>
    cases hkind : resource.kind? with
    | none => exact .nothing hkind fun hnone => absurd hname hnone
    | some kind => exact .list hkind hname
  | some name =>
    dsimp only
    split
    -- The message or the kind signals a stuck chain.
    · next hsignal => exact .trace hname (by simpa using hsignal)
    · next hsignal =>
      have hopen : verdict ≠ .olmStuck := by
        rintro rfl
        simp at hsignal
      cases hkind : resource.kind? with
      | none => exact .nothing hkind fun _ => hopen
      | some kind => exact .get hkind hname hopen

/-- What is wanted matters to a suggestion only where it traces a named aggregate. -/
theorem suggest_congr {resource : Resource}
    (h : (resource.name?.isSome && Kind.isOperator resource.kind) = false) (verdict : Verdict)
    (cluster : String) (wanted wanted' : DesiredState) (settings : Settings) :
    suggest resource verdict cluster wanted settings =
      suggest resource verdict cluster wanted' settings := by
  unfold suggest
  cases hname : resource.name? with
  | none => cases resource.kind? <;> rfl
  | some name =>
    have hoperator : Kind.isOperator resource.kind = false := by simpa [hname] using h
    -- What is wanted is looked at only for an operator.
    have hbehind : Subscription.behind resource wanted settings =
        Subscription.behind resource wanted' settings := by
      unfold Subscription.behind
      rw [hoperator]
      rfl
    rw [hbehind]

/-! ## Calls -/

namespace ToolCall

variable (subscription : Subscription) (tool target cluster : String) (ns? : Option String)
  (settings : Settings)

/-- A trace calls the tool for tracing. -/
@[simp]
theorem tool_trace : (trace subscription cluster settings).tool = traceTool := rfl

/-- A look calls the tool that it is made for. -/
@[simp]
theorem tool_look : (look tool target ns? cluster settings).tool = tool := rfl

/-- A trace goes to the server of the settings. -/
@[simp]
theorem server_trace : (trace subscription cluster settings).server = settings.server := rfl

/-- A look goes to the server of the settings. -/
@[simp]
theorem server_look : (look tool target ns? cluster settings).server = settings.server := rfl

/-- A trace is on the cluster that it is made for. -/
@[simp]
theorem cluster_trace :
    Fields.get? (trace subscription cluster settings).args "cluster" = some (.string cluster) :=
  rfl

/-- A look is on the cluster that it is made for. -/
@[simp]
theorem cluster_look :
    Fields.get? (look tool target ns? cluster settings).args "cluster" =
      some (.string cluster) :=
  rfl

/-- A look is at the resource that it is made for. -/
@[simp]
theorem resource_look :
    Fields.get? (look tool target ns? cluster settings).args "resource" =
      some (.string target) :=
  rfl

/-- A look goes to a namespace if one is known. -/
@[simp]
theorem namespace_look :
    Fields.get? (look tool target ns? cluster settings).args "namespace" = ns?.map .string := by
  cases ns? <;> rfl

end ToolCall

/-! ## Violations -/

namespace Violation

/-- Whether a violation suggests to call a tool. -/
def Suggests (violation : Violation) (tool : String) : Prop :=
  violation.call.map ToolCall.tool = some tool

/-- Whether a violation is of a named aggregate of all that belongs to a subscription. -/
def isOfAggregate (violation : Violation) : Bool :=
  violation.resourceName.isSome && violation.resourceKind.any Kind.isOperator

/-- A violation that fits together, with the message and the cluster that it is of. -/
structure Coherent (violation : Violation) (message cluster : String) (settings : Settings) :
    Prop where
  /-- What is traced are the named resources of stuck chains. -/
  trace_iff : violation.Suggests ToolCall.traceTool ↔
    violation.resourceName ≠ none ∧ violation.verdict = .olmStuck
  /-- What is looked at are all other resources of a kind and a name. -/
  get_iff : violation.Suggests ToolCall.getTool ↔
    violation.resourceKind ≠ none ∧ violation.resourceName ≠ none ∧ violation.verdict ≠ .olmStuck
  /-- What is listed are the kinds that come without a name. -/
  list_iff : violation.Suggests ToolCall.listTool ↔
    violation.resourceKind ≠ none ∧ violation.resourceName = none
  /-- There is no call in any other case. -/
  none_iff : violation.call = none ↔
    violation.resourceKind = none ∧ (violation.resourceName = none ∨ violation.verdict ≠ .olmStuck)
  /-- The verdict is that on the message, unless a named resource of an install chain raises it. -/
  verdict_raised : violation.verdict ≠ Message.verdict message →
    violation.verdict = .olmStuck ∧ violation.isOfChain = true
  server_eq : ∀ call, violation.call = some call → call.server = settings.server
  cluster_eq : ∀ call, violation.call = some call →
    Fields.get? call.args "cluster" = some (.string cluster)
  /-- A call that does not trace goes to the namespace that the violation shows, if any. -/
  namespace_eq : ∀ call, violation.call = some call →
    call.tool = ToolCall.getTool ∨ call.tool = ToolCall.listTool →
      Fields.get? call.args "namespace" = violation.resourceNs.map .string

section

variable {resource : Resource} {message cluster : String} {wanted : DesiredState}
  {settings : Settings} {suggestion : Suggestion}

/-- A violation fits together if its suggestion is one about the resource that it shows. -/
theorem coherent_of_made
    (hmade : Suggestion.Made resource (Message.verdict message) cluster wanted settings suggestion)
    (template text : String) (desired : Option Value) :
    Coherent ⟨suggestion.verdict, template, resource.kind?, resource.name?, resource.ns?, text,
      desired, suggestion.call⟩ message cluster settings where
  trace_iff := by
    cases hmade with
    | trace hname hchain => simp [Suggests, hname]
    | get hkind hname hopen => simp [Suggests, ToolCall.getTool, ToolCall.traceTool, hopen]
    | list hkind hname => simp [Suggests, ToolCall.listTool, ToolCall.traceTool, hname]
    | nothing hkind hopen => simpa [Suggests] using hopen
  get_iff := by
    cases hmade with
    | trace hname hchain => simp [Suggests, ToolCall.traceTool, ToolCall.getTool]
    | get hkind hname hopen => simp [Suggests, hkind, hname, hopen]
    | list hkind hname => simp [Suggests, ToolCall.listTool, ToolCall.getTool, hname]
    | nothing hkind hopen => simp [Suggests, hkind]
  list_iff := by
    cases hmade with
    | trace hname hchain => simp [Suggests, ToolCall.traceTool, ToolCall.listTool, hname]
    | get hkind hname hopen => simp [Suggests, ToolCall.getTool, ToolCall.listTool, hname]
    | list hkind hname => simp [Suggests, hkind, hname]
    | nothing hkind hopen => simp [Suggests, hkind]
  none_iff := by
    cases hmade with
    | trace hname hchain => simp [hname]
    | get hkind hname hopen => simp [hkind]
    | list hkind hname => simp [hkind]
    | nothing hkind hopen => simpa [hkind, Decidable.or_iff_not_imp_left] using hopen
  verdict_raised := by
    intro hraised
    cases hmade with
    | trace hname hchain =>
      -- It is not the message that calls the chain stuck, so it is the kind.
      have hkind : Kind.isOlm resource.kind = true := hchain.resolve_left (Ne.symm hraised)
      refine ⟨rfl, ?_⟩
      unfold isOfChain
      rw [Resource.any_isOlm_kind?, hname, hkind]
      rfl
    | get hkind hname hopen => exact absurd rfl hraised
    | list hkind hname => exact absurd rfl hraised
    | nothing hkind hopen => exact absurd rfl hraised
  server_eq := by
    cases hmade <;> simp
  cluster_eq := by
    cases hmade <;> simp
  namespace_eq := by
    cases hmade with
    | trace hname hchain => simp [ToolCall.traceTool, ToolCall.getTool, ToolCall.listTool]
    | get hkind hname hopen => simp
    | list hkind hname => simp
    | nothing hkind hopen => simp

end

end Violation

/-- The parts of a violation fit together, whatever its message says. What is wanted decides on the
suggestion only where the violation is of a named aggregate. -/
theorem violation_coherent (template message cluster : String) (wanted : DesiredState)
    (settings : Settings) :
    (Violation.ofMessage template message cluster wanted settings).Coherent message cluster
        settings ∧
      ((Violation.ofMessage template message cluster wanted settings).isOfAggregate = false →
        ∀ wanted',
          (Violation.ofMessage template message cluster wanted' settings).verdict =
              (Violation.ofMessage template message cluster wanted settings).verdict ∧
            (Violation.ofMessage template message cluster wanted' settings).call =
              (Violation.ofMessage template message cluster wanted settings).call) := by
  constructor
  · exact Violation.coherent_of_made (suggest_made _ _ cluster wanted settings) template _ _
  · intro haggregate wanted'
    unfold Violation.isOfAggregate Violation.ofMessage at haggregate
    dsimp only at haggregate
    rw [Resource.any_kind? _ (by decide)] at haggregate
    have hsame := suggest_congr haggregate (Message.verdict message) cluster wanted' wanted settings
    exact ⟨congrArg Suggestion.verdict hsame, congrArg Suggestion.call hsame⟩

end ComplianceTriage
