import ComplianceTriage.Proofs.Survey

/-!
# Both commands agree

Diagnosis and inspection go through the clusters of a policy on their own, filter them in different
orders and judge messages by different functions. Where both run to their end, they still tell of
the same: `diagnose_inspect_agree` compares their results, the fetches they start, their clusters
and their violations.

The comparison goes down the data: a message that both read (`tellsOf_ofMessage`), the details of a
copy, the answer to the fetch of a copy (`forall₂_ofAnswer`), and the list of all targets. Only the
verdicts may differ, and only one way: a diagnosis takes a named resource of an install chain for
stuck whatever its message says.
-/

namespace ComplianceTriage

/-- Whether a violation is of a named resource of an operator's install chain. -/
def Violation.isOfChain (violation : Violation) : Bool :=
  violation.resourceName.isSome && violation.resourceKind.any Kind.isOlm

/-- The violations of a cluster that an inspection tells of too: none if the copy could not be
fetched. -/
def ClusterDiagnosis.sharedIssues (access : Access) (copy : String) (diagnosis : ClusterDiagnosis) :
    List (String × Violation) :=
  match access.get .policy copy diagnosis.cluster with
  | .ok _ => diagnosis.issues.map fun issue => (diagnosis.cluster, issue)
  | .error _ => []

/-- A finding tells of a violation on a cluster: they agree in all that both have but the verdict,
which a diagnosis may raise to a stuck chain. -/
structure Finding.TellsOf (finding : Finding) (issue : String × Violation) : Prop where
  cluster_eq : finding.cluster = some issue.1
  template_eq : finding.template = issue.2.template
  resourceKind_eq : finding.resourceKind = issue.2.resourceKind
  resourceName_eq : finding.resourceName = issue.2.resourceName
  resourceNs_eq : finding.resourceNs = issue.2.resourceNs
  message_eq : finding.message = issue.2.message
  verdict_eq : issue.2.verdict = if issue.2.isOfChain then .olmStuck else finding.verdict

/-- The results of both commands, as far as every policy has them. -/
inductive SameOutcome : Except Failure Diagnosis → Except Failure Inspection → Prop where
  /-- Both commands fail with the same failure. -/
  | failed (failure : Failure) : SameOutcome (.error failure) (.error failure)
  /-- Both commands report on one policy. -/
  | reported {diagnosis : Diagnosis} {inspection : Inspection}
      (policy_eq : diagnosis.policy = inspection.policy)
      (ns_eq : diagnosis.ns = inspection.ns)
      (state_eq : diagnosis.state = inspection.state) :
      SameOutcome (.ok diagnosis) (.ok inspection)

/-- The reports of both commands on a policy whose states of clusters are reported on. -/
structure SameReport (access : Access) (copy : String) (diagnosis : Diagnosis)
    (inspection : Inspection) : Prop where
  /-- The clusters of the diagnosis are the affected ones that are not compliant. -/
  clusters_eq : diagnosis.clusters.map ClusterDiagnosis.clusterState =
    inspection.affected.filter fun s => s.state ≠ compliant
  /-- The violations on clusters are the issues of these, in order. -/
  violations : List.Forall₂ Finding.TellsOf
    (inspection.violations.filter fun finding => finding.cluster.isSome)
    (diagnosis.clusters.flatMap (ClusterDiagnosis.sharedIssues access copy))

/-! ## Messages -/

/-- A suggestion changes a verdict only for named resources of an install chain. -/
theorem suggest_verdict (resource : Resource) (verdict : Verdict) (cluster : String)
    (wanted : DesiredState) (settings : Settings) :
    (suggest resource verdict cluster wanted settings).verdict =
      if resource.name?.isSome && Kind.isOlm resource.kind then .olmStuck else verdict := by
  unfold suggest
  -- Only a named resource can be traced.
  cases resource.name? with
  | none => cases resource.kind? <;> rfl
  | some name =>
    cases hchain : Kind.isOlm resource.kind with
    | true => simp
    | false =>
      -- A verdict that is stuck already stays so.
      by_cases hstuck : verdict = .olmStuck
      · simp [hstuck]
      · cases resource.kind? <;> simp [hstuck]

/-- A kind that a message does not name is of no class that leaves out the empty text. -/
theorem Resource.any_kind? (resource : Resource) {ofClass : String → Bool}
    (hempty : ofClass "" = false) : resource.kind?.any ofClass = ofClass resource.kind := by
  unfold kind? presence
  split
  · next hkind =>
    rw [hkind, hempty]
    rfl
  · rfl

/-- A kind that a message does not name belongs to no install chain. -/
theorem Resource.any_isOlm_kind? (resource : Resource) :
    resource.kind?.any Kind.isOlm = Kind.isOlm resource.kind :=
  resource.any_kind? (by decide)

/-- Both commands read one message alike. -/
theorem tellsOf_ofMessage (template message cluster : String) (wanted : DesiredState)
    (settings : Settings) :
    Finding.TellsOf
      ⟨template, some cluster, Message.verdict message, (Message.resource message).kind?,
        (Message.resource message).name?, (Message.resource message).ns?,
        Message.truncate message settings.messageLimit⟩
      (cluster, Violation.ofMessage template message cluster wanted settings) where
  cluster_eq := rfl
  template_eq := rfl
  resourceKind_eq := rfl
  resourceName_eq := rfl
  resourceNs_eq := rfl
  message_eq := rfl
  verdict_eq := by
    -- The violation shows no kind where the message gives the empty one, which is of no chain.
    have hchain : (Violation.ofMessage template message cluster wanted settings).isOfChain =
        ((Message.resource message).name?.isSome &&
          Kind.isOlm (Message.resource message).kind) := by
      rw [← Resource.any_isOlm_kind?]
      rfl
    rw [hchain]
    exact suggest_verdict _ _ cluster wanted settings

/-! ## Copies and clusters -/

/-- Both commands tell of the same details of a copy. -/
theorem forall₂_ofPolicy (policy : Value) (cluster : String) (wanted : DesiredState)
    (settings : Settings) :
    List.Forall₂ Finding.TellsOf (Finding.ofPolicy policy (some cluster) settings.messageLimit)
      ((Violation.ofPolicy policy cluster wanted settings).map fun issue => (cluster, issue)) := by
  unfold Finding.ofPolicy Violation.ofPolicy
  rw [List.map_map, List.forall₂_map_left_iff, List.forall₂_map_right_iff, List.forall₂_same]
  intro detail _
  exact tellsOf_ofMessage detail.template detail.message cluster wanted settings

section

variable (access : Access) (settings : Settings) (request : Request) (found : Resolved)

/-- Both commands make the same of the answer to the fetch of a copy. -/
theorem forall₂_ofAnswer (cluster : ClusterState) :
    List.Forall₂ Finding.TellsOf ((Inspection.survey access settings request).result found cluster)
      (ClusterDiagnosis.sharedIssues access (Policy.copyName found.ns request.policy)
        ((Diagnosis.survey access settings request).result found cluster)) := by
  unfold ClusterDiagnosis.sharedIssues Inspection.survey Diagnosis.survey
  dsimp only [Diagnosis.ofAnswer]
  unfold Inspection.ofAnswer
  cases access.get .policy (Policy.copyName found.ns request.policy) cluster.cluster with
  | error cause => exact .nil
  | ok policy => exact forall₂_ofPolicy policy cluster.cluster _ settings

/-- Both commands tell of the same violations on any clusters. -/
theorem forall₂_targets (targets : List ClusterState) :
    List.Forall₂ Finding.TellsOf
      (targets.flatMap ((Inspection.survey access settings request).result found))
      ((targets.map ((Diagnosis.survey access settings request).result found)).flatMap
        (ClusterDiagnosis.sharedIssues access (Policy.copyName found.ns request.policy))) := by
  induction targets with
  | nil => exact .nil
  | cons target targets ih =>
    rw [List.flatMap_cons, List.map_cons, List.flatMap_cons]
    exact List.rel_append (forall₂_ofAnswer access settings request found target) ih

/-- The violations of a complete inspection that have a cluster are those of the targets. -/
theorem filter_violations_complete :
    (((Inspection.survey access settings request).complete request found).violations.filter
      fun finding => finding.cluster.isSome) =
        (request.targets found).flatMap
          ((Inspection.survey access settings request).result found) := by
  -- What the policy itself tells of has no cluster, and all that its copies tell of has one.
  have hown : (Finding.ofPolicy found.policy none settings.messageLimit).filter
      (fun finding => finding.cluster.isSome) = [] := by
    rw [List.filter_eq_nil_iff]
    intro finding hfinding
    rw [Finding.cluster_of_mem hfinding]
    simp
  have hcopies : ((request.targets found).flatMap
      ((Inspection.survey access settings request).result found)).filter
        (fun finding => finding.cluster.isSome) =
      (request.targets found).flatMap
        ((Inspection.survey access settings request).result found) := by
    rw [List.filter_eq_self]
    intro finding hfinding
    obtain ⟨target, -, hresult⟩ := List.mem_flatMap.1 hfinding
    rw [Inspection.cluster_of_mem_result hresult]
    rfl
  rw [Inspection.violations_complete, List.filter_append, hown, hcopies, List.nil_append]

/-- Complete reports of both commands tell of the same clusters and violations, where any states of
clusters are reported on. -/
theorem sameReport_complete
    (h : Inspection.selected request (Policy.clusterStates found.policy) ≠ []) :
    SameReport access (Policy.copyName found.ns request.policy)
      ((Diagnosis.survey access settings request).complete request found)
      ((Inspection.survey access settings request).complete request found) := by
  have hstates : Policy.clusterStates found.policy ≠ [] := by
    rintro hnil
    rw [hnil] at h
    exact h rfl
  refine ⟨?_, ?_⟩
  -- The one filters by cluster and then by state, and so does the other, before it reports.
  · rw [Diagnosis.clusterStates_complete access settings request hstates,
      Inspection.affected_complete access settings request h]
    rfl
  · rw [filter_violations_complete, Diagnosis.clusters_complete access settings request hstates]
    exact forall₂_targets access settings request found (request.targets found)

end

/-! ## Commands -/

/-- The results of both courses are of one policy or one failure. -/
theorem sameOutcome_course (access : Access) (settings : Settings) (request : Request) :
    SameOutcome ((Diagnosis.survey access settings request).course access request).result
      ((Inspection.survey access settings request).course access request).result := by
  cases hfound : (Course.ofRequest access request).result with
  | error failure =>
    rw [Survey.course_of_error _ hfound, Survey.course_of_error _ hfound]
    exact .failed failure
  | ok found =>
    rw [Survey.course_of_ok _ hfound, Survey.course_of_ok _ hfound]
    exact .reported rfl rfl rfl

/-- Where both commands run to their end, they agree: on the policy or the failure, and where any
states of clusters are reported on, on the fetches, the clusters and the violations. -/
theorem diagnose_inspect_agree (access : Access) (settings : Settings) (request : Request)
    {conditions conditions' : Conditions}
    (hdiagnose : (conditions.outcome fun conditions =>
      diagnose access conditions settings request).2.cancelled = false)
    (hinspect : (conditions'.outcome fun conditions =>
      inspect access conditions settings request).2.cancelled = false) :
    SameOutcome (conditions.outcome fun conditions =>
        diagnose access conditions settings request).1
      (conditions'.outcome fun conditions => inspect access conditions settings request).1 ∧
    ∀ found, (Course.ofRequest access request).result = .ok found →
      (∃ s ∈ Policy.clusterStates found.policy, request.selects s.cluster) →
        (conditions.outcome fun conditions =>
            diagnose access conditions settings request).2.started =
          (conditions'.outcome fun conditions =>
            inspect access conditions settings request).2.started ∧
        ∃ diagnosis inspection,
          (conditions.outcome fun conditions => diagnose access conditions settings request).1 =
            .ok diagnosis ∧
          (conditions'.outcome fun conditions => inspect access conditions settings request).1 =
            .ok inspection ∧
          SameReport access (Policy.copyName found.ns request.policy) diagnosis inspection := by
  simp only [diagnose_eq_run] at hdiagnose ⊢
  simp only [inspect_eq_run] at hinspect ⊢
  obtain ⟨hresult, hstarted⟩ :=
    (Survey.ends _ access conditions settings.window_pos request).completed_of_not_cancelled
      hdiagnose
  obtain ⟨hresult', hstarted'⟩ :=
    (Survey.ends _ access conditions' settings.window_pos request).completed_of_not_cancelled
      hinspect
  -- Both end as their courses do, and the courses share the search and the targets.
  rw [hresult, hresult', hstarted, hstarted']
  refine ⟨sameOutcome_course access settings request, ?_⟩
  rintro found hfound ⟨s, hs, hselected⟩
  rw [Survey.course_of_ok _ hfound, Survey.course_of_ok _ hfound]
  refine ⟨rfl, _, _, rfl, rfl, sameReport_complete access settings request found ?_⟩
  exact List.ne_nil_of_mem (List.mem_filter.2 ⟨hs, hselected⟩)

/-- Both commands agree on the sample, where one message tells of a missing subscription: a
diagnosis takes it for a stuck chain, an inspection for a missing resource. -/
theorem diagnose_inspect_agree_sample :
    (Conditions.calm.outcome fun conditions =>
        diagnose Sample.hub conditions {} ⟨"drift", none, none⟩).2.cancelled = false ∧
      (Conditions.calm.outcome fun conditions =>
        inspect Sample.hub conditions {} ⟨"drift", none, none⟩).2.cancelled = false ∧
      ∃ diagnosis inspection,
        (Conditions.calm.outcome fun conditions =>
          diagnose Sample.hub conditions {} ⟨"drift", none, none⟩).1 = .ok diagnosis ∧
        (Conditions.calm.outcome fun conditions =>
          inspect Sample.hub conditions {} ⟨"drift", none, none⟩).1 = .ok inspection ∧
        SameReport Sample.hub "hub.drift" diagnosis inspection ∧
        (diagnosis.clusters.flatMap fun cluster => cluster.issues.map fun issue =>
            (cluster.cluster, issue.verdict, issue.resourceKind, issue.resourceName,
              issue.resourceNs, issue.message)) =
          [("east", .olmStuck, some "subscriptions", some "lvms", some "storage",
            "violation - subscriptions [lvms] not found in namespace storage")] ∧
        inspection.violations =
          [⟨"operators", some "east", .resourceMissing, some "subscriptions", some "lvms",
            some "storage",
            "violation - subscriptions [lvms] not found in namespace storage"⟩] := by
  have hdiagnose := diagnose_calm Sample.hub {} ⟨"drift", none, none⟩
  have hinspect := inspect_calm Sample.hub {} ⟨"drift", none, none⟩
  have hfound : (Course.ofRequest Sample.hub ⟨"drift", none, none⟩).result =
      .ok ⟨Sample.policy, "hub"⟩ := rfl
  have hstates : Policy.clusterStates Sample.policy =
      [⟨"east", "NonCompliant"⟩, ⟨"west", "Compliant"⟩] := by decide
  have hagree := (diagnose_inspect_agree Sample.hub {} ⟨"drift", none, none⟩ hdiagnose hinspect).2
    ⟨Sample.policy, "hub"⟩ hfound ⟨⟨"east", "NonCompliant"⟩, by rw [hstates]; simp, rfl⟩
  obtain ⟨-, diagnosis, inspection, hdiagnosis, hinspection, hsame⟩ := hagree
  -- Both reports are the complete ones, which can be evaluated.
  refine ⟨hdiagnose, hinspect, diagnosis, inspection, hdiagnosis, hinspection, hsame, ?_, ?_⟩
  · simp only [diagnose_eq_run] at hdiagnosis
    rw [Survey.report_eq_complete _ (Settings.window_pos {}) hfound hdiagnosis]
    decide +kernel
  · simp only [inspect_eq_run] at hinspection
    rw [Survey.report_eq_complete _ (Settings.window_pos {}) hfound hinspection]
    decide +kernel

end ComplianceTriage
