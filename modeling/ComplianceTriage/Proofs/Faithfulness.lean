import ComplianceTriage.Proofs.Survey

/-!
# Diagnoses are faithful

A diagnosis is made from untyped trees, in which entries may be junk and any field may be missing or
of another type, and from fetches, any of which may fail. Nothing is lost, invented or reordered on
the way: `Diagnosis.Faithful` says so entry by entry, of the trees as they came, and
`diagnose_faithful` shows it of every diagnosis that was not cancelled and not asked for one cluster
only.

The clusters of a diagnosis stand against the entries of the policy about its clusters, and the
issues of a cluster against the details of its copy. Both are lists of which some entries are passed
over, so that the reports are compared with what is left (`Policy.clusterEntries`,
`Policy.openDetails`), element by element and in order.
-/

namespace ComplianceTriage

namespace Policy

/-- The message that the history of a template starts with. -/
def latest? (entry : Value) : Option Value :=
  (entry.itemsAt ["history"]).head?

/-- Whether there is something to tell of a template: it is not said to be compliant, and its
history starts with an object. -/
def isOpen (entry : Value) : Bool :=
  entry.textAt? ["compliant"] ≠ some compliant && (latest? entry).any Value.isObject

/-- The details of a policy of which there is something to tell. -/
def openDetails (policy : Value) : List Value :=
  (policy.itemsAt ["status", "details"]).filter isOpen

end Policy

namespace Violation

/-- An issue tells of the details of a template on a cluster: it is what the message says that the
history starts with. The rest of the history has no part in it. -/
def TellsOf (issue : Violation) (entry : Value) (cluster : String) (wanted : DesiredState)
    (settings : Settings) : Prop :=
  ∃ latest, Policy.latest? entry = some latest ∧
    issue = ofMessage (entry.textAt ["templateMeta", "name"]) (latest.textAt ["message"]) cluster
      wanted settings

/-- Some issues tell of all open details of a policy on a cluster, one of each and in order. -/
def TellOf (issues : List Violation) (policy : Value) (cluster : String) (wanted : DesiredState)
    (settings : Settings) : Prop :=
  List.Forall₂ (fun entry issue => TellsOf issue entry cluster wanted settings)
    (Policy.openDetails policy) issues

/-- An issue says only that a copy could not be fetched. -/
structure IsFetchFailure (issue : Violation) (copy cluster : String) : Prop where
  verdict_eq : issue.verdict = .unknown
  template_eq : issue.template = ""
  resourceKind_eq : issue.resourceKind = none
  resourceName_eq : issue.resourceName = none
  resourceNs_eq : issue.resourceNs = none
  message_eq : issue.message =
    "Could not fetch propagated policy " ++ copy ++ " in namespace " ++ cluster
  desired_eq : issue.desired = none
  call_eq : issue.call = none

end Violation

/-- What a diagnosis says of a cluster is what the policy's entry about it says, and what its copy
says or that there is none. -/
structure ClusterDiagnosis.Faithful (diagnosis : ClusterDiagnosis) (entry : Value) (access : Access)
    (copy : String) (wanted : DesiredState) (settings : Settings) : Prop where
  cluster_eq : diagnosis.cluster = entry.textAt ["clustername"]
  state_eq : diagnosis.state = entry.textAt ["compliant"]
  /-- The issues of a cluster whose copy was fetched are those of the copy. -/
  fetched : ∀ policy, access.get .policy copy diagnosis.cluster = .ok policy →
    Violation.TellOf diagnosis.issues policy diagnosis.cluster wanted settings
  /-- A cluster whose copy could not be fetched has one issue that says so. -/
  failed : ∀ cause, access.get .policy copy diagnosis.cluster = .error cause →
    ∃ issue, diagnosis.issues = [issue] ∧ issue.IsFetchFailure copy diagnosis.cluster

/-- A diagnosis of a policy says of its clusters what the policy and its copies say. -/
structure Diagnosis.Faithful (diagnosis : Diagnosis) (found : Resolved) (access : Access)
    (settings : Settings) (request : Request) : Prop where
  policy_eq : diagnosis.policy = request.policy
  ns_eq : diagnosis.ns = found.ns
  state_eq : diagnosis.state = found.policy.textAt ["status", "compliant"]
  /-- The summary counts the issues of all clusters, and the clusters. -/
  summary_eq : diagnosis.summary =
    "Found " ++ toString (diagnosis.clusters.flatMap fun cluster => cluster.issues).length ++
      " issue(s) across " ++ toString diagnosis.clusters.length ++ " non-compliant cluster(s). " ++
        "Follow the suggested_tool_call in each issue to continue investigation."
  /-- Where the policy has entries about its clusters, the clusters are those of the entries that
  are not compliant, one for each and in order. -/
  listed : Policy.clusterEntries found.policy ≠ [] →
    List.Forall₂
      (fun entry cluster => ClusterDiagnosis.Faithful cluster entry access
        (Policy.copyName found.ns request.policy) (DesiredState.ofPolicy found.policy) settings)
      ((Policy.clusterEntries found.policy).filter fun entry =>
        entry.textAt ["compliant"] ≠ compliant)
      diagnosis.clusters
  /-- Where it has none and is not compliant itself, its namespace is the only cluster. -/
  own : Policy.clusterEntries found.policy = [] →
    Policy.state found.policy ≠ "" → Policy.state found.policy ≠ compliant →
      ∃ issues, diagnosis.clusters = [⟨found.ns, Policy.state found.policy, issues⟩] ∧
        Violation.TellOf issues found.policy found.ns (DesiredState.ofPolicy found.policy) settings
  /-- Where it has none and is compliant, or of no state, there are no clusters. -/
  nothing : Policy.clusterEntries found.policy = [] →
    Policy.state found.policy = "" ∨ Policy.state found.policy = compliant →
      diagnosis.clusters = []

/-! ## Details -/

namespace Policy

/-- Of a template whose history starts with an object, this object is read. -/
theorem detail?_eq (entry : Value) :
    detail? entry = ((latest? entry).filter Value.isObject).map fun latest =>
      ⟨entry.textAt ["templateMeta", "name"], latest.textAt ["message"]⟩ := by
  unfold detail? latest?
  cases entry.itemsAt ["history"] with
  | nil => rfl
  | cons latest older => cases hobject : latest.isObject <;> simp [Option.filter, hobject]

/-- A template has a detail if its history starts with an object. -/
theorem isSome_detail? (entry : Value) :
    (detail? entry).isSome = (latest? entry).any Value.isObject := by
  rw [detail?_eq]
  cases latest? entry with
  | none => rfl
  | some latest => cases hobject : latest.isObject <;> simp [Option.filter, hobject]

/-- A detail is read from the start of the history. -/
theorem detail?_eq_some {entry : Value} {detail : Detail} (h : detail? entry = some detail) :
    ∃ latest, latest? entry = some latest ∧
      detail = ⟨entry.textAt ["templateMeta", "name"], latest.textAt ["message"]⟩ := by
  rw [detail?_eq, Option.map_eq_some_iff] at h
  obtain ⟨latest, hlatest, rfl⟩ := h
  exact ⟨latest, (Option.filter_eq_some_iff.1 hlatest).1, rfl⟩

/-- The details that a diagnosis goes through are read from the open ones, one of each and in
order. -/
theorem forall₂_details (policy : Value) :
    List.Forall₂ (fun entry detail => detail? entry = some detail) (openDetails policy)
      (details policy) := by
  -- An entry that is open has a detail, and no other entry that is gone through has one.
  have hopen : openDetails policy =
      ((policy.itemsAt ["status", "details"]).filter fun entry =>
        entry.textAt? ["compliant"] ≠ some compliant).filter fun entry =>
          (detail? entry).isSome := by
    rw [List.filter_filter]
    unfold openDetails
    refine List.filter_congr fun entry _ => ?_
    rw [isSome_detail?, isOpen, Bool.and_comm]
  rw [hopen, details]
  -- Passing over entries and reading what is left is the same as reading where it can be done.
  generalize (policy.itemsAt ["status", "details"]).filter _ = entries
  induction entries with
  | nil => exact .nil
  | cons entry entries ih =>
    cases hdetail : detail? entry with
    | none => simpa [hdetail] using ih
    | some detail => simpa [hdetail] using ih

end Policy

/-- The issues of a policy tell of its open details. -/
theorem Violation.tellOf_ofPolicy (policy : Value) (cluster : String) (wanted : DesiredState)
    (settings : Settings) : TellOf (ofPolicy policy cluster wanted settings) policy cluster wanted
      settings := by
  unfold TellOf ofPolicy
  rw [List.forall₂_map_right_iff]
  refine (Policy.forall₂_details policy).imp fun entry detail hdetail => ?_
  obtain ⟨latest, hlatest, rfl⟩ := Policy.detail?_eq_some hdetail
  exact ⟨latest, hlatest, rfl⟩

/-- What tells of an entry is determined by it. -/
theorem Violation.TellsOf.unique {issue issue' : Violation} {entry : Value} {cluster : String}
    {wanted : DesiredState} {settings : Settings} (h : issue.TellsOf entry cluster wanted settings)
    (h' : issue'.TellsOf entry cluster wanted settings) : issue = issue' := by
  obtain ⟨latest, hlatest, rfl⟩ := h
  obtain ⟨latest', hlatest', rfl⟩ := h'
  rw [hlatest, Option.some.injEq] at hlatest'
  rw [hlatest']

/-- So issues that tell of all open details of a policy are those that it has. -/
theorem Violation.TellOf.eq_ofPolicy {issues : List Violation} {policy : Value} {cluster : String}
    {wanted : DesiredState} {settings : Settings}
    (h : TellOf issues policy cluster wanted settings) :
    issues = ofPolicy policy cluster wanted settings :=
  List.right_unique_forall₂' (fun _ _ _ h h' => h.unique h') h
    (tellOf_ofPolicy policy cluster wanted settings)

/-- The issue that stands for a copy says only that it could not be fetched. -/
theorem Violation.isFetchFailure_fetchFailure (copy cluster : String) :
    (fetchFailure copy cluster).IsFetchFailure copy cluster :=
  ⟨rfl, rfl, rfl, rfl, rfl, rfl, rfl, rfl⟩

/-! ## Clusters -/

namespace Diagnosis

/-- Whatever the answer to the fetch of a copy is, what is made of it is faithful. -/
theorem faithful_ofAnswer (entry : Value) (access : Access) (copy : String) (wanted : DesiredState)
    (settings : Settings) :
    (ofAnswer copy wanted settings (Policy.entryState entry)
      (access.get .policy copy (Policy.entryState entry).cluster)).Faithful entry access copy wanted
        settings where
  cluster_eq := rfl
  state_eq := rfl
  fetched policy hpolicy := by
    unfold ofAnswer at hpolicy ⊢
    dsimp only at hpolicy ⊢
    rw [hpolicy]
    exact Violation.tellOf_ofPolicy policy _ wanted settings
  failed cause hcause := by
    unfold ofAnswer at hcause ⊢
    dsimp only at hcause ⊢
    rw [hcause]
    exact ⟨_, rfl, Violation.isFetchFailure_fetchFailure copy _⟩

section

variable (access : Access) (settings : Settings) {request : Request} {found : Resolved}

/-- A request for no cluster in particular is about those of the entries that are not compliant. -/
theorem targets_eq_map (hall : request.onlyCluster? = none) :
    request.targets found =
      ((Policy.clusterEntries found.policy).filter fun entry =>
        entry.textAt ["compliant"] ≠ compliant).map Policy.entryState := by
  rw [Request.targets_eq_map]
  simp only [Request.selects_of_none hall, Bool.true_and]

/-- A complete diagnosis is faithful. -/
theorem faithful_complete (hall : request.onlyCluster? = none) :
    ((survey access settings request).complete request found).Faithful found access settings
      request where
  policy_eq := rfl
  ns_eq := rfl
  state_eq := rfl
  summary_eq := rfl
  -- One cluster for each target, and one target for each entry that is not compliant.
  listed hentries := by
    rw [ne_eq, ← Policy.clusterStates_eq_nil_iff] at hentries
    rw [clusters_complete access settings request hentries, targets_eq_map hall, List.map_map,
      List.forall₂_map_right_iff, List.forall₂_same]
    intro entry _
    exact faithful_ofAnswer entry access _ _ settings
  -- Nothing is fetched: the policy is read as its own copy.
  own hentries hstate hopen := by
    rw [← Policy.clusterStates_eq_nil_iff] at hentries
    rw [clusters_complete_of_nil access settings request hentries, ofCopy_of_none hall,
      ofOwn_of_open settings hstate hopen]
    exact ⟨_, rfl, Violation.tellOf_ofPolicy found.policy found.ns _ settings⟩
  nothing hentries hclosed := by
    rw [← Policy.clusterStates_eq_nil_iff] at hentries
    rw [clusters_complete_of_nil access settings request hentries, ofCopy_of_none hall,
      ofOwn_of_closed settings hclosed]

end

end Diagnosis

/-- A diagnosis that is not cancelled and not of one cluster only is faithful: where the policy is
found it returns a report, and the report says what the policy and its copies say. -/
theorem diagnose_faithful (access : Access) (settings : Settings) {request : Request}
    {found : Resolved} {conditions : Conditions} (hall : request.onlyCluster? = none)
    (hfound : (Course.ofRequest access request).result = .ok found)
    (hopen : (conditions.outcome fun conditions =>
      diagnose access conditions settings request).2.cancelled = false) :
    ∃ diagnosis,
      (conditions.outcome fun conditions => diagnose access conditions settings request).1 =
        .ok diagnosis ∧
      diagnosis.Faithful found access settings request := by
  simp only [diagnose_eq_run] at hopen ⊢
  rw [Survey.report_of_not_cancelled _ settings.window_pos hfound hopen]
  exact ⟨_, rfl, Diagnosis.faithful_complete access settings hall⟩

/-- The diagnosis of the fleet is faithful: junk is passed over, a cluster that is listed twice is
told of twice, and one whose copy is missing is not lost. -/
theorem diagnose_faithful_fleet :
    (Request.mk "drift" none none).onlyCluster? = none ∧
      (Course.ofRequest Sample.fleetHub ⟨"drift", none, none⟩).result =
        .ok ⟨Sample.fleet, "hub"⟩ ∧
      (Conditions.calm.outcome fun conditions =>
        diagnose Sample.fleetHub conditions {} ⟨"drift", none, none⟩).2.cancelled = false ∧
      ∃ diagnosis,
        (Conditions.calm.outcome fun conditions =>
          diagnose Sample.fleetHub conditions {} ⟨"drift", none, none⟩).1 = .ok diagnosis ∧
        diagnosis.Faithful ⟨Sample.fleet, "hub"⟩ Sample.fleetHub {} ⟨"drift", none, none⟩ := by
  have hfound : (Course.ofRequest Sample.fleetHub ⟨"drift", none, none⟩).result =
      .ok ⟨Sample.fleet, "hub"⟩ := rfl
  have hopen := diagnose_calm Sample.fleetHub {} ⟨"drift", none, none⟩
  exact ⟨rfl, hfound, hopen, diagnose_faithful Sample.fleetHub {} rfl hfound hopen⟩

end ComplianceTriage
