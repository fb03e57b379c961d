import ComplianceTriage.Proofs.ClusterFilter
import ComplianceTriage.Proofs.Faithfulness

/-!
# Diagnoses of one cluster

A diagnosis may be asked for one cluster, in two ways. The request for the policy may name the
cluster: then it fetches fewer copies, and reports what the diagnosis of all clusters says of this
one (`diagnose_restrictedTo`). Or the request may be for the copy of the policy in the namespace of
the cluster: then no other copy is fetched, and the copy is read as a policy of its own, against the
resources that it wants itself. Where these are what the policy wants, and the copy calls itself not
compliant, both ways lead to the same issues (`diagnose_copyOn`).

The first statement compares runs branch by branch, since the restriction must not decide on whether
the policy lists clusters at all. The second goes through the one target that is left, and through
the direct fetch of the copy, whose name is never blank.
-/

namespace ComplianceTriage

/-! ## Requests for one cluster -/

namespace Request

/-- The request that reports on one cluster only. -/
def restrictedTo (request : Request) (cluster : String) : Request :=
  { request with cluster? := some cluster }

/-- The request for the copy of a policy in the namespace of a cluster. -/
def copyOn (request : Request) (found : Resolved) (cluster : String) : Request :=
  ⟨Policy.copyName found.ns request.policy, some cluster, none⟩

variable {cluster : String}

/-- A name that is not empty is present. -/
theorem presence_of_ne (h : cluster ≠ "") : presence cluster = some cluster :=
  if_neg h

/-- A request that names a cluster reports on this one only. -/
theorem selects_restrictedTo (request : Request) (h : cluster ≠ "") (name : String) :
    (request.restrictedTo cluster).selects name = decide (name = cluster) := by
  have honly : (request.restrictedTo cluster).onlyCluster? = some cluster := presence_of_ne h
  rw [Bool.eq_iff_iff, decide_eq_true_eq]
  exact Inspection.selects_iff honly name

/-- Of all clusters that are not compliant, a request for one is about this one. -/
theorem targets_restrictedTo (request : Request) (h : cluster ≠ "") (found : Resolved) :
    (request.restrictedTo cluster).targets found =
      ((Policy.clusterStates found.policy).filter fun s => s.state ≠ compliant).filter fun s =>
        s.cluster = cluster := by
  unfold targets Diagnosis.targets
  rw [List.filter_filter, List.filter_filter]
  refine List.filter_congr fun s _ => ?_
  rw [selects_restrictedTo request h, Bool.and_comm]

end Request

/-! ## The policy, restricted to a cluster -/

/-- The search for a policy does not see which clusters are asked for. -/
theorem Course.ofRequest_restrictedTo (access : Access) (request : Request) (cluster : String) :
    ofRequest access (request.restrictedTo cluster) = ofRequest access request := rfl

/-- A diagnosis that says of one cluster what another does, and nothing of the others. -/
structure Diagnosis.IsPartOn (cluster : String) (part whole : Diagnosis) : Prop where
  policy_eq : part.policy = whole.policy
  ns_eq : part.ns = whole.ns
  state_eq : part.state = whole.state
  clusters_eq : part.clusters = whole.clusters.filter fun diagnosis => diagnosis.cluster = cluster

section

variable (access : Access) (settings : Settings) {request : Request} {cluster : String}
  (found : Resolved)

/-- Of a policy that is its own cluster, a request for one cluster keeps what is on it. -/
theorem Diagnosis.ofCopy_restrictedTo (hall : request.onlyCluster? = none)
    (hcluster : cluster ≠ "") :
    ofCopy (request.restrictedTo cluster) found settings =
      (ofCopy request found settings).filter fun diagnosis => diagnosis.cluster = cluster := by
  rw [ofCopy_eq_filter, ofCopy_of_none hall]
  exact List.filter_congr fun diagnosis _ =>
    request.selects_restrictedTo hcluster diagnosis.cluster

/-- A complete diagnosis of one cluster says of it what that of all clusters does. -/
theorem Diagnosis.isPartOn_complete (hall : request.onlyCluster? = none)
    (hcluster : cluster ≠ "") :
    IsPartOn cluster
      ((survey access settings (request.restrictedTo cluster)).complete
        (request.restrictedTo cluster) found)
      ((survey access settings request).complete request found) where
  policy_eq := rfl
  ns_eq := rfl
  state_eq := rfl
  clusters_eq := by
    by_cases hstates : Policy.clusterStates found.policy = []
    · rw [clusters_complete_of_nil access settings _ hstates,
        clusters_complete_of_nil access settings _ hstates]
      exact ofCopy_restrictedTo settings found hall hcluster
    -- What comes of a target is of its cluster, so that it may be left out before it is fetched.
    · rw [clusters_complete access settings _ hstates, clusters_complete access settings _ hstates,
        request.targets_restrictedTo hcluster, Request.targets_of_none hall, List.filter_map]
      rfl

end

/-- The diagnosis of one cluster is that of all clusters, restricted to the one: both fail alike,
or the one says of the cluster what the other does. -/
theorem diagnose_restrictedTo (access : Access) (settings : Settings) (request : Request)
    {cluster : String} {conditions conditions' : Conditions}
    (hall : request.onlyCluster? = none) (hcluster : cluster ≠ "")
    (hopen : (conditions.outcome fun conditions =>
      diagnose access conditions settings (request.restrictedTo cluster)).2.cancelled = false)
    (hopen' : (conditions'.outcome fun conditions =>
      diagnose access conditions settings request).2.cancelled = false) :
    SameUpTo (Diagnosis.IsPartOn cluster)
      (conditions.outcome fun conditions =>
        diagnose access conditions settings (request.restrictedTo cluster)).1
      (conditions'.outcome fun conditions => diagnose access conditions settings request).1 := by
  simp only [diagnose_eq_run] at hopen hopen' ⊢
  have hsearch := congrArg Course.result (Course.ofRequest_restrictedTo access request cluster)
  exact Survey.sameUpTo settings.window_pos hsearch
    (fun found _ => Diagnosis.isPartOn_complete access settings found hall hcluster) hopen hopen'

/-- The fleet, of which only `east` is asked for: both of its entries are told of. -/
theorem diagnose_restrictedTo_fleet :
    (Request.mk "drift" none none).onlyCluster? = none ∧ "east" ≠ "" ∧
      (Conditions.calm.outcome fun conditions => diagnose Sample.fleetHub conditions {}
        ((Request.mk "drift" none none).restrictedTo "east")).2.cancelled = false ∧
      (Conditions.calm.outcome fun conditions =>
        diagnose Sample.fleetHub conditions {} ⟨"drift", none, none⟩).2.cancelled = false ∧
      SameUpTo (Diagnosis.IsPartOn "east")
        (Conditions.calm.outcome fun conditions => diagnose Sample.fleetHub conditions {}
          ((Request.mk "drift" none none).restrictedTo "east")).1
        (Conditions.calm.outcome fun conditions =>
          diagnose Sample.fleetHub conditions {} ⟨"drift", none, none⟩).1 := by
  have hopen :=
    diagnose_calm Sample.fleetHub {} ((Request.mk "drift" none none).restrictedTo "east")
  have hopen' := diagnose_calm Sample.fleetHub {} ⟨"drift", none, none⟩
  have heast : "east" ≠ "" := by decide
  exact ⟨rfl, heast, hopen, hopen',
    diagnose_restrictedTo Sample.fleetHub {} _ rfl heast hopen hopen'⟩

/-! ## The copy, by itself -/

/-- The entries of a policy about a cluster that do not call it compliant. -/
def Policy.openEntries (policy : Value) (cluster : String) : List Value :=
  (clusterEntries policy).filter fun entry =>
    entry.textAt ["clustername"] = cluster && entry.textAt ["compliant"] ≠ compliant

/-- A copy that stands for its policy on a cluster: it wants what the policy wants, and calls itself
not compliant. -/
structure Policy.IsOpenCopy (copy policy : Value) : Prop where
  /-- The resources wanted are equal with their fields in the same order, and so are the issues that
  show them. -/
  wanted_eq : DesiredState.ofPolicy copy = DesiredState.ofPolicy policy
  /-- It lists no clusters. -/
  entries_eq : clusterEntries copy = []
  state_ne_empty : state copy ≠ ""
  state_ne_compliant : state copy ≠ compliant

/-- The name of a copy is not blank, and may be asked for. -/
theorem Request.check_copyOn (request : Request) (found : Resolved) (cluster : String) :
    (request.copyOn found cluster).check = .ok () := by
  -- The dot of the name is not blank, and so it is not trimmed away.
  have hdot : '.' ∈ (Policy.copyName found.ns request.policy).toList := by
    simp [Policy.copyName, String.toList_append]
  have htrim := Text.mem_trim hdot (by decide)
  unfold check copyOn
  dsimp only
  rw [if_neg]
  rw [List.isEmpty_iff]
  exact List.ne_nil_of_mem htrim

section

variable {access : Access} (settings : Settings) {request : Request} {found : Resolved}
  {copy : Value} {cluster : String}

/-- The request for a copy finds it where it is asked for. -/
theorem Course.ofRequest_copyOn (hcluster : cluster ≠ "")
    (hcopy : access.get .policy (Policy.copyName found.ns request.policy) cluster = .ok copy) :
    (ofRequest access (request.copyOn found cluster)).result = .ok ⟨copy, cluster⟩ := by
  have hplace : (request.copyOn found cluster).place? = some cluster :=
    Request.presence_of_ne hcluster
  have hget : access.get .policy (request.copyOn found cluster).policy cluster = .ok copy := hcopy
  -- The request is accepted, it names a namespace, and the copy is served there.
  unfold ofRequest
  rw [request.check_copyOn found cluster]
  dsimp only
  unfold ofResolution
  rw [hplace]
  dsimp only
  rw [hget]
  rfl

namespace Diagnosis

/-- The one cluster that a diagnosis is left with, of a policy that lists it once as not
compliant. -/
theorem targets_restrictedTo_eq {entry : Value} (hcluster : cluster ≠ "")
    (hentry : Policy.openEntries found.policy cluster = [entry]) :
    (request.restrictedTo cluster).targets found = [⟨cluster, entry.textAt ["compliant"]⟩] := by
  -- The entry is among those about the cluster, and so it names it.
  have hname : entry.textAt ["clustername"] = cluster := by
    have hmem := List.mem_singleton_self entry
    rw [← hentry, Policy.openEntries, List.mem_filter, Bool.and_eq_true, decide_eq_true_eq] at hmem
    exact hmem.2.1
  calc (request.restrictedTo cluster).targets found
      = (Policy.openEntries found.policy cluster).map Policy.entryState := by
        rw [request.targets_restrictedTo hcluster, List.filter_filter, Policy.filter_clusterStates]
        rfl
    _ = [Policy.entryState entry] := by rw [hentry, List.map_singleton]
    _ = [⟨cluster, entry.textAt ["compliant"]⟩] := by rw [Policy.entryState, hname]

/-- What the diagnosis of a policy says of a cluster that it lists once as not compliant. -/
theorem clusters_restrictedTo {entry : Value} (hcluster : cluster ≠ "")
    (hentry : Policy.openEntries found.policy cluster = [entry])
    (hcopy : access.get .policy (Policy.copyName found.ns request.policy) cluster = .ok copy) :
    ((survey access settings (request.restrictedTo cluster)).complete
      (request.restrictedTo cluster) found).clusters =
        [⟨cluster, entry.textAt ["compliant"],
          Violation.ofPolicy copy cluster (DesiredState.ofPolicy found.policy) settings⟩] := by
  -- The policy lists this cluster at least.
  have hstates : Policy.clusterStates found.policy ≠ [] := by
    rw [ne_eq, Policy.clusterStates_eq_nil_iff]
    intro hnil
    rw [Policy.openEntries, hnil] at hentry
    cases hentry
  rw [clusters_complete access settings _ hstates, targets_restrictedTo_eq hcluster hentry]
  unfold survey ofAnswer
  simp only [List.map_cons, List.map_nil, Request.restrictedTo, hcopy]

/-- What the diagnosis of a copy by itself says. -/
theorem clusters_copyOn {policy : Value} (h : Policy.IsOpenCopy copy policy) :
    ((survey access settings (request.copyOn found cluster)).complete
      (request.copyOn found cluster) ⟨copy, cluster⟩).clusters =
        [⟨cluster, Policy.state copy,
          Violation.ofPolicy copy cluster (DesiredState.ofPolicy policy) settings⟩] := by
  have hstates := (Policy.clusterStates_eq_nil_iff copy).2 h.entries_eq
  have hall : (request.copyOn found cluster).onlyCluster? = none := rfl
  rw [clusters_complete_of_nil access settings _ hstates, ofCopy_of_none hall,
    ofOwn_of_open settings h.state_ne_empty h.state_ne_compliant, h.wanted_eq]

end Diagnosis

end

/-- A copy that stands for its policy is diagnosed alike in both ways. Where a policy lists a
cluster once as not compliant and its copy there is served, the diagnosis of the policy on this
cluster and that of the copy by itself have this cluster only, and the same issues, which are those
that the copy tells of. -/
theorem diagnose_copyOn {access : Access} (settings : Settings) (request : Request)
    {found : Resolved} {cluster : String} {entry copy : Value}
    {conditions conditions' : Conditions}
    (hfound : (Course.ofRequest access request).result = .ok found) (hcluster : cluster ≠ "")
    (hentry : Policy.openEntries found.policy cluster = [entry])
    (hget : access.get .policy (Policy.copyName found.ns request.policy) cluster = .ok copy)
    (hcopy : Policy.IsOpenCopy copy found.policy)
    (hopen : (conditions.outcome fun conditions =>
      diagnose access conditions settings (request.restrictedTo cluster)).2.cancelled = false)
    (hopen' : (conditions'.outcome fun conditions =>
      diagnose access conditions settings (request.copyOn found cluster)).2.cancelled = false) :
    ∃ restricted direct issues,
      (conditions.outcome fun conditions =>
        diagnose access conditions settings (request.restrictedTo cluster)).1 = .ok restricted ∧
      (conditions'.outcome fun conditions =>
        diagnose access conditions settings (request.copyOn found cluster)).1 = .ok direct ∧
      restricted.clusters = [⟨cluster, entry.textAt ["compliant"], issues⟩] ∧
      direct.clusters = [⟨cluster, Policy.state copy, issues⟩] ∧
      Violation.TellOf issues copy cluster (DesiredState.ofPolicy found.policy) settings := by
  simp only [diagnose_eq_run] at hopen hopen' ⊢
  -- Both requests find their policy: the one by its search, the other by the direct fetch of the
  -- copy.
  rw [← Course.ofRequest_restrictedTo access request cluster] at hfound
  have hrestricted := (Diagnosis.survey access settings
    (request.restrictedTo cluster)).report_of_not_cancelled settings.window_pos hfound hopen
  have hdirect := (Diagnosis.survey access settings
    (request.copyOn found cluster)).report_of_not_cancelled settings.window_pos
      (Course.ofRequest_copyOn hcluster hget) hopen'
  exact ⟨_, _, _, hrestricted, hdirect,
    Diagnosis.clusters_restrictedTo settings hcluster hentry hget,
    Diagnosis.clusters_copyOn settings hcopy, Violation.tellOf_ofPolicy copy cluster _ settings⟩

/-- In the fleet, the copy on `north` stands for the policy, and is diagnosed alike in both ways:
the chain of a subscription is stuck, and is to be traced. -/
theorem diagnose_copyOn_fleet :
    (Course.ofRequest Sample.fleetHub ⟨"drift", none, none⟩).result =
        .ok ⟨Sample.fleet, "hub"⟩ ∧
      "north" ≠ "" ∧
      (∃ entry, Policy.openEntries Sample.fleet "north" = [entry]) ∧
      Sample.fleetHub.get .policy (Policy.copyName "hub" "drift") "north" = .ok Sample.fleetCopy ∧
      Policy.IsOpenCopy Sample.fleetCopy Sample.fleet ∧
      ∃ restricted direct issues,
        (Conditions.calm.outcome fun conditions => diagnose Sample.fleetHub conditions {}
          ((Request.mk "drift" none none).restrictedTo "north")).1 = .ok restricted ∧
        (Conditions.calm.outcome fun conditions => diagnose Sample.fleetHub conditions {}
          ((Request.mk "drift" none none).copyOn ⟨Sample.fleet, "hub"⟩ "north")).1 = .ok direct ∧
        restricted.clusters = [⟨"north", "NonCompliant", issues⟩] ∧
        direct.clusters = [⟨"north", "NonCompliant", issues⟩] ∧
        (issues.map fun issue => (issue.verdict, issue.template, issue.resourceKind,
            issue.resourceName, issue.resourceNs, issue.message)) =
          [(.olmStuck, "operators", some "subscriptions", some "lvms", some "storage",
            "violation - subscriptions [lvms] not found in namespace storage")] ∧
        (issues.map fun issue => issue.call.map ToolCall.tool) = [some ToolCall.traceTool] := by
  have hfound : (Course.ofRequest Sample.fleetHub ⟨"drift", none, none⟩).result =
      .ok ⟨Sample.fleet, "hub"⟩ := rfl
  have hnorth : "north" ≠ "" := by decide
  have hentry : Policy.openEntries Sample.fleet "north" =
      [.object [("clustername", .string "north"), ("compliant", .string "NonCompliant")]] := rfl
  have hget : Sample.fleetHub.get .policy (Policy.copyName "hub" "drift") "north" =
      .ok Sample.fleetCopy := rfl
  have hcopy : Policy.IsOpenCopy Sample.fleetCopy Sample.fleet :=
    ⟨rfl, rfl, by decide, by decide⟩
  have hopen := diagnose_calm Sample.fleetHub {}
    ((Request.mk "drift" none none).restrictedTo "north")
  have hopen' := diagnose_calm Sample.fleetHub {}
    ((Request.mk "drift" none none).copyOn ⟨Sample.fleet, "hub"⟩ "north")
  obtain ⟨restricted, direct, issues, hrestricted, hdirect, hclusters, hclusters', htell⟩ :=
    diagnose_copyOn {} _ hfound hnorth hentry hget hcopy hopen hopen'
  -- The issues are those that the copy tells of, which can be evaluated.
  refine ⟨hfound, hnorth, ⟨_, hentry⟩, hget, hcopy, restricted, direct, issues, hrestricted,
    hdirect, hclusters, hclusters', ?_, ?_⟩
  · rw [htell.eq_ofPolicy]
    decide +kernel
  · rw [htell.eq_ofPolicy]
    decide +kernel

end ComplianceTriage
