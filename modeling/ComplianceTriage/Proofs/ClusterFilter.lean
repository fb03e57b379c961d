import ComplianceTriage.Proofs.Survey

/-!
# Inspections of one cluster

A request may ask for one managed cluster only. An inspection applies this before it looks whether
the policy lists any states of clusters at all, and so it takes a policy that lists other clusters
only for a copy, and the namespace of the policy for its cluster. A diagnosis does not. Hence the
report keeps to the cluster asked for exactly where the policy lists it or its own namespace does no
harm (`inspect_keepsTo_iff`).
-/

namespace ComplianceTriage

namespace Inspection

/-- A report that presents no cluster but one as affected. -/
structure KeepsTo (inspection : Inspection) (cluster server : String) : Prop where
  affected : ∀ s ∈ inspection.affected, s.cluster = cluster
  violations : ∀ finding ∈ inspection.violations, ∀ name,
    finding.cluster = some name → name = cluster
  nextStep : ∀ text, inspection.nextStep = some text →
    text = ComplianceTriage.nextStep cluster server

section

variable {request : Request} {cluster : String}

/-- A request for one cluster reports on this one only. -/
theorem selects_iff (h : request.onlyCluster? = some cluster) (name : String) :
    request.selects name = true ↔ name = cluster := by
  unfold Request.selects
  rw [h]
  simp [eq_comm]

/-- What a request for one cluster reports on is this cluster. -/
theorem cluster_of_mem_selected (h : request.onlyCluster? = some cluster)
    {states : List ClusterState} {s : ClusterState} (hs : s ∈ selected request states) :
    s.cluster = cluster :=
  (selects_iff h s.cluster).1 (List.mem_filter.1 hs).2

/-- A request for one cluster reports on states of clusters where this one is listed. -/
theorem selected_ne_nil_iff (h : request.onlyCluster? = some cluster)
    (states : List ClusterState) :
    selected request states ≠ [] ↔ ∃ s ∈ states, s.cluster = cluster := by
  constructor
  · intro hne
    obtain ⟨s, hs⟩ := List.exists_mem_of_ne_nil _ hne
    exact ⟨s, (List.mem_filter.1 hs).1, cluster_of_mem_selected h hs⟩
  · rintro ⟨s, hs, hcluster⟩
    exact List.ne_nil_of_mem (List.mem_filter.2 ⟨hs, (selects_iff h s.cluster).2 hcluster⟩)

/-- An instruction starts at an affected cluster. -/
theorem instruction_eq {settings : Settings} {affected : List ClusterState}
    {violations : List Finding} {text : String}
    (h : instruction settings affected violations = some text) :
    ∃ s ∈ affected, text = ComplianceTriage.nextStep s.cluster settings.server := by
  unfold instruction at h
  split at h
  · next first rest _ _ =>
    cases h
    exact ⟨first, List.mem_cons_self, rfl⟩
  · cases h

end

section

variable (access : Access) (settings : Settings) (request : Request) (found : Resolved)
  {cluster : String}

/-- The violations of a complete inspection keep to the cluster asked for in any case. -/
theorem cluster_of_mem_violations (h : request.onlyCluster? = some cluster) {finding : Finding}
    (hfinding : finding ∈ ((survey access settings request).complete request found).violations)
    {name : String} (hname : finding.cluster = some name) : name = cluster := by
  rw [violations_complete, List.mem_append] at hfinding
  -- What the policy itself tells of has no cluster, and a copy is fetched for the cluster only.
  rcases hfinding with hown | hcopy
  · rw [Finding.cluster_of_mem hown] at hname
    cases hname
  · obtain ⟨target, htarget, hresult⟩ := List.mem_flatMap.1 hcopy
    rw [cluster_of_mem_result hresult, Option.some.injEq] at hname
    rw [← hname]
    exact cluster_of_mem_selected h (List.mem_filter.1 htarget).1

/-- A complete inspection keeps to the cluster asked for if what it presents as affected does. -/
theorem keepsTo_complete_iff (h : request.onlyCluster? = some cluster) :
    ((survey access settings request).complete request found).KeepsTo cluster settings.server ↔
      ∀ s ∈ ((survey access settings request).complete request found).affected,
        s.cluster = cluster := by
  refine ⟨KeepsTo.affected, fun haffected => ⟨haffected, ?_, ?_⟩⟩
  · intro finding hfinding name hname
    exact cluster_of_mem_violations access settings request found h hfinding hname
  -- The next step starts at one of those presented.
  · intro text htext
    obtain ⟨s, hs, rfl⟩ := instruction_eq htext
    rw [haffected s hs]

end

end Inspection

open Inspection in
/-- The report of an inspection of one cluster keeps to it exactly where the policy lists this
cluster, or else its own namespace is empty or the cluster itself. -/
theorem inspect_keepsTo_iff (access : Access) (conditions : Conditions) (settings : Settings)
    {request : Request} {cluster : String} {found : Resolved} {report : Inspection}
    (hcluster : request.onlyCluster? = some cluster)
    (hfound : (Course.ofRequest access request).result = .ok found)
    (hreport : (conditions.outcome fun conditions =>
      inspect access conditions settings request).1 = .ok report) :
    report.KeepsTo cluster settings.server ↔
      (∃ s ∈ Policy.clusterStates found.policy, s.cluster = cluster) ∨
        found.ns = "" ∨ found.ns = cluster := by
  simp only [inspect_eq_run] at hreport
  rw [Survey.report_eq_complete _ settings.window_pos hfound hreport,
    keepsTo_complete_iff access settings request found hcluster, affected_complete_eq,
    ← selected_ne_nil_iff hcluster]
  by_cases hempty : selected request (Policy.clusterStates found.policy) = []
  -- The policy is taken for a copy, and its namespace for the cluster.
  · rw [hempty, List.isEmpty_nil, if_pos rfl]
    unfold ownCluster
    split
    · next hns => simp [hns]
    · next hns => simp [hns]
  -- What is presented was selected.
  · have hstates : ¬ (selected request (Policy.clusterStates found.policy)).isEmpty := by
      rwa [List.isEmpty_iff]
    rw [if_neg hstates]
    exact ⟨fun _ => .inl hempty, fun _ s hs => cluster_of_mem_selected hcluster hs⟩

/-- On the sample, a report on the cluster that the policy lists keeps to it. -/
theorem inspect_keepsTo_iff_listed :
    ∃ report,
      (Request.mk "drift" (some "hub") (some "east")).onlyCluster? = some "east" ∧
      (Course.ofRequest Sample.hub ⟨"drift", some "hub", some "east"⟩).result =
        .ok ⟨Sample.policy, "hub"⟩ ∧
      (Conditions.calm.outcome fun conditions =>
        inspect Sample.hub conditions {} ⟨"drift", some "hub", some "east"⟩).1 = .ok report ∧
      report.KeepsTo "east" "openshift-mcp-server" := by
  have hfound : (Course.ofRequest Sample.hub ⟨"drift", some "hub", some "east"⟩).result =
      .ok ⟨Sample.policy, "hub"⟩ := rfl
  have hstates : Policy.clusterStates Sample.policy =
      [⟨"east", "NonCompliant"⟩, ⟨"west", "Compliant"⟩] := by decide
  have hreport : (Conditions.calm.outcome fun conditions =>
      inspect Sample.hub conditions {} ⟨"drift", some "hub", some "east"⟩).1 =
        .ok ((Inspection.survey Sample.hub {} ⟨"drift", some "hub", some "east"⟩).complete
          ⟨"drift", some "hub", some "east"⟩ ⟨Sample.policy, "hub"⟩) := by
    simp only [inspect_eq_run]
    exact Survey.report_calm _ (Settings.window_pos {}) hfound
  refine ⟨_, rfl, hfound, hreport, ?_⟩
  -- The policy lists the cluster, which is enough.
  refine (inspect_keepsTo_iff Sample.hub .calm {} rfl hfound hreport).2 (.inl ?_)
  rw [hstates]
  exact ⟨⟨"east", "NonCompliant"⟩, List.mem_cons_self, rfl⟩

/-- A report on a cluster that the policy does not list presents the namespace of the policy. -/
theorem inspect_presents_own_namespace :
    ∃ report,
      (Request.mk "drift" (some "hub") (some "north")).onlyCluster? = some "north" ∧
      (Conditions.calm.outcome fun conditions =>
        inspect Sample.hub conditions {} ⟨"drift", some "hub", some "north"⟩).1 = .ok report ∧
      report.affected = [⟨"hub", "NonCompliant"⟩] ∧
      ¬ report.KeepsTo "north" "openshift-mcp-server" := by
  have hfound : (Course.ofRequest Sample.hub ⟨"drift", some "hub", some "north"⟩).result =
      .ok ⟨Sample.policy, "hub"⟩ := rfl
  have haffected : ((Inspection.survey Sample.hub {} ⟨"drift", some "hub", some "north"⟩).complete
      ⟨"drift", some "hub", some "north"⟩ ⟨Sample.policy, "hub"⟩).affected =
        [⟨"hub", "NonCompliant"⟩] := by decide
  refine ⟨_, rfl, ?_, haffected, ?_⟩
  · simp only [inspect_eq_run]
    exact Survey.report_calm _ (Settings.window_pos {}) hfound
  -- A report that keeps to a cluster presents no other.
  · intro hkeeps
    have hcluster := hkeeps.affected ⟨"hub", "NonCompliant"⟩ (by
      rw [haffected]
      exact List.mem_cons_self)
    exact absurd hcluster (by decide)

end ComplianceTriage
