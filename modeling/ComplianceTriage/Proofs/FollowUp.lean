import ComplianceTriage.Proofs.Survey
import Mathlib.Data.List.Nodup

/-!
# The next step of an inspection

An inspection that found violations says where to go on: it points to the first of the clusters that
it presents as affected (`pointsTo_iff`). These are the clusters that the policy lists, in the order
in which it lists them and whatever their states are. So the next step leads to a cluster that is
not compliant if the first one is not; where a compliant cluster is listed first, it leads there,
although the violations are on others (`inspect_pointsTo_compliant`).
-/

namespace ComplianceTriage

/-- The text of a next step names the cluster at two places, and is else the same for all. -/
theorem nextStep_eq (server : String) : ∃ front middle middle' back : String, ∀ cluster,
    nextStep cluster server = front ++ cluster ++ middle ++ middle' ++ cluster ++ back :=
  ⟨_, _, _, _, fun _ => rfl⟩

/-- It tells which cluster it starts at. -/
theorem nextStep_injective {cluster cluster' server : String}
    (h : nextStep cluster server = nextStep cluster' server) : cluster = cluster' := by
  obtain ⟨front, middle, middle', back, htext⟩ := nextStep_eq server
  have hlist := congrArg String.toList h
  simp only [htext, String.toList_append, List.append_assoc] at hlist
  have hrest := List.append_cancel_left hlist
  -- Twice the length of the cluster is what the length of the text leaves for it.
  have hlength : cluster.toList.length = cluster'.toList.length := by
    have hboth := congrArg List.length hrest
    simp only [List.length_append] at hboth
    omega
  exact String.toList_injective (List.append_inj hrest hlength).1

namespace Inspection

/-- That the next step of a report starts at a cluster. -/
def PointsTo (report : Inspection) (cluster server : String) : Prop :=
  report.nextStep = some (ComplianceTriage.nextStep cluster server)

/-- That a report presents a cluster as affected and not compliant. -/
def ListsNoncompliant (report : Inspection) (cluster : String) : Prop :=
  ∃ s ∈ report.affected, s.cluster = cluster ∧ s.state ≠ compliant

/-- Where the next step of a report leads. -/
structure FollowsUp (report : Inspection) (server : String) : Prop where
  /-- There is a next step where there are a violation and an affected cluster. -/
  nextStep_ne_none_iff : report.nextStep ≠ none ↔ report.violations ≠ [] ∧ report.affected ≠ []
  /-- It points to the first affected cluster, whatever its state is, and to no other. -/
  pointsTo_iff : ∀ cluster, report.PointsTo cluster server ↔
    report.violations ≠ [] ∧ ∃ first, report.affected.head? = some first ∧ first.cluster = cluster
  /-- If the first cluster is not compliant, it points to one that is not. -/
  listsNoncompliant : ∀ first, report.affected.head? = some first → first.state ≠ compliant →
    ∀ cluster, report.PointsTo cluster server → report.ListsNoncompliant cluster
  /-- If the first cluster is compliant and not listed again, it points to one that is. -/
  not_listsNoncompliant : ∀ first, report.affected.head? = some first → first.state = compliant →
    (report.affected.map ClusterState.cluster).Nodup →
      ∀ cluster, report.PointsTo cluster server → ¬ report.ListsNoncompliant cluster

section

variable {settings : Settings} {affected : List ClusterState} {violations : List Finding}

/-- An instruction is given where there are violations, and names the first affected cluster. -/
theorem instruction_eq_some_iff {text : String} :
    instruction settings affected violations = some text ↔
      violations ≠ [] ∧ ∃ first, affected.head? = some first ∧
        ComplianceTriage.nextStep first.cluster settings.server = text := by
  unfold instruction
  cases affected with
  | nil => simp
  | cons first rest =>
    cases violations with
    | nil => simp
    | cons finding findings => simp

/-- An instruction is given exactly where there are violations and affected clusters. -/
theorem instruction_ne_none_iff :
    instruction settings affected violations ≠ none ↔ violations ≠ [] ∧ affected ≠ [] := by
  unfold instruction
  cases affected with
  | nil => simp
  | cons first rest =>
    cases violations with
    | nil => simp
    | cons finding findings => simp

/-- A report with the instruction for its violations follows them up. -/
theorem followsUp_of_nextStep_eq {report : Inspection}
    (h : report.nextStep = instruction settings report.affected report.violations) :
    report.FollowsUp settings.server := by
  have hpoints : ∀ cluster, report.PointsTo cluster settings.server ↔
      report.violations ≠ [] ∧
        ∃ first, report.affected.head? = some first ∧ first.cluster = cluster := by
    intro cluster
    rw [PointsTo, h, instruction_eq_some_iff]
    refine and_congr_right fun _ => exists_congr fun first => and_congr_right fun _ => ?_
    -- The text tells the cluster that it was made for.
    exact ⟨nextStep_injective, fun hcluster => by rw [hcluster]⟩
  refine ⟨h ▸ instruction_ne_none_iff, hpoints, ?_, ?_⟩
  · intro first hfirst hopen cluster hcluster
    obtain ⟨-, first', hfirst', rfl⟩ := (hpoints cluster).1 hcluster
    obtain rfl : first = first' := Option.some.inj (hfirst.symm.trans hfirst')
    exact ⟨first, List.mem_of_head? hfirst, rfl, hopen⟩
  · rintro first hfirst hcompliant hnodup cluster hcluster ⟨s, hs, hname, hopen⟩
    obtain ⟨-, first', hfirst', rfl⟩ := (hpoints cluster).1 hcluster
    obtain rfl : first = first' := Option.some.inj (hfirst.symm.trans hfirst')
    -- A cluster of this name is the first one itself.
    obtain rfl := List.inj_on_of_nodup_map hnodup hs (List.mem_of_head? hfirst) hname
    exact hopen hcompliant

end

end Inspection

open Inspection in
/-- The next step of an inspection points to the first of the clusters that the policy lists and the
request asks for, whatever their states are; where it lists none of them, to its own namespace. -/
theorem inspect_followsUp (access : Access) (conditions : Conditions) (settings : Settings)
    (request : Request) {report : Inspection}
    (hreport : (conditions.outcome fun conditions =>
      inspect access conditions settings request).1 = .ok report) :
    report.FollowsUp settings.server ∧
      ∃ found, (Course.ofRequest access request).result = .ok found ∧
        report.affected =
          if (selected request (Policy.clusterStates found.policy)).isEmpty then ownCluster found
          else selected request (Policy.clusterStates found.policy) := by
  simp only [inspect_eq_run] at hreport
  obtain ⟨found, hfound, rfl, -⟩ := Survey.completed_of_ok _ settings.window_pos hreport
  exact ⟨followsUp_of_nextStep_eq rfl, found, hfound,
    affected_complete_eq access settings request found⟩

/-- On the sample, the first cluster is not compliant, and the next step leads there. -/
theorem inspect_followsUp_drift :
    ∃ report,
      (Conditions.calm.outcome fun conditions =>
        inspect Sample.hub conditions {} ⟨"drift", some "hub", none⟩).1 = .ok report ∧
      report.PointsTo "east" "openshift-mcp-server" ∧ report.ListsNoncompliant "east" := by
  have hfound : (Course.ofRequest Sample.hub ⟨"drift", some "hub", none⟩).result =
      .ok ⟨Sample.policy, "hub"⟩ := rfl
  have hreport := inspect_complete Sample.hub {} hfound
  obtain ⟨hfollows, -⟩ := inspect_followsUp Sample.hub .calm {} _ hreport
  have hpoints := (hfollows.pointsTo_iff "east").2
    ⟨by decide +kernel, ⟨"east", "NonCompliant"⟩, by decide +kernel, rfl⟩
  exact ⟨_, hreport, hpoints, hfollows.listsNoncompliant ⟨"east", "NonCompliant"⟩
    (by decide +kernel) (by decide) "east" hpoints⟩

namespace Sample

/-- A policy that lists a compliant cluster in front of the one that is not. -/
def lateDrift : Value :=
  .object
    [("metadata", .object [("name", .string "drift"), ("namespace", .string "hub")]),
      ("status", .object
        [("compliant", .string "NonCompliant"),
          ("status", .array
            [.object [("clustername", .string "west"), ("compliant", .string "Compliant")],
              .object [("clustername", .string "east"), ("compliant", .string "NonCompliant")]])])]

/-- The hub that holds it, with its copy on `east`. -/
def lateHub : Access where
  get _ name ns :=
    if ns = "hub" then .ok lateDrift
    else if ns = "east" then .ok copy
    else .error (.notFound "Policy" name ns)
  list _ _ := .ok [lateDrift]

end Sample

/-- Where a compliant cluster is listed first, the next step leads there, although the violations
are on a cluster that is listed as not compliant. -/
theorem inspect_pointsTo_compliant :
    ∃ report,
      (Conditions.calm.outcome fun conditions =>
        inspect Sample.lateHub conditions {} ⟨"drift", some "hub", none⟩).1 = .ok report ∧
      report.violations.map Finding.cluster = [some "east"] ∧ report.ListsNoncompliant "east" ∧
      report.PointsTo "west" "openshift-mcp-server" ∧ ¬ report.ListsNoncompliant "west" := by
  have hfound : (Course.ofRequest Sample.lateHub ⟨"drift", some "hub", none⟩).result =
      .ok ⟨Sample.lateDrift, "hub"⟩ := rfl
  have hreport := inspect_complete Sample.lateHub {} hfound
  refine ⟨_, hreport, ?_⟩
  unfold Inspection.ListsNoncompliant Inspection.PointsTo
  decide +kernel

end ComplianceTriage
