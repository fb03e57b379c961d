import ComplianceTriage.Proofs.Survey

/-!
# Clusters are isolated

The copy of a policy in the namespace of a cluster is under the control of that cluster: it may be
changed, broken or withheld there. What a command reports on the other clusters does not depend on
it. `clusters_isolated` compares two runs against accesses that differ in the answer to the fetch of
one copy, and in nothing else: their reports differ at most in what is said of its cluster.

The search for the policy never asks for a copy of it, since a copy has a longer name
(`Policy.copyName_ne`). So both runs find the same policy, and with it the same targets. Of these,
only those of the one cluster are asked about by the fetch that the accesses differ in, as often as
the cluster is listed.
-/

namespace ComplianceTriage

/-- Two accesses that answer alike, but perhaps for the policy of one name in one namespace. -/
structure Access.SameBut (access access' : Access) (name ns : String) : Prop where
  list_eq : ∀ type ns?, access.list type ns? = access'.list type ns?
  get_eq : ∀ type name' ns', ¬ (type = .policy ∧ name' = name ∧ ns' = ns) →
    access.get type name' ns' = access'.get type name' ns'

/-- The access that answers for the policy of one name in one namespace as it is told. -/
def Access.answering (access : Access) (name ns : String) (answer : Except AccessError Value) :
    Access where
  get type name' ns' :=
    if type = .policy ∧ name' = name ∧ ns' = ns then answer else access.get type name' ns'
  list := access.list

/-- A hub that answers one fetch otherwise differs in this one only. -/
theorem Access.sameBut_answering (access : Access) (name ns : String)
    (answer : Except AccessError Value) :
    access.SameBut (access.answering name ns answer) name ns where
  list_eq _ _ := rfl
  get_eq _ _ _ hother := (if_neg hother).symm

/-- Two diagnoses of a cluster in one state, with the same issues unless it is the one named. -/
structure ClusterDiagnosis.SameBut (cluster : String) (diagnosis diagnosis' : ClusterDiagnosis) :
    Prop where
  clusterState_eq : diagnosis.clusterState = diagnosis'.clusterState
  issues_eq : diagnosis.cluster ≠ cluster → diagnosis.issues = diagnosis'.issues

/-- Two diagnoses that differ at most in the issues of one cluster, and in their number. -/
structure Diagnosis.SameBut (cluster : String) (diagnosis diagnosis' : Diagnosis) : Prop where
  policy_eq : diagnosis.policy = diagnosis'.policy
  ns_eq : diagnosis.ns = diagnosis'.ns
  state_eq : diagnosis.state = diagnosis'.state
  /-- The clusters are the same, one by one and in order. -/
  clusters : List.Forall₂ (ClusterDiagnosis.SameBut cluster) diagnosis.clusters diagnosis'.clusters

/-- Two inspections that differ at most in the violations on one cluster, and in whether there is a
next step. -/
structure Inspection.SameBut (cluster : String) (inspection inspection' : Inspection) : Prop where
  policy_eq : inspection.policy = inspection'.policy
  ns_eq : inspection.ns = inspection'.ns
  state_eq : inspection.state = inspection'.state
  affected_eq : inspection.affected = inspection'.affected
  templates_eq : inspection.templates = inspection'.templates
  /-- All other violations are the same and in the same order. -/
  violations_eq :
    (inspection.violations.filter fun finding => finding.cluster ≠ some cluster) =
      inspection'.violations.filter fun finding => finding.cluster ≠ some cluster
  /-- If both have a next step, it is the same. -/
  nextStep_eq : ∀ text text', inspection.nextStep = some text → inspection'.nextStep = some text' →
    text = text'

/-! ## Finding the policy -/

/-- No policy is a copy of itself: its copies have longer names. -/
theorem Policy.copyName_ne (ns name : String) : copyName ns name ≠ name := by
  intro h
  have hlength := congrArg String.length h
  rw [copyName, String.length_append, String.length_append] at hlength
  have hdot : ".".length = 1 := rfl
  omega

section

variable {access access' : Access} {request : Request} {ns cluster : String}

/-- A search for a policy does not see what is answered about its copies. -/
theorem Course.ofRequest_congr
    (h : access.SameBut access' (Policy.copyName ns request.policy) cluster) :
    ofRequest access request = ofRequest access' request := by
  refine ofRequest_eq_of_answers (fun place => h.get_eq _ _ _ ?_) (.inr fun ns? => ?_)
  -- The direct fetch is for the policy itself, and the accesses differ on a copy only.
  · rintro ⟨-, hname, -⟩
    exact Policy.copyName_ne ns request.policy hname.symm
  · unfold ofSearch
    rw [h.list_eq]

/-! ## Reports -/

variable (settings : Settings) (found : Resolved)

/-- Both commands fetch the copy on any other cluster with the same answer, whichever policy they
have found. -/
theorem Access.SameBut.get_copy
    (h : access.SameBut access' (Policy.copyName ns request.policy) cluster)
    {target : ClusterState} (htarget : target.cluster ≠ cluster) :
    access.get .policy (Policy.copyName found.ns request.policy) target.cluster =
      access'.get .policy (Policy.copyName found.ns request.policy) target.cluster := by
  refine h.get_eq _ _ _ ?_
  rintro ⟨-, -, hcluster⟩
  exact htarget hcluster

namespace Diagnosis

/-- What comes of a target differs only if it is the cluster of the fetch. -/
theorem sameBut_result (h : access.SameBut access' (Policy.copyName ns request.policy) cluster)
    (target : ClusterState) :
    ((survey access settings request).result found target).SameBut cluster
      ((survey access' settings request).result found target) where
  clusterState_eq := rfl
  issues_eq htarget := by
    unfold survey ofAnswer at htarget ⊢
    dsimp only at htarget ⊢
    rw [h.get_copy found htarget]

/-- Complete diagnoses differ only in the issues of that cluster. -/
theorem sameBut_complete (h : access.SameBut access' (Policy.copyName ns request.policy) cluster) :
    ((survey access settings request).complete request found).SameBut cluster
      ((survey access' settings request).complete request found) where
  policy_eq := rfl
  ns_eq := rfl
  state_eq := rfl
  clusters := by
    by_cases hstates : Policy.clusterStates found.policy = []
    -- The policy is its own cluster, and no copy is fetched.
    · rw [clusters_complete_of_nil access settings request hstates,
        clusters_complete_of_nil access' settings request hstates, List.forall₂_same]
      exact fun diagnosis _ => ⟨rfl, fun _ => rfl⟩
    · rw [clusters_complete access settings request hstates,
        clusters_complete access' settings request hstates, List.forall₂_map_left_iff,
        List.forall₂_map_right_iff, List.forall₂_same]
      exact fun target _ => sameBut_result settings found h target

end Diagnosis

namespace Inspection

/-- Apart from the violations on the one cluster, the same is found on every target. -/
theorem filter_result_eq (h : access.SameBut access' (Policy.copyName ns request.policy) cluster)
    (target : ClusterState) :
    (((survey access settings request).result found target).filter fun finding =>
        finding.cluster ≠ some cluster) =
      ((survey access' settings request).result found target).filter fun finding =>
        finding.cluster ≠ some cluster := by
  by_cases htarget : target.cluster = cluster
  -- All that is found there is on the one cluster.
  · have hnone : ∀ access : Access, (((survey access settings request).result found target).filter
        fun finding => finding.cluster ≠ some cluster) = [] := by
      intro access
      rw [List.filter_eq_nil_iff]
      intro finding hfinding
      rw [cluster_of_mem_result hfinding, htarget]
      simp
    rw [hnone, hnone]
  · have hresult : (survey access settings request).result found target =
        (survey access' settings request).result found target := by
      unfold survey
      dsimp only
      rw [h.get_copy found htarget]
    rw [hresult]

/-- There is one text at most for the next step, whatever the violations are. -/
theorem instruction_unique {affected : List ClusterState} {violations violations' : List Finding}
    {text text' : String} (h : instruction settings affected violations = some text)
    (h' : instruction settings affected violations' = some text') : text = text' := by
  -- The text names the first affected cluster, and of the violations only whether there are any
  -- counts.
  cases affected with
  | nil => cases h
  | cons first rest =>
    cases violations with
    | nil => cases h
    | cons finding findings =>
      cases violations' with
      | nil => cases h'
      | cons finding' findings' =>
        cases h
        cases h'
        rfl

/-- Complete inspections differ only in the violations on that cluster. -/
theorem sameBut_complete (h : access.SameBut access' (Policy.copyName ns request.policy) cluster) :
    ((survey access settings request).complete request found).SameBut cluster
      ((survey access' settings request).complete request found) where
  policy_eq := rfl
  ns_eq := rfl
  state_eq := rfl
  affected_eq := rfl
  templates_eq := rfl
  violations_eq := by
    rw [violations_complete, violations_complete, List.filter_append, List.filter_append,
      List.filter_flatMap, List.filter_flatMap]
    congr 1
    exact List.flatMap_congr fun target _ => filter_result_eq settings found h target
  nextStep_eq _ _ htext htext' := instruction_unique settings htext htext'

end Inspection

end

/-- What both commands report on a cluster does not depend on the copies of others: whatever is
answered to the fetch of the copy on one cluster, their results are the same but for what is said of
this cluster. The copy may be that of a policy found in any namespace. -/
theorem clusters_isolated {access access' : Access} (settings : Settings) (request : Request)
    {ns cluster : String} (h : access.SameBut access' (Policy.copyName ns request.policy) cluster) :
    (∀ conditions conditions' : Conditions,
      (conditions.outcome fun conditions =>
        diagnose access conditions settings request).2.cancelled = false →
      (conditions'.outcome fun conditions =>
        diagnose access' conditions settings request).2.cancelled = false →
        SameUpTo (Diagnosis.SameBut cluster)
          (conditions.outcome fun conditions => diagnose access conditions settings request).1
          (conditions'.outcome fun conditions =>
            diagnose access' conditions settings request).1) ∧
    (∀ conditions conditions' : Conditions,
      (conditions.outcome fun conditions =>
        inspect access conditions settings request).2.cancelled = false →
      (conditions'.outcome fun conditions =>
        inspect access' conditions settings request).2.cancelled = false →
        SameUpTo (Inspection.SameBut cluster)
          (conditions.outcome fun conditions => inspect access conditions settings request).1
          (conditions'.outcome fun conditions =>
            inspect access' conditions settings request).1) := by
  -- Both runs find the same policy, so that their reports may be compared.
  have hsearch : (Course.ofRequest access request).result =
      (Course.ofRequest access' request).result := by
    rw [Course.ofRequest_congr h]
  simp only [diagnose_eq_run, inspect_eq_run]
  refine ⟨fun conditions conditions' hopen hopen' => ?_,
    fun conditions conditions' hopen hopen' => ?_⟩
  · exact Survey.sameUpTo settings.window_pos hsearch
      (fun found _ => Diagnosis.sameBut_complete settings found h) hopen hopen'
  · exact Survey.sameUpTo settings.window_pos hsearch
      (fun found _ => Inspection.sameBut_complete settings found h) hopen hopen'

/-- The hub of the fleet, when `east` withholds its copy. -/
def Sample.withheldHub : Access :=
  fleetHub.answering (Policy.copyName "hub" "drift") "east" (.error (.undecodable "withheld"))

/-- In the fleet, what is reported on the other clusters stays as it was when `east` withholds its
copy, although it is listed twice. -/
theorem clusters_isolated_fleet :
    Sample.fleetHub.SameBut Sample.withheldHub (Policy.copyName "hub" "drift") "east" ∧
      (Conditions.calm.outcome fun conditions =>
        diagnose Sample.fleetHub conditions {} ⟨"drift", none, none⟩).2.cancelled = false ∧
      (Conditions.calm.outcome fun conditions =>
        diagnose Sample.withheldHub conditions {} ⟨"drift", none, none⟩).2.cancelled = false ∧
      SameUpTo (Diagnosis.SameBut "east")
        (Conditions.calm.outcome fun conditions =>
          diagnose Sample.fleetHub conditions {} ⟨"drift", none, none⟩).1
        (Conditions.calm.outcome fun conditions =>
          diagnose Sample.withheldHub conditions {} ⟨"drift", none, none⟩).1 ∧
      (Conditions.calm.outcome fun conditions =>
        inspect Sample.fleetHub conditions {} ⟨"drift", none, none⟩).2.cancelled = false ∧
      (Conditions.calm.outcome fun conditions =>
        inspect Sample.withheldHub conditions {} ⟨"drift", none, none⟩).2.cancelled = false ∧
      SameUpTo (Inspection.SameBut "east")
        (Conditions.calm.outcome fun conditions =>
          inspect Sample.fleetHub conditions {} ⟨"drift", none, none⟩).1
        (Conditions.calm.outcome fun conditions =>
          inspect Sample.withheldHub conditions {} ⟨"drift", none, none⟩).1 := by
  have hsame : Sample.fleetHub.SameBut Sample.withheldHub (Policy.copyName "hub" "drift") "east" :=
    Access.sameBut_answering _ _ _ _
  -- None of the four runs is cancelled, for nothing disturbs them.
  have hdiagnose := diagnose_calm Sample.fleetHub {} ⟨"drift", none, none⟩
  have hdiagnose' := diagnose_calm Sample.withheldHub {} ⟨"drift", none, none⟩
  have hinspect := inspect_calm Sample.fleetHub {} ⟨"drift", none, none⟩
  have hinspect' := inspect_calm Sample.withheldHub {} ⟨"drift", none, none⟩
  obtain ⟨hdiagnoses, hinspections⟩ := clusters_isolated {} ⟨"drift", none, none⟩ hsame
  exact ⟨hsame, hdiagnose, hdiagnose', hdiagnoses _ _ hdiagnose hdiagnose', hinspect, hinspect',
    hinspections _ _ hinspect hinspect'⟩

end ComplianceTriage
