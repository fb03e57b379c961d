import ComplianceTriage.Proofs.Window
import ComplianceTriage.Triage.Diagnosis
import ComplianceTriage.Triage.Inspection

/-!
# Surveys

A diagnosis and an inspection are surveys of one kind: they find the policy, fetch its copies on the
clusters that are not compliant, and make a report of what came. They differ only in what they make
of an answer and in the report (`diagnose_eq_run`, `inspect_eq_run`). So what a survey does about
windows and the signal is shown once: `Survey.follows_run` says that it follows its course.

The course of a search for the policy (`Course.ofResolution`) has at most two fetches, and none of
its failures is a cancellation.
-/

namespace ComplianceTriage

/-! ## Finding the policy -/

/-- How a search of all namespaces for a policy ends, by the answer to it. -/
def Resolved.ofList (name : String) (ns? : Option String) :
    Except AccessError (List Value) → Except Failure Resolved
  | .error cause => .error (.access cause)
  | .ok policies =>
    match Resolved.first? name policies with
    | some found => .ok found
    | none => .error (.policyNotFound name ns?)

namespace Course

/-- Searching all namespaces for a policy. -/
def ofSearch (access : Access) (name : String) (ns? : Option String) : Course Resolved :=
  ⟨[.list .policy none], Resolved.ofList name ns? (access.list .policy none)⟩

/-- What follows the answer to a direct fetch of a policy: the search, if it failed. -/
def ofDirectAnswer (access : Access) (name ns : String) :
    Except AccessError Value → Course Resolved
  | .ok policy => ⟨[], .ok ⟨policy, ns⟩⟩
  | .error _ => ofSearch access name (some ns)

/-- Finding a policy: directly where a namespace is named, and then by a search. -/
def ofResolution (access : Access) (name : String) (place? : Option String) : Course Resolved :=
  match place? with
  | none => ofSearch access name none
  | some ns =>
    let rest := ofDirectAnswer access name ns (access.get .policy name ns)
    ⟨.get .policy name ns :: rest.fetches, rest.result⟩

/-- What a request does until its policy is found. -/
def ofRequest (access : Access) (request : Request) : Course Resolved :=
  match request.check with
  | .ok () => ofResolution access request.policy request.place?
  | .error failure => ended (.error failure)

end Course

namespace Run

variable {conditions : Conditions}

/-- A search of all namespaces follows its course. -/
theorem follows_searchAll (access : Access) (name : String) (ns? : Option String) :
    Follows conditions (searchAll access conditions name ns?)
      (Course.ofSearch access name ns?) := by
  have hcourse : Course.ofSearch access name ns? =
      Course.ofFetch (.list .policy none) (access.list .policy none) >>= fun answer =>
        Course.ended (Resolved.ofList name ns? answer) := rfl
  rw [hcourse]
  refine (follows_fetch conditions _ _).bind fun answer => ?_
  unfold Resolved.ofList
  cases answer with
  | error cause => exact follows_throw (.access cause)
  | ok policies =>
    dsimp only
    -- The search fails, or it finds the first policy of the name.
    cases Resolved.first? name policies with
    | some found => exact follows_pure found
    | none => exact follows_throw (.policyNotFound name ns?)

/-- Finding a policy follows its course. -/
theorem follows_resolve (access : Access) (name : String) (place? : Option String) :
    Follows conditions (resolve access conditions name place?)
      (Course.ofResolution access name place?) := by
  cases place? with
  | none => exact follows_searchAll access name none
  | some ns =>
    have hcourse : Course.ofResolution access name (some ns) =
        Course.ofFetch (.get .policy name ns) (access.get .policy name ns) >>=
          Course.ofDirectAnswer access name ns := by
      rw [Course.bind_of_ok rfl]
      rfl
    rw [hcourse]
    refine (follows_fetch conditions _ _).bind fun answer => ?_
    unfold Course.ofDirectAnswer
    -- Any failure of the direct fetch leads to the search.
    cases answer with
    | ok policy => exact follows_pure (Resolved.mk policy ns)
    | error cause => exact follows_searchAll access name (some ns)

end Run

/-- Looks at the signal and the request, and finds its policy. -/
def Request.locate (access : Access) (conditions : Conditions) (request : Request) :
    Run Resolved := do
  Run.checkSignal
  liftExcept request.check
  resolve access conditions request.policy request.place?

/-- Finding the policy of a request follows its course. -/
theorem Request.follows_locate (access : Access) (conditions : Conditions) (request : Request) :
    Run.Follows conditions (request.locate access conditions)
      (Course.ofRequest access request) := by
  have hcourse : Course.ofRequest access request =
      (pure () : Course Unit) >>= fun _ => Course.ended request.check >>= fun _ =>
        Course.ofResolution access request.policy request.place? := by
    -- The look at the signal adds nothing to a course, and a request that is refused ends it.
    rw [Course.bind_of_ok rfl]
    unfold Course.ofRequest
    cases hcheck : request.check with
    | ok done => rw [Course.bind_of_ok rfl]; rfl
    | error failure => rw [Course.bind_of_error rfl]; rfl
  rw [hcourse]
  exact Run.follows_checkSignal.bind fun _ => (Run.follows_ended request.check).bind fun _ =>
    Run.follows_resolve access request.policy request.place?

/-- A search of all namespaces does not fail for a cancellation. -/
theorem Resolved.ofList_ne_cancelled (name : String) (ns? : Option String)
    (answer : Except AccessError (List Value)) : ofList name ns? answer ≠ .error .cancelled := by
  unfold ofList
  cases answer with
  | error cause => simp
  | ok policies =>
    dsimp only
    cases first? name policies <;> simp

/-- A request that is refused is not cancelled. -/
theorem Request.check_ne_cancelled (request : Request) : request.check ≠ .error .cancelled := by
  unfold check
  split <;> simp

/-- Finding a policy does not fail for a cancellation, unless it is cut off. -/
theorem Course.ofRequest_ne_cancelled (access : Access) (request : Request) :
    (Course.ofRequest access request).result ≠ .error .cancelled := by
  unfold ofRequest
  -- Neither a refused request nor a search fails for a cancellation.
  cases hcheck : request.check with
  | error failure =>
    intro h
    have hfailure : failure = .cancelled := by injection h
    rw [hfailure] at hcheck
    exact request.check_ne_cancelled hcheck
  | ok done =>
    unfold ofResolution
    dsimp only
    cases request.place? with
    | none => exact Resolved.ofList_ne_cancelled _ _ _
    | some ns =>
      unfold ofDirectAnswer
      dsimp only
      cases access.get .policy request.policy ns with
      | ok policy => simp
      | error cause => exact Resolved.ofList_ne_cancelled _ _ _

/-- Two hubs lead a request to the same policy if they answer the direct fetch alike and, where it
does not succeed, the search as well. -/
theorem Course.ofRequest_eq_of_answers {access access' : Access} {request : Request}
    (hget : ∀ ns, access.get .policy request.policy ns = access'.get .policy request.policy ns)
    (hsearch : (∃ ns policy, request.place? = some ns ∧
        access.get .policy request.policy ns = .ok policy) ∨
      ∀ ns?, ofSearch access request.policy ns? = ofSearch access' request.policy ns?) :
    ofRequest access request = ofRequest access' request := by
  unfold ofRequest
  cases request.check with
  | error failure => rfl
  | ok done =>
    dsimp only
    unfold ofResolution ofDirectAnswer
    -- Either the direct fetch succeeds and no search is made, or the searches agree.
    rcases hsearch with ⟨ns, policy, hplace, hanswer⟩ | hsearch
    · simp only [hplace, ← hget, hanswer]
    · simp only [hget, hsearch]

/-! ## Surveys -/

namespace Policy

/-- The entries of a policy about its clusters; what is not an object is junk. -/
def clusterEntries (policy : Value) : List Value :=
  (policy.itemsAt ["status", "status"]).filter Value.isObject

/-- What an entry says of its cluster. -/
def entryState (entry : Value) : ClusterState :=
  ⟨entry.textAt ["clustername"], entry.textAt ["compliant"]⟩

/-- There are states of clusters if there are entries. -/
theorem clusterStates_eq_nil_iff (policy : Value) :
    clusterStates policy = [] ↔ clusterEntries policy = [] :=
  List.map_eq_nil_iff

/-- Passing over states of clusters is passing over entries. -/
theorem filter_clusterStates (policy : Value) (keep : ClusterState → Bool) :
    (clusterStates policy).filter keep =
      ((clusterEntries policy).filter fun entry => keep (entryState entry)).map entryState :=
  List.filter_map

end Policy

namespace Request

/-- The clusters whose copies of a policy a request is about. -/
def targets (request : Request) (found : Resolved) : List ClusterState :=
  Diagnosis.targets request (Policy.clusterStates found.policy)

/-- A request for no cluster in particular reports on every cluster. -/
theorem selects_of_none {request : Request} (h : request.onlyCluster? = none) (cluster : String) :
    request.selects cluster = true := by
  unfold selects
  rw [h]

/-- It is about all clusters that are not compliant. -/
theorem targets_of_none {request : Request} (h : request.onlyCluster? = none) (found : Resolved) :
    request.targets found =
      (Policy.clusterStates found.policy).filter fun s => s.state ≠ compliant := by
  have hselected : (Policy.clusterStates found.policy).filter (fun s => request.selects s.cluster) =
      Policy.clusterStates found.policy :=
    List.filter_eq_self.2 fun s _ => selects_of_none h s.cluster
  rw [targets, Diagnosis.targets, hselected]

/-- In terms of the policy, it is about those entries that it reports on and that are not
compliant, in order. -/
theorem targets_eq_map (request : Request) (found : Resolved) :
    request.targets found =
      ((Policy.clusterEntries found.policy).filter fun entry =>
        request.selects (entry.textAt ["clustername"]) &&
          entry.textAt ["compliant"] ≠ compliant).map Policy.entryState := by
  rw [targets, Diagnosis.targets, List.filter_filter, Policy.filter_clusterStates]
  -- One pass over the entries stands for the two over the states.
  refine congrArg _ (List.filter_congr fun entry _ => ?_)
  exact Bool.and_comm _ _

/-- The fetch of the copy of a policy on a cluster. -/
def copyFetch (request : Request) (found : Resolved) (cluster : ClusterState) : Fetch :=
  .get .policy (Policy.copyName found.ns request.policy) cluster.cluster

/-- The fetches of the copies of a policy, in the order of its clusters. -/
def copyFetches (request : Request) (found : Resolved) : List Fetch :=
  (request.targets found).map (request.copyFetch found)

end Request

/-- What a request makes of its policy and the copies of it. -/
structure Survey (β ρ : Type) where
  /-- What comes of a cluster. -/
  result : Resolved → ClusterState → β
  report : Resolved → List β → ρ

/-- At least one fetch may be in flight, whatever the settings are. -/
theorem Settings.window_pos (settings : Settings) : 0 < settings.window :=
  Nat.lt_of_lt_of_le Nat.one_pos (Nat.le_max_left 1 settings.fetchLimit)

namespace Survey

variable {β ρ : Type}

/-- What a survey does for each cluster. -/
def errand (survey : Survey β ρ) (request : Request) (found : Resolved) :
    Errand ClusterState β :=
  ⟨request.copyFetch found, survey.result found⟩

/-- Finds the policy, fetches its copies with at most `limit` fetches in flight, and reports. -/
def run (survey : Survey β ρ) (access : Access) (conditions : Conditions) (limit : Nat)
    (request : Request) : Run ρ := do
  let found ← request.locate access conditions
  let results ← Run.fetchAll (survey.errand request found) conditions limit (request.targets found)
  return survey.report found results

/-- The report on a policy whose copies were fetched. -/
def complete (survey : Survey β ρ) (request : Request) (found : Resolved) : ρ :=
  survey.report found ((request.targets found).map (survey.result found))

/-- The course of a survey: that of finding the policy, and then one fetch for each cluster. -/
def course (survey : Survey β ρ) (access : Access) (request : Request) : Course ρ :=
  Course.ofRequest access request >>= fun found =>
    ⟨request.copyFetches found, .ok (survey.complete request found)⟩

/-- A survey follows its course, with any window. -/
theorem follows_run (survey : Survey β ρ) (access : Access) (conditions : Conditions)
    {limit : Nat} (hlimit : 0 < limit) (request : Request) :
    Run.Follows conditions (survey.run access conditions limit request)
      (survey.course access request) := by
  unfold run course
  refine (request.follows_locate access conditions).bind fun found => ?_
  -- The copies are fetched in one window, and the report on them needs no fetches.
  have hcourse : (⟨request.copyFetches found, .ok (survey.complete request found)⟩ : Course ρ) =
      Course.ofTargets (survey.errand request found) (request.targets found) >>= fun results =>
        pure (survey.report found results) := by
    rw [Course.bind_of_ok rfl, Course.fetches_pure, List.append_nil]
    rfl
  rw [hcourse]
  refine (Run.follows_fetchAll _ conditions hlimit _).bind fun results => ?_
  exact Run.follows_pure (survey.report found results)

/-- Under all conditions, a survey ends as one that sets out on its course. -/
theorem ends (survey : Survey β ρ) (access : Access) (conditions : Conditions) {limit : Nat}
    (hlimit : 0 < limit) (request : Request) :
    (survey.course access request).Ends conditions (.start conditions)
      (conditions.outcome fun conditions => survey.run access conditions limit request) :=
  survey.follows_run access conditions hlimit request (.start conditions)
    (Session.timely_start conditions)

/-- Once its policy is found, a survey fetches the copies and reports. -/
theorem course_of_ok (survey : Survey β ρ) {access : Access} {request : Request} {found : Resolved}
    (h : (Course.ofRequest access request).result = .ok found) :
    survey.course access request =
      ⟨(Course.ofRequest access request).fetches ++ request.copyFetches found,
        .ok (survey.complete request found)⟩ :=
  Course.bind_of_ok h _

/-- Without its policy a survey fails as the search did. -/
theorem course_of_error (survey : Survey β ρ) {access : Access} {request : Request}
    {failure : Failure} (h : (Course.ofRequest access request).result = .error failure) :
    survey.course access request =
      ⟨(Course.ofRequest access request).fetches, .error failure⟩ :=
  Course.bind_of_error h _

/-- The course of a survey does not end in a cancellation. -/
theorem course_ne_cancelled (survey : Survey β ρ) (access : Access) (request : Request) :
    (survey.course access request).result ≠ .error .cancelled := by
  cases h : (Course.ofRequest access request).result with
  | ok found => rw [survey.course_of_ok h]; simp
  | error failure =>
    rw [survey.course_of_error h]
    intro hcancelled
    have hfailure : failure = .cancelled := by injection hcancelled
    rw [hfailure] at h
    exact Course.ofRequest_ne_cancelled access request h

/-- A survey that returns a report has completed its course. -/
theorem completed_of_ok (survey : Survey β ρ) {access : Access} {conditions : Conditions}
    {limit : Nat} (hlimit : 0 < limit) {request : Request} {report : ρ}
    (h : (conditions.outcome fun conditions => survey.run access conditions limit request).1 =
      .ok report) :
    ∃ found, (Course.ofRequest access request).result = .ok found ∧
      report = survey.complete request found ∧
      (conditions.outcome fun conditions => survey.run access conditions limit request).2.started =
        (Course.ofRequest access request).fetches ++ request.copyFetches found := by
  obtain ⟨hresult, hstarted, -, -⟩ :=
    (survey.ends access conditions hlimit request).completed_of_ok h
  -- A report is not returned where the policy was not found.
  cases hfound : (Course.ofRequest access request).result with
  | error failure =>
    rw [survey.course_of_error hfound] at hresult
    cases hresult
  | ok found =>
    rw [survey.course_of_ok hfound] at hresult hstarted
    injection hresult with hreport
    exact ⟨found, rfl, hreport.symm, hstarted⟩

/-- The report of a survey that has found its policy is the complete one. -/
theorem report_eq_complete (survey : Survey β ρ) {access : Access} {conditions : Conditions}
    {limit : Nat} (hlimit : 0 < limit) {request : Request} {found : Resolved} {report : ρ}
    (hfound : (Course.ofRequest access request).result = .ok found)
    (h : (conditions.outcome fun conditions => survey.run access conditions limit request).1 =
      .ok report) :
    report = survey.complete request found := by
  obtain ⟨found', hfound', hreport, -⟩ := survey.completed_of_ok hlimit h
  have hsame : found' = found := by
    rw [hfound] at hfound'
    injection hfound' with hsame
    exact hsame.symm
  rw [hreport, hsame]

/-- A survey that has found its policy and is not cancelled returns the complete report. -/
theorem report_of_not_cancelled (survey : Survey β ρ) {access : Access} {conditions : Conditions}
    {limit : Nat} (hlimit : 0 < limit) {request : Request} {found : Resolved}
    (hfound : (Course.ofRequest access request).result = .ok found)
    (hopen : (conditions.outcome fun conditions =>
      survey.run access conditions limit request).2.cancelled = false) :
    (conditions.outcome fun conditions => survey.run access conditions limit request).1 =
      .ok (survey.complete request found) := by
  obtain ⟨hresult, -⟩ :=
    (survey.ends access conditions hlimit request).completed_of_not_cancelled hopen
  rw [hresult, survey.course_of_ok hfound]

/-- When nothing disturbs it, a survey does what its course says. -/
theorem outcome_calm (survey : Survey β ρ) (access : Access) {limit : Nat} (hlimit : 0 < limit)
    (request : Request) :
    (Conditions.calm.outcome fun conditions => survey.run access conditions limit request).1 =
        (survey.course access request).result ∧
      (Conditions.calm.outcome fun conditions =>
        survey.run access conditions limit request).2.cancelled = false := by
  obtain ⟨hresult, -, hquiet⟩ :=
    (survey.ends access Conditions.calm hlimit request).completed_of_answers
      (Session.quiet_start Conditions.uncancelled_calm) (Conditions.answers_calm _ _)
  exact ⟨hresult, hquiet.1⟩

/-- When nothing disturbs it, a survey that finds its policy returns the complete report. -/
theorem report_calm (survey : Survey β ρ) {access : Access} {limit : Nat} (hlimit : 0 < limit)
    {request : Request} {found : Resolved}
    (hfound : (Course.ofRequest access request).result = .ok found) :
    (Conditions.calm.outcome fun conditions => survey.run access conditions limit request).1 =
      .ok (survey.complete request found) := by
  rw [(survey.outcome_calm access hlimit request).1, survey.course_of_ok hfound]

end Survey

/-! ## Two surveys -/

/-- The results of two runs: the same failure, or two reports that are related. -/
inductive SameUpTo {ρ : Type} (related : ρ → ρ → Prop) :
    Except Failure ρ → Except Failure ρ → Prop where
  /-- Both runs fail with the same failure. -/
  | failed (failure : Failure) : SameUpTo related (.error failure) (.error failure)
  /-- Both runs report. -/
  | reported {report report' : ρ} (h : related report report') :
      SameUpTo related (.ok report) (.ok report')

/-- Two surveys that find the same policy, or fail to find one alike, have results that are the
same up to a relation of their complete reports. -/
theorem Survey.sameUpTo {β ρ : Type} {survey survey' : Survey β ρ} {access access' : Access}
    {conditions conditions' : Conditions} {limit : Nat} (hlimit : 0 < limit)
    {request request' : Request} {related : ρ → ρ → Prop}
    (hsearch : (Course.ofRequest access request).result =
      (Course.ofRequest access' request').result)
    (hrelated : ∀ found, (Course.ofRequest access request).result = .ok found →
      related (survey.complete request found) (survey'.complete request' found))
    (hopen : (conditions.outcome fun conditions =>
      survey.run access conditions limit request).2.cancelled = false)
    (hopen' : (conditions'.outcome fun conditions =>
      survey'.run access' conditions limit request').2.cancelled = false) :
    SameUpTo related
      (conditions.outcome fun conditions => survey.run access conditions limit request).1
      (conditions'.outcome fun conditions => survey'.run access' conditions limit request').1 := by
  obtain ⟨hresult, -⟩ :=
    (survey.ends access conditions hlimit request).completed_of_not_cancelled hopen
  obtain ⟨hresult', -⟩ :=
    (survey'.ends access' conditions' hlimit request').completed_of_not_cancelled hopen'
  rw [hresult, hresult']
  -- Neither run was cut off, so both have come to the end of their courses.
  cases hfound : (Course.ofRequest access request).result with
  | error failure =>
    rw [survey.course_of_error hfound, survey'.course_of_error (hsearch.symm.trans hfound)]
    exact .failed failure
  | ok found =>
    rw [survey.course_of_ok hfound, survey'.course_of_ok (hsearch.symm.trans hfound)]
    exact .reported (hrelated found hfound)

/-! ## Both commands are surveys -/

/-- Nothing is fetched for no targets. -/
theorem Run.fetchAll_nil {τ β : Type} (errand : Errand τ β) (conditions : Conditions)
    (limit : Nat) : fetchAll errand conditions limit [] = pure [] := by
  funext session
  -- A window without targets is complete at its first step.
  have hrun : (Window.start [] : Window τ β).run errand conditions limit session =
      (some [], session) := by
    unfold Window.run
    rfl
  unfold fetchAll ExceptT.mk
  beta_reduce
  rw [hrun]
  rfl

/-- What a diagnosis makes of its policy and the copies. -/
def Diagnosis.survey (access : Access) (settings : Settings) (request : Request) :
    Survey ClusterDiagnosis Diagnosis where
  result found cluster :=
    ofAnswer (Policy.copyName found.ns request.policy) (DesiredState.ofPolicy found.policy) settings
      cluster (access.get .policy (Policy.copyName found.ns request.policy) cluster.cluster)
  report found clusters :=
    report request found
      (if (Policy.clusterStates found.policy).isEmpty then ofCopy request found settings
        else clusters)

/-- What an inspection makes of its policy and the copies. -/
def Inspection.survey (access : Access) (settings : Settings) (request : Request) :
    Survey (List Finding) Inspection where
  result found cluster :=
    ofAnswer settings cluster
      (access.get .policy (Policy.copyName found.ns request.policy) cluster.cluster)
  report found copies :=
    let states := selected request (Policy.clusterStates found.policy)
    report settings request found (if states.isEmpty then ownCluster found else states)
      (Finding.ofPolicy found.policy none settings.messageLimit ++ copies.flatten)

/-- A diagnosis is a survey. -/
theorem diagnose_eq_run (access : Access) (conditions : Conditions) (settings : Settings)
    (request : Request) :
    diagnose access conditions settings request =
      (Diagnosis.survey access settings request).run access conditions settings.window request := by
  unfold diagnose Survey.run Request.locate
  simp only [bind_assoc]
  refine bind_congr fun _ => bind_congr fun _ => bind_congr fun found => ?_
  by_cases hempty : (Policy.clusterStates found.policy).isEmpty
  -- Without states of clusters there are no targets, and nothing is fetched.
  · have htargets : request.targets found = [] := by
      rw [List.isEmpty_iff] at hempty
      simp [Request.targets, Diagnosis.targets, hempty]
    have hreport : (Diagnosis.survey access settings request).report found [] =
        Diagnosis.report request found (Diagnosis.ofCopy request found settings) := by
      unfold Diagnosis.survey
      dsimp only
      rw [if_pos hempty]
    rw [if_pos hempty, htargets, Run.fetchAll_nil, pure_bind, hreport]
  · have hreport : (Diagnosis.survey access settings request).report found =
        Diagnosis.report request found := by
      funext clusters
      unfold Diagnosis.survey
      dsimp only
      rw [if_neg hempty]
    rw [if_neg hempty, hreport]
    rfl

/-- An inspection is a survey. -/
theorem inspect_eq_run (access : Access) (conditions : Conditions) (settings : Settings)
    (request : Request) :
    inspect access conditions settings request =
      (Inspection.survey access settings request).run access conditions settings.window
        request := by
  unfold inspect Survey.run Request.locate
  simp only [bind_assoc]
  refine bind_congr fun _ => bind_congr fun _ => bind_congr fun found => ?_
  by_cases hempty : (Inspection.selected request (Policy.clusterStates found.policy)).isEmpty
  -- The targets are some of the selected states; with none of these there are none.
  · have htargets : request.targets found = [] := by
      rw [List.isEmpty_iff] at hempty
      show (Inspection.selected request (Policy.clusterStates found.policy)).filter _ = []
      rw [hempty, List.filter_nil]
    have hreport : (Inspection.survey access settings request).report found [] =
        Inspection.report settings request found (Inspection.ownCluster found)
          (Finding.ofPolicy found.policy none settings.messageLimit) := by
      unfold Inspection.survey
      dsimp only
      rw [if_pos hempty, List.flatten_nil, List.append_nil]
    rw [if_pos hempty, htargets, Run.fetchAll_nil, pure_bind, hreport]
  · have hreport : (Inspection.survey access settings request).report found = fun copies =>
        Inspection.report settings request found
          (Inspection.selected request (Policy.clusterStates found.policy))
          (Finding.ofPolicy found.policy none settings.messageLimit ++ copies.flatten) := by
      funext copies
      unfold Inspection.survey
      dsimp only
      rw [if_neg hempty]
    rw [if_neg hempty, hreport]
    rfl

/-- When nothing disturbs it, a diagnosis is not cancelled. -/
theorem diagnose_calm (access : Access) (settings : Settings) (request : Request) :
    (Conditions.calm.outcome fun conditions =>
      diagnose access conditions settings request).2.cancelled = false := by
  simp only [diagnose_eq_run]
  exact (Survey.outcome_calm _ access settings.window_pos request).2

/-- When nothing disturbs it, an inspection is not cancelled. -/
theorem inspect_calm (access : Access) (settings : Settings) (request : Request) :
    (Conditions.calm.outcome fun conditions =>
      inspect access conditions settings request).2.cancelled = false := by
  simp only [inspect_eq_run]
  exact (Survey.outcome_calm _ access settings.window_pos request).2

/-- When nothing disturbs it, an inspection that has found its policy returns the complete
report. -/
theorem inspect_complete (access : Access) (settings : Settings) {request : Request}
    {found : Resolved} (hfound : (Course.ofRequest access request).result = .ok found) :
    (Conditions.calm.outcome fun conditions => inspect access conditions settings request).1 =
      .ok ((Inspection.survey access settings request).complete request found) := by
  simp only [inspect_eq_run]
  exact Survey.report_calm _ settings.window_pos hfound

/-! ## Complete reports -/

/-- The cluster that a diagnosis tells of, with its state. -/
def ClusterDiagnosis.clusterState (diagnosis : ClusterDiagnosis) : ClusterState :=
  ⟨diagnosis.cluster, diagnosis.state⟩

namespace Diagnosis

/-- What there is to say of a policy that is its own cluster: nothing, if it is compliant or of no
state. -/
def ofOwn (found : Resolved) (settings : Settings) : List ClusterDiagnosis :=
  if Policy.state found.policy ≠ "" && Policy.state found.policy ≠ compliant then
    [⟨found.ns, Policy.state found.policy,
      Violation.ofPolicy found.policy found.ns (DesiredState.ofPolicy found.policy) settings⟩]
  else []

/-- A policy that calls itself not compliant is told of as its own cluster. -/
theorem ofOwn_of_open {found : Resolved} (settings : Settings)
    (hstate : Policy.state found.policy ≠ "") (hopen : Policy.state found.policy ≠ compliant) :
    ofOwn found settings =
      [⟨found.ns, Policy.state found.policy,
        Violation.ofPolicy found.policy found.ns (DesiredState.ofPolicy found.policy)
          settings⟩] := by
  unfold ofOwn
  rw [if_pos (by simp [hstate, hopen])]

/-- A policy that is compliant, or of no state, is not told of. -/
theorem ofOwn_of_closed {found : Resolved} (settings : Settings)
    (h : Policy.state found.policy = "" ∨ Policy.state found.policy = compliant) :
    ofOwn found settings = [] := by
  unfold ofOwn
  rcases h with hstate | hstate
  · rw [if_neg (by simp [hstate])]
  · rw [if_neg (by simp [hstate])]

/-- A request is told of it if it reports on the namespace of the policy. -/
theorem ofCopy_eq_filter (request : Request) (found : Resolved) (settings : Settings) :
    ofCopy request found settings =
      (ofOwn found settings).filter fun diagnosis => request.selects diagnosis.cluster := by
  unfold ofCopy ofOwn
  dsimp only
  -- The filter sees one entry or none.
  cases (decide (Policy.state found.policy ≠ "") && decide (Policy.state found.policy ≠ compliant))
    with
  | false => rfl
  | true => cases hselects : request.selects found.ns <;> simp [hselects]

/-- A request for no cluster in particular is told of all there is to say. -/
theorem ofCopy_of_none {request : Request} (h : request.onlyCluster? = none) (found : Resolved)
    (settings : Settings) : ofCopy request found settings = ofOwn found settings := by
  rw [ofCopy_eq_filter, List.filter_eq_self]
  exact fun diagnosis _ => Request.selects_of_none h diagnosis.cluster

/-- A complete diagnosis of a policy with states of clusters has one for each target. -/
theorem clusters_complete (access : Access) (settings : Settings) (request : Request)
    {found : Resolved} (h : Policy.clusterStates found.policy ≠ []) :
    ((survey access settings request).complete request found).clusters =
      (request.targets found).map ((survey access settings request).result found) := by
  have hstates : ¬ (Policy.clusterStates found.policy).isEmpty := by
    rwa [List.isEmpty_iff]
  unfold Survey.complete survey report
  dsimp only
  rw [if_neg hstates]

/-- It tells of all targets, in order. -/
theorem clusterStates_complete (access : Access) (settings : Settings) (request : Request)
    {found : Resolved} (h : Policy.clusterStates found.policy ≠ []) :
    ((survey access settings request).complete request found).clusters.map
      ClusterDiagnosis.clusterState = request.targets found := by
  rw [clusters_complete access settings request h, List.map_map]
  exact List.map_id _

/-- A complete diagnosis of a policy without states of clusters has at most the policy itself. -/
theorem clusters_complete_of_nil (access : Access) (settings : Settings) (request : Request)
    {found : Resolved} (h : Policy.clusterStates found.policy = []) :
    ((survey access settings request).complete request found).clusters =
      ofCopy request found settings := by
  unfold Survey.complete survey report
  dsimp only
  rw [h, List.isEmpty_nil, if_pos rfl]

end Diagnosis

/-- The clusters that a complete inspection presents as affected. -/
theorem Inspection.affected_complete_eq (access : Access) (settings : Settings) (request : Request)
    (found : Resolved) :
    ((survey access settings request).complete request found).affected =
      if (selected request (Policy.clusterStates found.policy)).isEmpty then ownCluster found
      else selected request (Policy.clusterStates found.policy) := rfl

/-- A complete inspection tells of all clusters that are reported on, where there are any. -/
theorem Inspection.affected_complete (access : Access) (settings : Settings) (request : Request)
    {found : Resolved} (h : selected request (Policy.clusterStates found.policy) ≠ []) :
    ((survey access settings request).complete request found).affected =
      selected request (Policy.clusterStates found.policy) := by
  have hstates : ¬ (selected request (Policy.clusterStates found.policy)).isEmpty := by
    rwa [List.isEmpty_iff]
  rw [affected_complete_eq, if_neg hstates]

/-- The violations of a complete inspection are those of the policy itself and those of its copies
on the targets. -/
theorem Inspection.violations_complete (access : Access) (settings : Settings) (request : Request)
    (found : Resolved) :
    ((survey access settings request).complete request found).violations =
      Finding.ofPolicy found.policy none settings.messageLimit ++
        (request.targets found).flatMap ((survey access settings request).result found) := rfl

/-- What a policy tells of is on the cluster that it is asked for. -/
theorem Finding.cluster_of_mem {finding : Finding} {policy : Value} {cluster : Option String}
    {limit : Nat} (h : finding ∈ ofPolicy policy cluster limit) : finding.cluster = cluster := by
  unfold ofPolicy at h
  obtain ⟨detail, -, rfl⟩ := List.mem_map.1 h
  rfl

/-- What an inspection finds on a target has the target for its cluster. -/
theorem Inspection.cluster_of_mem_result {access : Access} {settings : Settings} {request : Request}
    {found : Resolved} {target : ClusterState} {finding : Finding}
    (h : finding ∈ (survey access settings request).result found target) :
    finding.cluster = some target.cluster := by
  unfold survey ofAnswer at h
  dsimp only at h
  split at h
  · exact Finding.cluster_of_mem h
  · cases h

/-! ## Samples -/

namespace Sample

/-- A policy that is not compliant on the cluster `east` and compliant on `west`. -/
def policy : Value :=
  .object
    [("metadata", .object [("name", .string "drift"), ("namespace", .string "hub")]),
      ("status", .object
        [("compliant", .string "NonCompliant"),
          ("status", .array
            [.object [("clustername", .string "east"), ("compliant", .string "NonCompliant")],
              .object [("clustername", .string "west"), ("compliant", .string "Compliant")]])])]

/-- Its copy on `east`, which tells of a subscription that is missing. -/
def copy : Value :=
  .object
    [("status", .object
      [("details", .array
        [.object
          [("compliant", .string "NonCompliant"),
            ("templateMeta", .object [("name", .string "operators")]),
            ("history", .array
              [.object [("message",
                .string "violation - subscriptions [lvms] not found in namespace storage")]])]])])]

/-- The hub that holds both. -/
def hub : Access where
  get _ name ns :=
    if ns = "hub" then .ok policy
    else if ns = "east" then .ok copy
    else .error (.notFound "Policy" name ns)
  list _ _ := .ok [policy]

/-- What the policy of the fleet wants: one subscription. -/
def fleetSpec : Value :=
  .object
    [("policy-templates", .array
      [.object [("objectDefinition", .object
        [("kind", .string "ConfigurationPolicy"),
          ("metadata", .object [("name", .string "operators")]),
          ("spec", .object [("object-templates", .array
            [.object [("objectDefinition", .object
              [("kind", .string "Subscription"),
                ("metadata", .object
                  [("name", .string "lvms"), ("namespace", .string "storage")])])]])])])]])]

/-- A policy with junk among its entries, a cluster that is listed twice and one without a state. -/
def fleet : Value :=
  .object
    [("metadata", .object [("name", .string "drift"), ("namespace", .string "hub")]),
      ("spec", fleetSpec),
      ("status", .object
        [("compliant", .string "NonCompliant"),
          ("status", .array
            [.string "junk",
              .object [("clustername", .string "east"), ("compliant", .string "NonCompliant")],
              .object [("clustername", .string "west"), ("compliant", .string "Compliant")],
              .object [("clustername", .string "south")],
              .object [("clustername", .string "east"), ("compliant", .string "Pending")],
              .object [("clustername", .string "north"), ("compliant", .string "NonCompliant")]])])]

/-- Its copy on `east` and `north`, one of whose templates has no history. -/
def fleetCopy : Value :=
  .object
    [("spec", fleetSpec),
      ("status", .object
        [("compliant", .string "NonCompliant"),
          ("details", .array
            [.object
              [("compliant", .string "NonCompliant"),
                ("templateMeta", .object [("name", .string "operators")]),
                ("history", .array
                  [.object [("message",
                    .string "violation - subscriptions [lvms] not found in namespace storage")],
                    .object [("message", .string "older")]])],
              .object [("compliant", .string "NonCompliant"), ("history", .array [])],
              .object [("compliant", .string "Compliant"), ("history", .array [.object []])]])])]

/-- The hub of the fleet; on `south` there is no copy. -/
def fleetHub : Access where
  get _ name ns :=
    if ns = "hub" then .ok fleet
    else if ns = "east" || ns = "north" then .ok fleetCopy
    else .error (.notFound "Policy" name ns)
  list _ _ := .ok [fleet]

end Sample

end ComplianceTriage
