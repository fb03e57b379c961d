import ComplianceTriage.Proofs.Survey

/-!
# Concurrency does not show

The copies of a policy are fetched concurrently, and what a command reports depends neither on how
many fetches may be in flight nor on the order in which answers come. The fetches that it starts are
those that find the policy and then those of its targets, in order. What the limit decides on is how
far the starts run ahead of the results (`Survey.InOrder.in_flight`), which shows where a target is
never answered (`Survey.InOrder.hung`).

`fetches_in_order` says so of both commands. It goes through the account of their targets
(`Window.Account`), which holds at every moment of a survey.
-/

namespace ComplianceTriage

variable {β ρ : Type}

namespace Request

/-- What finding the policy leaves behind when it succeeds. -/
theorem of_located {access : Access} {conditions : Conditions} {request : Request}
    {found : Resolved} {session : Session}
    (h : (request.locate access conditions).outcome (.start conditions) = (.ok found, session)) :
    (Course.ofRequest access request).result = .ok found ∧
      session.started = (Course.ofRequest access request).fetches ∧
      conditions.Answers 1 (Course.ofRequest access request).fetches ∧
      (conditions.Uncancelled → session.Quiet conditions) := by
  have hends := request.follows_locate access conditions (.start conditions)
    (Session.timely_start conditions)
  rw [h] at hends
  obtain ⟨hresult, hstarted, hanswers, hquiet⟩ := hends.completed_of_ok rfl
  exact ⟨hresult, hstarted, hanswers,
    fun huncancelled => hquiet (Session.quiet_start huncancelled)⟩

/-- The policy is found where all fetches for it are answered and nobody fires the signal. -/
theorem located_of_answers {access : Access} {conditions : Conditions} {request : Request}
    {found : Resolved} (hfound : (Course.ofRequest access request).result = .ok found)
    (huncancelled : conditions.Uncancelled)
    (hanswers : conditions.Answers 1 (Course.ofRequest access request).fetches) :
    ∃ session, (request.locate access conditions).outcome (.start conditions) =
      (.ok found, session) := by
  have hends := request.follows_locate access conditions (.start conditions)
    (Session.timely_start conditions)
  obtain ⟨hresult, -, -⟩ :=
    hends.completed_of_answers (Session.quiet_start huncancelled) hanswers
  exact ⟨_, Prod.ext (hresult.trans hfound) rfl⟩

end Request

namespace Survey

/-- The window and the session of a survey at some moment after it has found its policy. -/
def Moment (survey : Survey β ρ) (access : Access) (conditions : Conditions) (limit : Nat)
    (request : Request) (found : Resolved) (window : Window ClusterState β) (session : Session) :
    Prop :=
  ∃ before, (request.locate access conditions).outcome (.start conditions) = (.ok found, before) ∧
    Window.Reaches (survey.errand request found) conditions limit
      (.start (request.targets found), before) (window, session)

/-- A command that makes a survey, with a limit to the fetches in flight of which none counts as
one, keeps the order of its targets. -/
structure InOrder (survey : Survey β ρ) (access : Access) (request : Request)
    (command : Nat → Conditions → Run ρ) : Prop where
  /-- The command is the survey, and its moments are those of the survey. -/
  command_eq : ∀ limit conditions,
    command limit conditions = survey.run access conditions (max 1 limit) request
  /-- Neither the limit nor the order of the answers shows in the result. -/
  same_result : ∀ (limit limit' : Nat) (conditions conditions' : Conditions),
    conditions.Uncancelled → conditions'.Uncancelled →
    conditions.Answers 1 (conditions.outcome (command limit)).2.started →
    conditions'.Answers 1 (conditions'.outcome (command limit')).2.started →
      (conditions.outcome (command limit)).1 = (conditions'.outcome (command limit')).1 ∧
        (conditions.outcome (command limit)).1 = (survey.course access request).result
  /-- The fetches for the policy come first, and then those for the targets, each at its turn. -/
  started_of_found : ∀ limit (conditions : Conditions) found,
    (Course.ofRequest access request).result = .ok found →
      (conditions.outcome (command limit)).2.started <+:
        (Course.ofRequest access request).fetches ++ request.copyFetches found
  /-- Without a policy there are no fetches for targets. -/
  started_of_failure : ∀ limit (conditions : Conditions) failure,
    (Course.ofRequest access request).result = .error failure →
      (conditions.outcome (command limit)).2.started <+: (Course.ofRequest access request).fetches
  /-- At every moment a first part of the targets was started and a first part of those was emitted,
  and they differ by no more than the limit. -/
  in_flight : ∀ limit conditions found window session,
    survey.Moment access conditions (max 1 limit) request found window session →
      ∃ count, count ≤ (request.targets found).length ∧
        session.started =
          (Course.ofRequest access request).fetches ++ (request.copyFetches found).take count ∧
        window.emitted =
          ((request.targets found).take window.emitted.length).map (survey.result found) ∧
        window.emitted.length ≤ count ∧ count ≤ window.emitted.length + max 1 limit
  /-- The command ends at a moment of the survey, if it finds its policy. -/
  ends_at_moment : ∀ limit (conditions : Conditions) found before,
    (request.locate access conditions).outcome (.start conditions) = (.ok found, before) →
      ∃ window, survey.Moment access conditions (max 1 limit) request found window
        (conditions.outcome (command limit)).2
  /-- Where a target is the first that is never answered, as many targets are started as there is
  room for when those before it are done. -/
  hung : ∀ limit (conditions : Conditions) found place target,
    conditions.Uncancelled →
    (Course.ofRequest access request).result = .ok found →
    (request.targets found)[place]? = some target →
    conditions.Answers 1
      ((Course.ofRequest access request).fetches ++ (request.copyFetches found).take place) →
    conditions.delayOf ((Course.ofRequest access request).fetches.length + 1 + place)
      (request.copyFetch found target) = .never →
      (conditions.outcome (command limit)).1 = .error .cancelled ∧
        (conditions.outcome (command limit)).2.started =
          (Course.ofRequest access request).fetches ++
            (request.copyFetches found).take (place + max 1 limit)
  /-- A larger limit only adds starts at the end. -/
  started_mono : ∀ (limit limit' : Nat) (conditions : Conditions),
    conditions.Uncancelled → limit ≤ limit' →
      (conditions.outcome (command limit)).2.started <+:
        (conditions.outcome (command limit')).2.started

/-- All that a survey starts is on its course. -/
theorem started_on_course (survey : Survey β ρ) (access : Access) (conditions : Conditions)
    {limit : Nat} (hlimit : 0 < limit) (request : Request) :
    (conditions.outcome fun conditions =>
      survey.run access conditions limit request).2.started <+:
        (survey.course access request).fetches := by
  obtain ⟨begun, hbegins, hstarted⟩ :=
    (survey.ends access conditions hlimit request).exists_begun
  rw [hstarted]
  exact hbegins

section

variable {survey : Survey β ρ} {access : Access} {conditions : Conditions} {limit : Nat}
  {request : Request} {found : Resolved} {before : Session}

/-- A survey that has found its policy ends as its window does. -/
theorem outcome_of_located
    (h : (request.locate access conditions).outcome (.start conditions) = (.ok found, before)) :
    (conditions.outcome fun conditions => survey.run access conditions limit request) =
      match (Window.start (request.targets found)).run (survey.errand request found) conditions
        limit before with
      | (some results, session) => (.ok (survey.report found results), session)
      | (none, session) => (.error .cancelled, session) := by
  unfold Conditions.outcome run
  rw [Run.outcome_bind, h]
  dsimp only
  rw [Run.outcome_bind, Run.outcome_fetchAll]
  -- Both sides go by the end of the window.
  generalize (Window.start (request.targets found)).run (survey.errand request found) conditions
    limit before = ending
  obtain ⟨results?, session⟩ := ending
  cases results? <;> rfl

/-- A survey that does not find its policy ends there. -/
theorem outcome_of_not_located {failure : Failure}
    (h : (request.locate access conditions).outcome (.start conditions) =
      (.error failure, before)) :
    (conditions.outcome fun conditions => survey.run access conditions limit request) =
      (.error failure, before) := by
  unfold Conditions.outcome run
  rw [Run.outcome_bind, h]

/-- The targets that were started at a moment and those whose results were emitted. -/
theorem Moment.in_flight (hlimit : 0 < limit) {window : Window ClusterState β} {session : Session}
    (h : survey.Moment access conditions limit request found window session) :
    ∃ count, count ≤ (request.targets found).length ∧
      session.started =
        (Course.ofRequest access request).fetches ++ (request.copyFetches found).take count ∧
      window.emitted =
        ((request.targets found).take window.emitted.length).map (survey.result found) ∧
      window.emitted.length ≤ count ∧ count ≤ window.emitted.length + limit := by
  obtain ⟨before, hlocated, hreaches⟩ := h
  obtain ⟨-, hbefore, -, -⟩ := Request.of_located hlocated
  obtain ⟨done, flying, haccount⟩ := hreaches.account hlimit
  have htargets := haccount.targets_eq
  have hemitted : window.emitted.length = done.length := by
    rw [haccount.emitted_eq, List.length_map]
  have hflying := haccount.length_flying
  have hroom := haccount.room
  -- The targets that were started are those done and those in flight.
  refine ⟨(done ++ flying).length, ?_, ?_, ?_, ?_, ?_⟩
  · rw [htargets]
    simp
  · have hcount : (request.targets found).take (done ++ flying).length = done ++ flying := by
      rw [htargets, List.take_left]
    rw [haccount.started_eq, hbefore, Request.copyFetches, ← List.map_take, hcount]
    rfl
  · rw [hemitted, htargets, List.append_assoc, List.take_left]
    exact haccount.emitted_eq
  · rw [hemitted, List.length_append]
    omega
  · rw [hemitted, List.length_append]
    omega

/-- Where a target is the first that is never answered, a survey ends with the starts that there is
room for. -/
theorem outcome_of_never {place : Nat} {target : ClusterState} (hlimit : 0 < limit)
    (hlocated : (request.locate access conditions).outcome (.start conditions) =
      (.ok found, before))
    (huncancelled : conditions.Uncancelled)
    (htarget : (request.targets found)[place]? = some target)
    (hanswers : conditions.Answers ((Course.ofRequest access request).fetches.length + 1)
      ((request.copyFetches found).take place))
    (hnever : conditions.delayOf ((Course.ofRequest access request).fetches.length + 1 + place)
      (request.copyFetch found target) = .never) :
    (conditions.outcome fun conditions => survey.run access conditions limit request).1 =
        .error .cancelled ∧
      (conditions.outcome fun conditions =>
        survey.run access conditions limit request).2.started =
          (Course.ofRequest access request).fetches ++
            (request.copyFetches found).take (place + limit) := by
  obtain ⟨-, hbefore, -, hquiet⟩ := Request.of_located hlocated
  -- The fetches for the targets are numbered on from those for the policy.
  rw [Request.copyFetches, ← List.map_take, ← hbefore] at hanswers
  rw [← hbefore] at hnever
  obtain ⟨session, hrun, hstarted⟩ :=
    Window.run_hung (survey.errand request found) hlimit (hquiet huncancelled) htarget hanswers
      hnever
  rw [outcome_of_located hlocated, hrun]
  refine ⟨rfl, ?_⟩
  dsimp only
  rw [hstarted, hbefore, Request.copyFetches, ← List.map_take]
  rfl

/-- A survey that has found its policy completes if the fetches for its targets are answered. -/
theorem started_of_answers (hlimit : 0 < limit)
    (hlocated : (request.locate access conditions).outcome (.start conditions) =
      (.ok found, before))
    (huncancelled : conditions.Uncancelled)
    (hanswers : conditions.Answers ((Course.ofRequest access request).fetches.length + 1)
      (request.copyFetches found)) :
    (conditions.outcome fun conditions =>
      survey.run access conditions limit request).2.started =
        (Course.ofRequest access request).fetches ++ request.copyFetches found := by
  obtain ⟨hfound, -, hpolicy, -⟩ := Request.of_located hlocated
  -- With the fetches for the policy, all those of the course are answered.
  have hcourse : conditions.Answers 1 (survey.course access request).fetches := by
    rw [survey.course_of_ok hfound, Conditions.answers_append, Nat.add_comm 1]
    exact ⟨hpolicy, hanswers⟩
  obtain ⟨-, hstarted, -⟩ := (survey.ends access conditions hlimit request).completed_of_answers
    (Session.quiet_start huncancelled) hcourse
  rw [hstarted, survey.course_of_ok hfound]
  rfl

/-- A larger limit only adds starts at the end. -/
theorem started_mono {limit' : Nat} (hlimit : 0 < limit) (hle : limit ≤ limit')
    (huncancelled : conditions.Uncancelled) :
    (conditions.outcome fun conditions =>
      survey.run access conditions limit request).2.started <+:
        (conditions.outcome fun conditions =>
          survey.run access conditions limit' request).2.started := by
  have hlimit' : 0 < limit' := Nat.lt_of_lt_of_le hlimit hle
  generalize hlocate : (request.locate access conditions).outcome (.start conditions) = located
  obtain ⟨failure | found, before⟩ := located
  -- Without a policy the limit is never used.
  · simp only [outcome_of_not_located hlocate, List.prefix_rfl]
  by_cases hanswers : conditions.Answers ((Course.ofRequest access request).fetches.length + 1)
      (request.copyFetches found)
  -- Both start all targets.
  · simp only [started_of_answers hlimit hlocate huncancelled hanswers,
      started_of_answers hlimit' hlocate huncancelled hanswers, List.prefix_rfl]
  -- Both are stuck behind the first target that is never answered.
  · obtain ⟨place, fetch, hfetch, hbefore, hnever⟩ := conditions.exists_first_never hanswers
    obtain ⟨target, htarget, rfl⟩ : ∃ target, (request.targets found)[place]? = some target ∧
        request.copyFetch found target = fetch := by
      rw [Request.copyFetches, List.getElem?_map, Option.map_eq_some_iff] at hfetch
      exact hfetch
    rw [(outcome_of_never hlimit hlocate huncancelled htarget hbefore hnever).2,
      (outcome_of_never hlimit' hlocate huncancelled htarget hbefore hnever).2]
    exact (List.prefix_append_right_inj _).2 (List.take_prefix_take_left (by omega))

end

/-- Every survey keeps the order of its targets. -/
theorem inOrder (survey : Survey β ρ) {access : Access} {request : Request}
    {command : Nat → Conditions → Run ρ} (hcommand : ∀ limit conditions,
      command limit conditions = survey.run access conditions (max 1 limit) request) :
    survey.InOrder access request command := by
  have hlimit : ∀ limit : Nat, 0 < max 1 limit := fun limit =>
    Nat.lt_of_lt_of_le Nat.one_pos (Nat.le_max_left 1 limit)
  obtain rfl : command = fun limit conditions =>
      survey.run access conditions (max 1 limit) request :=
    funext fun limit => funext fun conditions => hcommand limit conditions
  constructor
  case command_eq => exact hcommand
  case same_result =>
    intro limit limit' conditions conditions' huncancelled huncancelled' hanswers hanswers'
    -- Whatever the limit is, a run that is not cut off ends as the course does.
    have hresult := (survey.ends access conditions (hlimit limit) request).completed_of_quiet
      (Session.quiet_start huncancelled) (List.nil_append _).symm hanswers
    have hresult' := (survey.ends access conditions' (hlimit limit') request).completed_of_quiet
      (Session.quiet_start huncancelled') (List.nil_append _).symm hanswers'
    exact ⟨hresult.1.trans hresult'.1.symm, hresult.1⟩
  case started_of_found =>
    intro limit conditions found hfound
    have hbegins := survey.started_on_course access conditions (hlimit limit) request
    rwa [survey.course_of_ok hfound] at hbegins
  case started_of_failure =>
    intro limit conditions failure hfailure
    have hbegins := survey.started_on_course access conditions (hlimit limit) request
    rwa [survey.course_of_error hfailure] at hbegins
  case in_flight =>
    intro limit conditions found window session hmoment
    exact hmoment.in_flight (hlimit limit)
  case ends_at_moment =>
    intro limit conditions found before hlocated
    obtain ⟨window, session, hreaches, hend⟩ := Window.run_ends (survey.errand request found)
      conditions (max 1 limit) (.start (request.targets found)) before
    refine ⟨window, before, hlocated, ?_⟩
    rw [outcome_of_located hlocated]
    -- Complete or cancelled, the window that the run ends with is one that it reaches.
    rcases hend with ⟨-, -, hrun⟩ | ⟨-, hrun⟩
    · rwa [hrun]
    · rwa [hrun]
  case hung =>
    intro limit conditions found place target huncancelled hfound htarget hanswers hnever
    rw [Conditions.answers_append, Nat.add_comm 1] at hanswers
    -- The policy is found, since the fetches for it are among those that are answered.
    obtain ⟨before, hlocated⟩ := Request.located_of_answers hfound huncancelled hanswers.1
    exact outcome_of_never (hlimit limit) hlocated huncancelled htarget hanswers.2 hnever
  case started_mono =>
    intro limit limit' conditions huncancelled hle
    exact started_mono (hlimit limit) (by omega) huncancelled

end Survey

/-- Both commands keep the order of their targets, and so do their reports. The targets are those
of the policy's entries about clusters that the request selects and that are not compliant, in the
order of the policy. -/
theorem fetches_in_order (access : Access) (settings : Settings) (request : Request) :
    (Diagnosis.survey access settings request).InOrder access request
        (fun limit conditions =>
          diagnose access conditions { settings with fetchLimit := limit } request) ∧
      (Inspection.survey access settings request).InOrder access request
        (fun limit conditions =>
          inspect access conditions { settings with fetchLimit := limit } request) ∧
      (∀ limit (conditions : Conditions) found report,
        (Course.ofRequest access request).result = .ok found →
        Policy.clusterStates found.policy ≠ [] →
        (conditions.outcome fun conditions =>
          diagnose access conditions { settings with fetchLimit := limit } request).1 =
            .ok report →
          report.clusters.map ClusterDiagnosis.clusterState = request.targets found) ∧
      (∀ limit (conditions : Conditions) found report,
        (Course.ofRequest access request).result = .ok found →
        Inspection.selected request (Policy.clusterStates found.policy) ≠ [] →
        (conditions.outcome fun conditions =>
          inspect access conditions { settings with fetchLimit := limit } request).1 =
            .ok report →
          report.affected =
            Inspection.selected request (Policy.clusterStates found.policy)) ∧
      ∀ found,
        request.targets found =
            ((Policy.clusterEntries found.policy).filter fun entry =>
              request.selects (entry.textAt ["clustername"]) &&
                entry.textAt ["compliant"] ≠ compliant).map Policy.entryState ∧
          Inspection.selected request (Policy.clusterStates found.policy) =
            ((Policy.clusterEntries found.policy).filter fun entry =>
              request.selects (entry.textAt ["clustername"])).map Policy.entryState := by
  refine ⟨Survey.inOrder _ fun limit conditions => ?_, Survey.inOrder _ fun limit conditions => ?_,
    ?_, ?_, fun found => ⟨request.targets_eq_map found, ?_⟩⟩
  · exact diagnose_eq_run access conditions { settings with fetchLimit := limit } request
  · exact inspect_eq_run access conditions { settings with fetchLimit := limit } request
  · intro limit conditions found report hfound hstates hreport
    simp only [diagnose_eq_run] at hreport
    rw [Survey.report_eq_complete _ (Settings.window_pos _) hfound hreport]
    exact Diagnosis.clusterStates_complete access _ request hstates
  · intro limit conditions found report hfound hstates hreport
    simp only [inspect_eq_run] at hreport
    rw [Survey.report_eq_complete _ (Settings.window_pos _) hfound hreport]
    exact Inspection.affected_complete access _ request hstates
  · exact Policy.filter_clusterStates found.policy fun s => request.selects s.cluster

/-- The fleet has four targets. Where the copy on the second one, `south`, never comes, a limit of
two lets the third be started before the caller gives up, and the fourth never is. -/
example :
    let conditions := { Conditions.calm with
      unusual := fun number => if number = 3 then some .never else none }
    (conditions.outcome fun conditions =>
      diagnose Sample.fleetHub conditions { fetchLimit := 2 } ⟨"drift", none, none⟩).2.started =
        [.list .policy none, .get .policy "hub.drift" "east", .get .policy "hub.drift" "south",
          .get .policy "hub.drift" "east"] := by
  decide +kernel

end ComplianceTriage
