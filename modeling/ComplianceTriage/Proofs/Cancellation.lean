import ComplianceTriage.Proofs.Survey

/-!
# Cancelling is all or nothing

A request that is cancelled at any moment ends in one of two ways: with the failure that says so, or
with exactly what it would have come to had the signal never fired. Nothing is fetched after the
signal. `cancellation_all_or_nothing` says so of both commands, under all conditions.

A command follows one course under all conditions. If it completes it under some conditions, all its
fetches are answered under these, and answers come as they do without the signal
(`Conditions.undisturbed`), so that it completes its course without it too.
-/

namespace ComplianceTriage

variable {β ρ : Type}

namespace Conditions

/-- The same conditions without the signal; the answers come as before. -/
def undisturbed (conditions : Conditions) : Conditions :=
  { conditions with
    cancelled := false
    cancelAtFetch := none
    events := conditions.events.filter fun event => event ≠ .cancel }

/-- Where nothing disturbs a request, the signal does not fire. -/
theorem uncancelled_undisturbed (conditions : Conditions) : conditions.undisturbed.Uncancelled :=
  ⟨rfl, rfl, by simp [undisturbed]⟩

end Conditions

/-- What the signal may do to a command, whenever it fires: all or nothing. -/
structure AllOrNothing (access : Access) (request : Request) (command : Conditions → Run ρ)
    (conditions : Conditions) : Prop where
  /-- The command is cancelled, or it does and returns what it would without the signal. -/
  cancelled_or_undisturbed :
    (conditions.outcome command).1 = .error .cancelled ∨
      (conditions.undisturbed.outcome command).1 = (conditions.outcome command).1 ∧
        (conditions.undisturbed.outcome command).2.started =
          (conditions.outcome command).2.started ∧
        (conditions.undisturbed.outcome command).2.cancelled = false
  /-- What it returns if it is not cancelled is what every run without the signal returns. -/
  cancelled_or_same : ∀ others : Conditions,
    (others.outcome command).2.cancelled = false →
      (conditions.outcome command).1 = .error .cancelled ∨
        (conditions.outcome command).1 = (others.outcome command).1
  /-- It is cancelled only if the signal has fired. -/
  fired_of_cancelled :
    (conditions.outcome command).1 = .error .cancelled →
      (conditions.outcome command).2.cancelled = true
  /-- No fetch is started after the signal has fired. -/
  none_after_signal : ∀ count,
    (conditions.outcome command).2.firedAfter = some count →
      (conditions.outcome command).2.started.length = count
  /-- If it returns a report, the copies on all clusters that it is about were fetched. -/
  copies_fetched : ∀ report,
    (conditions.outcome command).1 = .ok report →
      ∃ found, (Course.ofRequest access request).result = .ok found ∧
        (conditions.outcome command).2.started =
          (Course.ofRequest access request).fetches ++ request.copyFetches found

namespace Survey

/-- A survey is all or nothing. -/
theorem allOrNothing (survey : Survey β ρ) (access : Access) {limit : Nat} (hlimit : 0 < limit)
    (request : Request) (conditions : Conditions) :
    AllOrNothing access request (fun conditions => survey.run access conditions limit request)
      conditions := by
  have hends := survey.ends access conditions hlimit request
  constructor
  case cancelled_or_undisturbed =>
    rcases hends.cancelled_or_completed with hcancelled | ⟨hresult, hstarted, hanswers⟩
    · exact .inl hcancelled
    · -- The answers come as they do under the conditions, and so none of them is missing.
      have hundisturbed := survey.ends access conditions.undisturbed hlimit request
      obtain ⟨hresult', hstarted', hopen, -, -⟩ := hundisturbed.completed_of_answers
        (Session.quiet_start conditions.uncancelled_undisturbed) hanswers
      refine .inr ⟨?_, ?_, hopen⟩
      · rw [hresult', hresult]
      · rw [hstarted', hstarted]
        rfl
  case cancelled_or_same =>
    intro others hopen
    -- Both runs complete the one course, unless this one is cancelled.
    have hothers := survey.ends access others hlimit request
    rcases hends.cancelled_or_completed with hcancelled | ⟨hresult, -, -⟩
    · exact .inl hcancelled
    · exact .inr (hresult.trans (hothers.completed_of_not_cancelled hopen).1.symm)
  case fired_of_cancelled =>
    -- No course ends cancelled by itself.
    exact hends.fired_of_cancelled (survey.course_ne_cancelled access request)
  case none_after_signal => exact hends.timely
  case copies_fetched =>
    intro report hreport
    obtain ⟨found, hfound, -, hstarted⟩ := survey.completed_of_ok hlimit hreport
    exact ⟨found, hfound, hstarted⟩

end Survey

/-- Whenever the signal fires, both commands are all or nothing; and a report that is returned
misses no cluster. -/
theorem cancellation_all_or_nothing (access : Access) (settings : Settings) (request : Request)
    (conditions : Conditions) :
    AllOrNothing access request (fun conditions => diagnose access conditions settings request)
        conditions ∧
      AllOrNothing access request (fun conditions => inspect access conditions settings request)
        conditions ∧
      (∀ report, (conditions.outcome fun conditions =>
          diagnose access conditions settings request).1 = .ok report →
        ∃ found, (Course.ofRequest access request).result = .ok found ∧
          (Policy.clusterStates found.policy ≠ [] →
            report.clusters.map ClusterDiagnosis.clusterState = request.targets found)) ∧
      (∀ report, (conditions.outcome fun conditions =>
          inspect access conditions settings request).1 = .ok report →
        ∃ found, (Course.ofRequest access request).result = .ok found ∧
          (Inspection.selected request (Policy.clusterStates found.policy) ≠ [] →
            report.affected =
              Inspection.selected request (Policy.clusterStates found.policy))) := by
  simp only [diagnose_eq_run, inspect_eq_run]
  refine ⟨Survey.allOrNothing _ access settings.window_pos request conditions,
    Survey.allOrNothing _ access settings.window_pos request conditions, ?_, ?_⟩
  · intro report hreport
    obtain ⟨found, hfound, rfl, -⟩ := Survey.completed_of_ok _ settings.window_pos hreport
    exact ⟨found, hfound, Diagnosis.clusterStates_complete access settings request⟩
  · intro report hreport
    obtain ⟨found, hfound, rfl, -⟩ := Survey.completed_of_ok _ settings.window_pos hreport
    exact ⟨found, hfound, Inspection.affected_complete access settings request⟩

end ComplianceTriage
