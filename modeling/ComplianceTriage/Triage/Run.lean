import ComplianceTriage.Failure
import ComplianceTriage.Hub.Window

/-!
# Runs

A run is a computation over the session of a request: it may start fetches, and it ends with a
result or a failure. Being cancelled is a failure like any other, and ends the run.
-/

namespace ComplianceTriage

/-- A computation that fetches, and that may fail. -/
abbrev Run (α : Type) : Type := ExceptT Failure (StateM Session) α

namespace Run

/-- The outcome of a run, and the session it leaves. -/
def outcome {α : Type} (run : Run α) (session : Session) : Except Failure α × Session :=
  StateT.run (ExceptT.run run) session

/-- The results for some targets, fetched with at most `limit` fetches in flight. -/
def fetchAll {τ β : Type} (errand : Errand τ β) (conditions : Conditions) (limit : Nat)
    (targets : List τ) : Run (List β) :=
  ExceptT.mk fun session =>
    match (Window.start targets).run errand conditions limit session with
    | (some results, session') => (.ok results, session')
    | (none, session') => (.error .cancelled, session')

/-- The answer to one fetch. -/
def fetch {α : Type} (conditions : Conditions) (question : Fetch) (answer : α) : Run α := do
  let answers ← fetchAll ⟨fun _ => question, fun _ => answer⟩ conditions 1 [()]
  match answers with
  | [answer] => return answer
  -- There is one answer to one question.
  | _ => throw .cancelled

/-- Fails if the signal has fired. -/
def checkSignal : Run Unit :=
  ExceptT.mk fun session =>
    (if session.cancelled then .error .cancelled else .ok (), session)

end Run

end ComplianceTriage
