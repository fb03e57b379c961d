import ComplianceTriage.Hub.Access

/-!
# A session of fetches

A request asks the hub in fetches, whose answers take their time, and may be cancelled at any
moment. What a fetch answers is up to the access; *when* it answers, and when the signal to cancel
fires, is up to the conditions of the session. A session records the fetches that were started, in
order, and how many of them there were when the signal fired: no fetch is to be started after that.
-/

namespace ComplianceTriage

/-- A question to the hub. -/
inductive Fetch where
  | get (type : ResourceType) (name ns : String)
  | list (type : ResourceType) (ns? : Option String)
deriving DecidableEq, Repr, Inhabited

/-- When the answer to a fetch comes. -/
inductive Delay where
  /-- At once. -/
  | prompt
  /-- Sometime. -/
  | late
  /-- Never. -/
  | never
deriving DecidableEq, Repr, Inhabited

/-- What happens while a request waits. -/
inductive Event where
  /-- One of the late answers comes: the one at this place among them, counted round. -/
  | answer (place : Nat)
  /-- The signal to cancel fires. -/
  | cancel
deriving DecidableEq, Repr, Inhabited

/-- The conditions under which a request runs. When all events have happened, the late answers come
in the order of their fetches; when then nothing but fetches that are never answered is left, the
caller gives up and cancels. -/
structure Conditions where
  /-- When the answer to a question usually comes. -/
  delay : Fetch → Delay
  /-- Whether the signal has fired before the request starts. -/
  cancelled : Bool
  /-- The number of the fetch, counted from one, at whose start the signal fires. -/
  cancelAtFetch : Option Nat
  events : List Event
  /-- When the answer to the fetch of a number comes, if not when its question's usually does. -/
  unusual : Nat → Option Delay := fun _ => none

namespace Conditions

/-- When the answer to a fetch comes, by the number of the fetch, counted from one. -/
def delayOf (conditions : Conditions) (number : Nat) (fetch : Fetch) : Delay :=
  (conditions.unusual number).getD (conditions.delay fetch)

/-- All answers come at once, and the signal never fires. -/
def calm : Conditions :=
  { delay := fun _ => .prompt, cancelled := false, cancelAtFetch := none, events := [] }

/-- The signal does not fire unless the caller gives up. -/
def Uncancelled (conditions : Conditions) : Prop :=
  conditions.cancelled = false ∧ conditions.cancelAtFetch = none ∧ .cancel ∉ conditions.events

end Conditions

/-- What has happened so far. -/
structure Session where
  /-- The fetches that were started, in order. -/
  started : List Fetch
  /-- How many fetches had been started when the signal fired, if it has. -/
  firedAfter : Option Nat
  /-- The events to come. -/
  pending : List Event
deriving DecidableEq, Repr, Inhabited

namespace Session

/-- The session at the start of a request. -/
def start (conditions : Conditions) : Session :=
  ⟨[], if conditions.cancelled then some 0 else none, conditions.events⟩

/-- Whether the signal has fired. -/
def cancelled (session : Session) : Bool :=
  session.firedAfter.isSome

/-- Fires the signal; a signal that has fired stays as it is. -/
def fire (session : Session) : Session :=
  { session with firedAfter := some (session.firedAfter.getD session.started.length) }

/-- Starts a fetch. -/
def startFetch (conditions : Conditions) (session : Session) (fetch : Fetch) : Session :=
  -- The signal may fire at this very fetch, which then was started before it.
  let next := { session with started := session.started ++ [fetch] }
  if conditions.cancelAtFetch = some next.started.length then next.fire else next

/-- The session with these events still to come. -/
def expecting (session : Session) (pending : List Event) : Session :=
  { session with pending }

/-- Other events to come do not change whether the signal has fired. -/
@[simp]
theorem cancelled_expecting (session : Session) (pending : List Event) :
    (session.expecting pending).cancelled = session.cancelled := rfl

/-- The events that a session is told to expect are those to come. -/
@[simp]
theorem pending_expecting (session : Session) (pending : List Event) :
    (session.expecting pending).pending = pending := rfl

/-- A signal that is fired has fired. -/
@[simp]
theorem cancelled_fire (session : Session) : session.fire.cancelled = true := rfl

/-- Firing the signal leaves the events to come. -/
@[simp]
theorem pending_fire (session : Session) : session.fire.pending = session.pending := rfl

/-- A fetch is started behind those before it. -/
@[simp]
theorem started_startFetch (conditions : Conditions) (session : Session) (fetch : Fetch) :
    (session.startFetch conditions fetch).started = session.started ++ [fetch] := by
  simp only [startFetch]
  split <;> rfl

/-- Starting a fetch leaves the events to come. -/
@[simp]
theorem pending_startFetch (conditions : Conditions) (session : Session) (fetch : Fetch) :
    (session.startFetch conditions fetch).pending = session.pending := by
  simp only [startFetch]
  split <;> rfl

end Session

end ComplianceTriage
