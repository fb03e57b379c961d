import ComplianceTriage.Triage.Run

/-!
# Courses

A course is what a request does when nothing disturbs it: the fetches it makes, in order, and how it
ends. A course knows nothing of delays, of windows and of the signal to cancel. A run *follows* a
course when it ends in one of two ways from every session: it starts and awaits all fetches of the
course and has its result, or the signal fires and it is cut off after some of them
(`Course.Ends`). Where nobody fires the signal, it is cut off only behind a fetch that is never
answered.

Courses compose as runs do (`Run.Follows.bind`), so that a request follows the course that is put
together from those of its parts.
-/

namespace ComplianceTriage

variable {α β : Type}

namespace Conditions

/-- What a command comes to under the conditions, from the start of its session. -/
def outcome (conditions : Conditions) (command : Conditions → Run α) :
    Except Failure α × Session :=
  (command conditions).outcome (.start conditions)

/-- Fetches that are all answered someday, where the first of them has this number. -/
def Answers (conditions : Conditions) (number : Nat) (fetches : List Fetch) : Prop :=
  ∀ fetch ∈ fetches.zipIdx number, conditions.delayOf fetch.2 fetch.1 ≠ .never

/-- All of some fetches are answered if the first ones are and then the rest. -/
theorem answers_append (conditions : Conditions) (number : Nat) (first rest : List Fetch) :
    conditions.Answers number (first ++ rest) ↔
      conditions.Answers number first ∧ conditions.Answers (number + first.length) rest := by
  unfold Answers
  rw [List.zipIdx_append]
  exact List.forall_mem_append

/-- All of some fetches are answered if the first one is and then the rest. -/
theorem answers_cons (conditions : Conditions) (number : Nat) (fetch : Fetch)
    (fetches : List Fetch) : conditions.Answers number (fetch :: fetches) ↔
      conditions.delayOf number fetch ≠ .never ∧ conditions.Answers (number + 1) fetches := by
  unfold Answers
  rw [List.zipIdx_cons]
  exact List.forall_mem_cons

/-- One fetch is answered if its answer does not stay out for ever. -/
theorem answers_singleton (conditions : Conditions) (number : Nat) (fetch : Fetch) :
    conditions.Answers number [fetch] ↔ conditions.delayOf number fetch ≠ .never := by
  simp [Answers]

/-- Where all of some fetches are answered, the first ones are. -/
theorem Answers.of_prefix {conditions : Conditions} {number : Nat} {first fetches : List Fetch}
    (h : conditions.Answers number fetches) (hbegins : first <+: fetches) :
    conditions.Answers number first := by
  obtain ⟨rest, rfl⟩ := hbegins
  exact ((conditions.answers_append _ _ _).1 h).1

/-- Each of the fetches is answered, by its place among them. -/
theorem Answers.delayOf_ne {conditions : Conditions} {number : Nat} {fetches : List Fetch}
    {fetch : Fetch} (h : conditions.Answers number fetches) (place : Nat)
    (hplace : fetches[place]? = some fetch) :
    conditions.delayOf (number + place) fetch ≠ .never :=
  h (fetch, number + place) (List.mk_add_mem_zipIdx_iff_getElem?.2 hplace)

/-- Where nothing disturbs a request, all fetches are answered. -/
theorem answers_calm (number : Nat) (fetches : List Fetch) : calm.Answers number fetches := by
  intro fetch _ hnever
  cases hnever

/-- Where nothing disturbs a request, the signal does not fire. -/
theorem uncancelled_calm : calm.Uncancelled := ⟨rfl, rfl, List.not_mem_nil⟩

/-- If not all fetches are answered, there is a first that is not. -/
theorem exists_first_never (conditions : Conditions) {number : Nat} {fetches : List Fetch}
    (h : ¬ conditions.Answers number fetches) :
    ∃ place fetch, fetches[place]? = some fetch ∧
      conditions.Answers number (fetches.take place) ∧
      conditions.delayOf (number + place) fetch = .never := by
  induction fetches generalizing number with
  | nil => simp [Answers] at h
  | cons fetch fetches ih =>
    rw [answers_cons, not_and] at h
    -- Either this one is the first, or the first of the rest is.
    by_cases hfetch : conditions.delayOf number fetch = .never
    · exact ⟨0, fetch, rfl, by simp [Answers], hfetch⟩
    · obtain ⟨place, first, hplace, hbefore, hnever⟩ := ih (h hfetch)
      -- In the whole list the first of the rest stands one place later, under the same number.
      refine ⟨place + 1, first, hplace, ?_, ?_⟩
      · rw [List.take_succ_cons, answers_cons]
        exact ⟨hfetch, hbefore⟩
      · rw [← Nat.add_assoc, Nat.add_right_comm]
        exact hnever

end Conditions

namespace Session

/-- No fetch was started after the signal had fired. -/
def Timely (session : Session) : Prop :=
  ∀ count, session.firedAfter = some count → session.started.length = count

/-- The signal has not fired, and it will not unless the caller gives up. -/
def Quiet (conditions : Conditions) (session : Session) : Prop :=
  session.cancelled = false ∧ conditions.cancelAtFetch = none ∧ .cancel ∉ session.pending

/-- Before the signal has fired, no fetch can have been started after it. -/
theorem timely_of_not_cancelled {session : Session} (h : session.cancelled = false) :
    session.Timely := by
  intro count hcount
  simp [cancelled, hcount] at h

/-- At the start no fetch has been started. -/
theorem timely_start (conditions : Conditions) : (start conditions).Timely := by
  -- A signal that fired before the start did so after no fetch.
  intro count hcount
  simp only [start] at hcount ⊢
  split at hcount
  · simpa using hcount
  · cases hcount

/-- A session is quiet at the start if the signal does not fire by itself. -/
theorem quiet_start {conditions : Conditions} (h : conditions.Uncancelled) :
    (start conditions).Quiet conditions := by
  obtain ⟨hcancelled, hfetch, hevents⟩ := h
  exact ⟨by simp [start, hcancelled, cancelled], hfetch, hevents⟩

/-- A signal that fires does so after the fetches that were started so far. -/
theorem timely_fire {session : Session} (h : session.cancelled = false) :
    session.fire.Timely := by
  have hnone : session.firedAfter = none := by simpa [cancelled] using h
  intro count hcount
  simpa [fire, hnone] using hcount

/-- That no fetch came late does not depend on the events to come. -/
theorem Timely.expecting {session : Session} (h : session.Timely) (pending : List Event) :
    (session.expecting pending).Timely := h

/-- A fetch that is started in time leaves the session in time, also where the signal fires at its
start. -/
theorem timely_startFetch (conditions : Conditions) {session : Session} (fetch : Fetch)
    (h : session.cancelled = false) : (session.startFetch conditions fetch).Timely := by
  unfold startFetch
  dsimp only
  -- The signal may fire at this very fetch, which then counts as started before it.
  split
  · exact timely_fire h
  · exact timely_of_not_cancelled h

/-- A quiet session stays quiet when a fetch is started. -/
theorem Quiet.startFetch {conditions : Conditions} {session : Session} (fetch : Fetch)
    (h : session.Quiet conditions) : (session.startFetch conditions fetch).Quiet conditions := by
  obtain ⟨hcancelled, hfetch, hpending⟩ := h
  refine ⟨?_, hfetch, by rwa [pending_startFetch]⟩
  -- No fetch is named at which the signal fires, so this start does not fire it.
  unfold Session.startFetch
  rw [hfetch, if_neg (by simp)]
  exact hcancelled

/-- A quiet session stays quiet when some of the events have happened. -/
theorem Quiet.expecting {conditions : Conditions} {session : Session} {pending : List Event}
    (h : session.Quiet conditions) (hpending : pending ⊆ session.pending) :
    (session.expecting pending).Quiet conditions :=
  ⟨h.1, h.2.1, fun hcancel => h.2.2 (hpending hcancel)⟩

end Session

/-- What a request does when nothing disturbs it. -/
structure Course (α : Type) where
  /-- The fetches it makes, in order. -/
  fetches : List Fetch
  /-- How it ends. -/
  result : Except Failure α

namespace Course

/-- One course and then another, which the result of the first decides on. A failure ends it. -/
def andThen (course : Course α) (next : α → Course β) : Course β :=
  match course.result with
  | .ok a => ⟨course.fetches ++ (next a).fetches, (next a).result⟩
  | .error failure => ⟨course.fetches, .error failure⟩

/-- Courses follow one another; a failure ends them. -/
instance : Monad Course where
  pure a := ⟨[], .ok a⟩
  bind := andThen

/-- The course that ends at once. -/
def ended (result : Except Failure α) : Course α := ⟨[], result⟩

/-- A course that only returns something has no fetches. -/
@[simp]
theorem fetches_pure (a : α) : (pure a : Course α).fetches = [] := rfl

/-- After a course that succeeds, the next one goes on with what it gave. -/
theorem bind_of_ok {course : Course α} {a : α} (h : course.result = .ok a)
    (next : α → Course β) :
    course >>= next = ⟨course.fetches ++ (next a).fetches, (next a).result⟩ := by
  show course.andThen next = _
  rw [andThen, h]

/-- A course that fails is not gone on with. -/
theorem bind_of_error {course : Course α} {failure : Failure} (h : course.result = .error failure)
    (next : α → Course β) : course >>= next = ⟨course.fetches, .error failure⟩ := by
  show course.andThen next = _
  rw [andThen, h]

/-- A course that goes on begins with its first part. -/
theorem fetches_prefix_bind (course : Course α) (next : α → Course β) :
    course.fetches <+: (course >>= next).fetches := by
  cases h : course.result with
  | ok a =>
    rw [bind_of_ok h]
    exact List.prefix_append _ _
  | error failure => simp only [bind_of_error h, List.prefix_rfl]

/-- The ways in which a run that sets out on a course from a session may end. -/
inductive Ends (conditions : Conditions) (course : Course α) (session : Session) :
    Except Failure α × Session → Prop where
  /-- All fetches are started and answered, and the result is that of the course. -/
  | completed {session' : Session}
      (started : session'.started = session.started ++ course.fetches)
      (answered : conditions.Answers (session.started.length + 1) course.fetches)
      (timely : session'.Timely)
      (quiet : session.Quiet conditions → session'.Quiet conditions) :
      Ends conditions course session (course.result, session')
  /-- The signal fires, and the run stops at some of the fetches. -/
  | cutOff {session' : Session} {begun : List Fetch}
      (begins : begun <+: course.fetches)
      (started : session'.started = session.started ++ begun)
      (fired : session'.cancelled = true)
      (timely : session'.Timely)
      (hung : session.Quiet conditions →
        ¬ conditions.Answers (session.started.length + 1) begun) :
      Ends conditions course session (.error .cancelled, session')

namespace Ends

variable {conditions : Conditions} {course : Course α} {session : Session}
  {outcome : Except Failure α × Session}

/-- However a run ends, it has started a first part of its course. -/
theorem exists_begun (h : course.Ends conditions session outcome) :
    ∃ begun, begun <+: course.fetches ∧ outcome.2.started = session.started ++ begun := by
  cases h with
  | completed started _ _ _ => exact ⟨course.fetches, List.prefix_rfl, started⟩
  | @cutOff _ begun begins started _ _ _ => exact ⟨begun, begins, started⟩

/-- No fetch is started too late, however a run ends. -/
theorem timely (h : course.Ends conditions session outcome) : outcome.2.Timely := by
  cases h with
  | completed _ _ timely _ => exact timely
  | cutOff _ _ _ timely _ => exact timely

/-- A run that is not cancelled has completed its course. -/
theorem cancelled_or_completed (h : course.Ends conditions session outcome) :
    outcome.1 = .error .cancelled ∨
      outcome.1 = course.result ∧ outcome.2.started = session.started ++ course.fetches ∧
        conditions.Answers (session.started.length + 1) course.fetches := by
  cases h with
  | completed started answered _ _ => exact .inr ⟨rfl, started, answered⟩
  | cutOff _ _ _ _ _ => exact .inl rfl

/-- If the course itself does not end cancelled, a run that does was cut off. -/
theorem fired_of_cancelled (h : course.Ends conditions session outcome)
    (hcourse : course.result ≠ .error .cancelled) (hcancelled : outcome.1 = .error .cancelled) :
    outcome.2.cancelled = true := by
  cases h with
  | completed _ _ _ _ => exact absurd hcancelled hcourse
  | cutOff _ _ fired _ _ => exact fired

/-- A run whose signal did not fire has completed its course. -/
theorem completed_of_not_cancelled (h : course.Ends conditions session outcome)
    (hopen : outcome.2.cancelled = false) :
    outcome.1 = course.result ∧ outcome.2.started = session.started ++ course.fetches := by
  cases h with
  | completed started _ _ _ => exact ⟨rfl, started⟩
  | cutOff _ _ fired _ _ =>
    rw [hopen] at fired
    cases fired

/-- A run that succeeds has completed its course. -/
theorem completed_of_ok (h : course.Ends conditions session outcome) {a : α}
    (hok : outcome.1 = .ok a) :
    course.result = .ok a ∧ outcome.2.started = session.started ++ course.fetches ∧
      conditions.Answers (session.started.length + 1) course.fetches ∧
      (session.Quiet conditions → outcome.2.Quiet conditions) := by
  cases h with
  | completed started answered _ quiet => exact ⟨hok, started, answered, quiet⟩
  | cutOff _ _ _ _ _ => cases hok

/-- In a quiet session a run is not cut off if what it started is answered. -/
theorem completed_of_quiet (h : course.Ends conditions session outcome)
    (hquiet : session.Quiet conditions) {begun : List Fetch}
    (hstarted : outcome.2.started = session.started ++ begun)
    (hanswers : conditions.Answers (session.started.length + 1) begun) :
    outcome.1 = course.result ∧ begun = course.fetches ∧ outcome.2.Quiet conditions := by
  cases h with
  | completed started _ _ quiet =>
    -- What was started tells how much of the course is done.
    rw [started, List.append_cancel_left_eq] at hstarted
    exact ⟨rfl, hstarted.symm, quiet hquiet⟩
  | cutOff _ started _ _ hung =>
    -- A run is cut off only behind a fetch that hangs, and none does.
    rw [started, List.append_cancel_left_eq] at hstarted
    rw [hstarted] at hung
    exact absurd hanswers (hung hquiet)

/-- In a quiet session a run completes a course whose fetches are all answered. -/
theorem completed_of_answers (h : course.Ends conditions session outcome)
    (hquiet : session.Quiet conditions)
    (hanswers : conditions.Answers (session.started.length + 1) course.fetches) :
    outcome.1 = course.result ∧ outcome.2.started = session.started ++ course.fetches ∧
      outcome.2.Quiet conditions := by
  obtain ⟨begun, hbegins, hstarted⟩ := h.exists_begun
  obtain ⟨hresult, rfl, hquiet'⟩ :=
    h.completed_of_quiet hquiet hstarted (hanswers.of_prefix hbegins)
  exact ⟨hresult, hstarted, hquiet'⟩

end Ends

end Course

namespace Run

/-- From every session, the run ends as one that sets out on the course. -/
def Follows (conditions : Conditions) (run : Run α) (course : Course α) : Prop :=
  ∀ session : Session, session.Timely → course.Ends conditions session (run.outcome session)

/-- A run goes on in the session that the one before it has left, unless that one failed. -/
theorem outcome_bind (run : Run α) (next : α → Run β) (session : Session) :
    (run >>= next).outcome session =
      match run.outcome session with
      | (.ok a, session') => (next a).outcome session'
      | (.error failure, session') => (.error failure, session') := by
  unfold Run.outcome
  rw [ExceptT.run_bind, StateT.run_bind]
  generalize StateT.run (ExceptT.run run) session = outcome
  obtain ⟨result, session'⟩ := outcome
  cases result <;> rfl

variable {conditions : Conditions}

/-- A result that needs no fetches follows the course that has it from the start. -/
theorem follows_ended (result : Except Failure α) :
    Follows conditions (liftExcept result) (Course.ended result) := by
  intro session htimely
  -- Nothing is asked for, and the session is handed on as it is.
  have houtcome : (liftExcept result : Run α).outcome session = (result, session) := by
    cases result <;> rfl
  rw [houtcome]
  exact .completed (List.append_nil _).symm (by simp [Conditions.Answers, Course.ended]) htimely id

/-- A run that only returns something follows the course that does. -/
theorem follows_pure (a : α) : Follows conditions (pure a) (pure a) :=
  follows_ended (.ok a)

/-- A run that only fails follows the course that has failed from the start. -/
theorem follows_throw (failure : Failure) :
    Follows conditions (throw failure : Run α) (Course.ended (.error failure)) :=
  follows_ended (.error failure)

/-- A request that is looked at for the signal either goes on at once or is cut off. -/
theorem follows_checkSignal : Follows conditions checkSignal (pure ()) := by
  intro session htimely
  have houtcome : checkSignal.outcome session =
      (if session.cancelled then .error .cancelled else .ok (), session) := rfl
  rw [houtcome]
  cases hcancelled : session.cancelled with
  | true =>
    -- Cut off behind no fetch at all; a quiet session does not come here.
    refine .cutOff List.prefix_rfl (List.append_nil _).symm hcancelled htimely ?_
    intro hquiet
    rw [hquiet.1] at hcancelled
    cases hcancelled
  | false =>
    exact .completed (List.append_nil _).symm (by simp [Conditions.Answers]) htimely id

/-- Runs follow one another as their courses do. -/
theorem Follows.bind {run : Run α} {next : α → Run β} {course : Course α} {rest : α → Course β}
    (hrun : Follows conditions run course) (hnext : ∀ a, Follows conditions (next a) (rest a)) :
    Follows conditions (run >>= next) (course >>= rest) := by
  intro session htimely
  rw [outcome_bind]
  have hends := hrun session htimely
  generalize run.outcome session = outcome at hends
  cases hends with
  | @cutOff session' begun begins started fired timely hung =>
    -- The second run is not reached.
    exact .cutOff (begins.trans (Course.fetches_prefix_bind course rest)) started fired timely hung
  | @completed session' started answered timely quiet =>
    cases hresult : course.result with
    | error failure =>
      rw [Course.bind_of_error hresult]
      exact .completed started answered timely quiet
    | ok a =>
      rw [Course.bind_of_ok hresult]
      have hends' := hnext a session' timely
      -- The fetches of the second course are numbered on from those of the first.
      have hnumber : session'.started.length + 1 =
          session.started.length + 1 + course.fetches.length := by
        rw [started, List.length_append]
        omega
      dsimp only
      generalize (next a).outcome session' = outcome' at hends'
      cases hends' with
      | @completed session'' started' answered' timely' quiet' =>
        refine .completed ?_ ?_ timely' fun hquiet => quiet' (quiet hquiet)
        · calc session''.started = session'.started ++ (rest a).fetches := started'
            _ = session.started ++ course.fetches ++ (rest a).fetches := by rw [started]
            _ = session.started ++ (course.fetches ++ (rest a).fetches) := List.append_assoc _ _ _
        · rw [hnumber] at answered'
          exact (conditions.answers_append _ _ _).2 ⟨answered, answered'⟩
      | @cutOff session'' begun begins started' fired timely' hung =>
        refine .cutOff ((List.prefix_append_right_inj _).2 begins) ?_ fired timely' ?_
        · calc session''.started = session'.started ++ begun := started'
            _ = session.started ++ course.fetches ++ begun := by rw [started]
            _ = session.started ++ (course.fetches ++ begun) := List.append_assoc _ _ _
        · intro hquiet hanswers
          rw [hnumber] at hung
          exact hung (quiet hquiet) ((conditions.answers_append _ _ _).1 hanswers).2

end Run

end ComplianceTriage
