import ComplianceTriage.Signal.Channel

/-!
# No cancellation is lost

A handle and the tasks that wait for its signals run side by side. The handle is asked to cancel any
number of times and may then be dropped, tasks begin to wait at any time, and each of them takes its
steps one by one (`Step`). So cancelling and dropping may come between the reading of a task and its
waiting. `cancellation_kept` says that nothing is lost in any such run, and nothing invented.

One invariant carries the proof (`Watcher.Stands`). A watcher that waits after the flag has been set
has last looked at an older version, and so it will read again. A watcher gives up only where it
finds the handle gone and nothing moved; then the flag is not set, and nobody is left to set it.
-/

namespace ComplianceTriage.Signal

/-! ## Runs -/

/-- A task that waits for a signal. -/
structure Task where
  source : Source
  watcher : Watcher
deriving DecidableEq, Repr, Inhabited

/-- The task after its next step. -/
def Task.turn (own : Channel) (task : Task) : Task :=
  { task with watcher := task.watcher.step (task.source.channel own) }

/-- The channel of a handle, and the tasks that have begun to wait. -/
structure System where
  channel : Channel
  tasks : List Task
deriving DecidableEq, Repr, Inhabited

/-- A handle, and no task yet. -/
def System.start : System := ⟨.fresh, []⟩

/-- What happens next. -/
inductive Move where
  /-- The handle is asked to cancel. -/
  | cancel
  /-- The handle is dropped. -/
  | drop
  /-- One more task begins to wait for a signal. -/
  | join (source : Source)
  /-- The task at this place takes a step. -/
  | turn (place : Nat)
deriving DecidableEq, Repr, Inhabited

/-- How a move changes the system. Only a handle that has not been dropped is used. -/
inductive Step (system : System) : Move → System → Prop where
  | cancel (held : system.channel.held = true) :
      Step system .cancel { system with channel := system.channel.cancel }
  | drop (held : system.channel.held = true) :
      Step system .drop { system with channel := system.channel.drop }
  | join (source : Source) :
      Step system (.join source) { system with tasks := system.tasks ++ [⟨source, .reading⟩] }
  | turn {place : Nat} {task : Task} (present : system.tasks[place]? = some task) :
      Step system (.turn place)
        { system with tasks := system.tasks.set place (task.turn system.channel) }

/-- The moves of a run, in any order in which they are possible. -/
inductive Runs : System → List Move → System → Prop where
  | nil (system : System) : Runs system [] system
  | cons {system next last : System} {move : Move} {moves : List Move}
      (step : Step system move next) (rest : Runs next moves last) :
      Runs system (move :: moves) last

/-! ## One watcher -/

namespace Watcher

/-- Where a watcher may stand on a channel. -/
def Stands (channel : Channel) : Watcher → Prop
  | reading => True
  -- If the flag is set, it was set after the watcher looked.
  | waiting seen => seen ≤ channel.version ∧ (channel.flag = true → seen ≠ channel.version)
  | resolved => channel.flag = true
  | stranded => channel.flag = false ∧ channel.held = false

/-- A watcher after as many steps as it can take while the channel stays as it is. -/
def polled (channel : Channel) (watcher : Watcher) : Watcher :=
  ((watcher.step channel).step channel).step channel

/-- The steps that a watcher is away from its end once the flag is set. -/
def ahead : Watcher → Nat
  | reading => 1
  | waiting _ => 2
  | resolved => 0
  | stranded => 0

section

variable {channel : Channel} {watcher : Watcher}

/-- After these steps it can take no more. -/
theorem step_polled (channel : Channel) (watcher : Watcher) :
    (watcher.polled channel).step channel = watcher.polled channel := by
  -- A watcher that looks, waits and wakes up has gone round once; three steps are enough.
  cases hflag : channel.flag <;> cases hheld : channel.held <;> cases watcher <;>
    grind [polled, step]

/-- A step of a watcher leads where it may stand. -/
theorem Stands.step (h : watcher.Stands channel) : (watcher.step channel).Stands channel := by
  cases watcher with
  | reading => cases hflag : channel.flag <;> simp [Watcher.step, Stands, hflag]
  | waiting seen =>
    by_cases hmoved : channel.version = seen
    · -- Nothing has moved, so the flag is not set.
      have hflag : channel.flag = false := Bool.eq_false_iff.2 fun hset => h.2 hset hmoved.symm
      cases hheld : channel.held <;> simp [Watcher.step, Stands, hmoved, hheld, hflag]
    · simp [Watcher.step, Stands, hmoved]
  | resolved => exact h
  | stranded => exact h

/-- Cancelling moves the version past all that a watcher has looked at. -/
theorem Stands.cancel (h : watcher.Stands channel) (hheld : channel.held = true) :
    watcher.Stands channel.cancel := by
  unfold Channel.cancel
  rw [if_pos hheld]
  cases watcher with
  | reading => trivial
  | waiting seen =>
    have hseen : seen ≤ channel.version := h.1
    exact ⟨Nat.le_succ_of_le hseen, fun _ => Nat.ne_of_lt (Nat.lt_succ_of_le hseen)⟩
  | resolved => rfl
  -- A watcher gives up only where the handle is gone, and here it is held.
  | stranded =>
    have hdropped : channel.held = false := h.2
    rw [hheld] at hdropped
    cases hdropped

/-- Where a watcher may stand, it may stand when the handle is dropped. -/
theorem Stands.drop (h : watcher.Stands channel) : watcher.Stands channel.drop := by
  cases watcher with
  | reading => trivial
  | waiting seen => exact h
  | resolved => exact h
  | stranded => exact ⟨h.1, rfl⟩

/-- A watcher is done with what it can do at once exactly if the flag is set. -/
theorem Stands.polled_iff (h : watcher.Stands channel) :
    watcher.polled channel = .resolved ↔ channel.flag = true := by
  have hstands : (watcher.polled channel).Stands channel := h.step.step.step
  constructor
  · intro hresolved
    rw [hresolved] at hstands
    exact hstands
  · intro hflag
    -- With the flag set, a look at it is the last step, and a watcher that waits is woken up for
    -- one.
    have hreading : (Watcher.reading.step channel).step channel = .resolved := by
      simp [Watcher.step, hflag]
    unfold polled
    cases watcher with
    | reading => rw [hreading]; rfl
    | waiting seen =>
      have hmoved : channel.version ≠ seen := (h.2 hflag).symm
      have hwakes : (Watcher.waiting seen).step channel = .reading := by
        simp [Watcher.step, hmoved]
      rw [hwakes, hreading]
    | resolved => rfl
    | stranded =>
      have hopen : channel.flag = false := h.1
      rw [hflag] at hopen
      cases hopen

/-- Once the flag is set, each step brings a watcher nearer to its end. -/
theorem Stands.ahead_step (h : watcher.Stands channel) (hflag : channel.flag = true) :
    (watcher.step channel).ahead = watcher.ahead - 1 := by
  cases watcher with
  | reading => simp [Watcher.step, ahead, hflag]
  | waiting seen =>
    have hmoved : channel.version ≠ seen := (h.2 hflag).symm
    simp [Watcher.step, ahead, hmoved]
  | resolved => rfl
  | stranded => rfl

/-- Where no step is ahead of it, it is resolved. -/
theorem Stands.eq_resolved (h : watcher.Stands channel) (hflag : channel.flag = true)
    (hahead : watcher.ahead = 0) : watcher = .resolved := by
  cases watcher with
  | reading => cases hahead
  | waiting seen => cases hahead
  | resolved => rfl
  | stranded =>
    have hopen : channel.flag = false := h.1
    rw [hflag] at hopen
    cases hopen

end

end Watcher

/-! ## All tasks -/

/-- What keeps the stand of all watchers of a handle keeps that of a watcher of any signal. -/
theorem Source.stands_of (source : Source) {own own' : Channel} {watcher : Watcher}
    (hkeeps : ∀ watcher : Watcher, watcher.Stands own → watcher.Stands own')
    (h : watcher.Stands (source.channel own)) : watcher.Stands (source.channel own') := by
  cases source with
  | handle => exact hkeeps watcher h
  | never => exact h

/-- Every task stands where it may on the channel of its signal. -/
def System.Sound (system : System) : Prop :=
  ∀ task ∈ system.tasks, task.watcher.Stands (task.source.channel system.channel)

/-- At the start there is no task that could stand elsewhere. -/
theorem System.sound_start : System.start.Sound := fun _ h => (nomatch h)

section

variable {system next last : System} {move : Move} {moves : List Move}

/-- The flag is set by cancelling, and by nothing else. -/
theorem Step.flag_iff (h : Step system move next) :
    next.channel.flag = true ↔ system.channel.flag = true ∨ .cancel = move := by
  cases h with
  | cancel hheld => simp [Channel.cancel, hheld]
  | drop hheld => simp [Channel.drop]
  | join source => simp
  | turn hpresent => simp

/-- The handle is there until it is dropped. -/
theorem Step.held_iff (h : Step system move next) :
    next.channel.held = true ↔ system.channel.held = true ∧ .drop ≠ move := by
  cases h with
  | cancel hheld => simp [Channel.cancel, hheld]
  | drop hheld => simp [Channel.drop]
  | join source => simp
  | turn hpresent => simp

/-- Every move keeps all tasks where they may stand. -/
theorem Step.sound (h : Step system move next) (hsound : system.Sound) : next.Sound := by
  intro task htask
  cases h with
  | cancel hheld => exact task.source.stands_of (fun _ h => h.cancel hheld) (hsound task htask)
  | drop hheld => exact task.source.stands_of (fun _ h => h.drop) (hsound task htask)
  -- A task that joins has not looked yet, and may stand on any channel.
  | join source =>
    rcases List.mem_append.1 htask with hold | hnew
    · exact hsound task hold
    · obtain rfl := List.mem_singleton.1 hnew
      trivial
  | turn hpresent =>
    rcases List.mem_or_eq_of_mem_set htask with hold | rfl
    · exact hsound task hold
    · exact (hsound _ (List.mem_of_getElem? hpresent)).step

/-- A task changes only by its own steps. -/
theorem Step.getElem?_tasks (h : Step system move next) {place : Nat} {task : Task}
    (htask : system.tasks[place]? = some task) :
    next.tasks[place]? =
      some (if move = .turn place then task.turn system.channel else task) := by
  obtain ⟨hplace, -⟩ := List.getElem?_eq_some_iff.1 htask
  cases h with
  | cancel hheld => simpa using htask
  | drop hheld => simpa using htask
  | join source => simpa [List.getElem?_append_left hplace] using htask
  | @turn other task' hpresent =>
    -- The turn is that of this task or of another one.
    by_cases hother : other = place
    · subst hother
      rw [htask] at hpresent
      obtain rfl := Option.some.inj hpresent
      simp [List.getElem?_set_self hplace]
    · simpa [List.getElem?_set_ne hother, hother] using htask

/-- In a run the flag is set by being asked to cancel, and by nothing else. -/
theorem Runs.flag_iff (h : Runs system moves last) :
    last.channel.flag = true ↔ system.channel.flag = true ∨ .cancel ∈ moves := by
  induction h with
  | nil system => simp
  | cons hstep hrest ih => rw [ih, hstep.flag_iff, List.mem_cons, or_assoc]

/-- In a run the handle is there until it is dropped. -/
theorem Runs.held_iff (h : Runs system moves last) :
    last.channel.held = true ↔ system.channel.held = true ∧ .drop ∉ moves := by
  induction h with
  | nil system => simp
  | cons hstep hrest ih => rw [ih, hstep.held_iff, List.mem_cons, not_or, and_assoc]

/-- All runs keep all tasks where they may stand. -/
theorem Runs.sound (h : Runs system moves last) (hsound : system.Sound) : last.Sound := by
  induction h with
  | nil system => exact hsound
  | cons hstep hrest ih => exact ih (hstep.sound hsound)

/-- Once the flag is set, a task comes nearer to its end with each of its steps, whatever happens
between them. -/
theorem Runs.ahead_eq (h : Runs system moves last) (hsound : system.Sound)
    (hflag : system.channel.flag = true) {place : Nat} {task : Task}
    (htask : system.tasks[place]? = some task) (hsource : task.source = .handle) :
    ∃ later, last.tasks[place]? = some later ∧ later.source = .handle ∧
      later.watcher.ahead = task.watcher.ahead - moves.count (.turn place) := by
  -- From the first move on: the task is taken along as it changes, and only its own turns count.
  induction h generalizing task with
  | nil system => exact ⟨task, htask, hsource, by simp⟩
  | @cons system next last move moves hstep hrest ih =>
    have hflag' : next.channel.flag = true := hstep.flag_iff.2 (.inl hflag)
    have htask' := hstep.getElem?_tasks htask
    by_cases hturn : move = .turn place
    · rw [if_pos hturn] at htask'
      obtain ⟨later, hlater, hsource', hahead⟩ := ih (hstep.sound hsound) hflag' htask' hsource
      have hstands := hsound task (List.mem_of_getElem? htask)
      rw [hsource] at hstands
      have hnearer : (task.turn system.channel).watcher.ahead = task.watcher.ahead - 1 := by
        unfold Task.turn
        rw [hsource]
        exact hstands.ahead_step hflag
      refine ⟨later, hlater, hsource', ?_⟩
      rw [hahead, hnearer, hturn, List.count_cons_self]
      omega
    · rw [if_neg hturn] at htask'
      obtain ⟨later, hlater, hsource', hahead⟩ := ih (hstep.sound hsound) hflag' htask' hsource
      exact ⟨later, hlater, hsource', by rw [hahead, List.count_cons_of_ne hturn]⟩

end

/-! ## The signal and those who wait for it -/

/-- What holds of a task at every moment of a run. -/
structure Task.Kept (own : Channel) (moves : List Move) (task : Task) : Prop where
  /-- It is done only after the handle of its signal has been asked to cancel. -/
  resolved : task.watcher = .resolved → task.source = .handle ∧ .cancel ∈ moves
  /-- It gives up on a handle only if this was dropped without having been asked to cancel. -/
  stranded : task.watcher = .stranded → task.source = .handle → .drop ∈ moves ∧ .cancel ∉ moves
  /-- Polled now, it comes to rest: as long as the channel stays as it is, it takes no more
  steps. -/
  rests : (task.watcher.polled (task.source.channel own)).step (task.source.channel own) =
    task.watcher.polled (task.source.channel own)
  /-- There it is done exactly if its signal is cancelled. -/
  polled : task.watcher.polled (task.source.channel own) = .resolved ↔
    isCancelled own task.source = true

/-- Waiting for a signal is over at once exactly if the signal is cancelled. -/
theorem resolves_eq_isCancelled (own : Channel) (source : Source) :
    resolves own source = isCancelled own source := by
  have hfresh : Watcher.reading.Stands (source.channel own) := trivial
  have hpolled := hfresh.polled_iff
  rw [Bool.eq_iff_iff]
  exact decide_eq_true_iff.trans hpolled

section

variable {system last : System} {moves : List Move}

/-- A signal is cancelled if it is that of a handle which has been asked to cancel. -/
theorem Runs.isCancelled_iff (h : Runs .start moves system) (source : Source) :
    isCancelled system.channel source = true ↔ source = .handle ∧ .cancel ∈ moves := by
  have hflag := h.flag_iff
  cases source with
  | handle => simpa [isCancelled, Source.channel, System.start, Channel.fresh] using hflag
  | never => simp [isCancelled, Source.channel, Channel.abandoned]

/-- What a run keeps of a task holds of all tasks that have begun to wait. -/
theorem Runs.kept (h : Runs .start moves system) {task : Task} (htask : task ∈ system.tasks) :
    task.Kept system.channel moves := by
  have hstands := h.sound System.sound_start task htask
  refine ⟨fun hresolved => ?_, fun hstranded hsource => ?_, Watcher.step_polled _ _,
    hstands.polled_iff⟩
  · rw [hresolved] at hstands
    exact (h.isCancelled_iff task.source).1 hstands
  · rw [hstranded, hsource] at hstands
    have hflag : ¬ system.channel.flag = true := Bool.eq_false_iff.1 hstands.1
    have hheld : ¬ system.channel.held = true := Bool.eq_false_iff.1 hstands.2
    rw [h.flag_iff] at hflag
    rw [h.held_iff] at hheld
    -- At the start the flag was not set and the handle was there, so both are due to the run.
    exact ⟨Decidable.of_not_not fun hdrop => hheld ⟨rfl, hdrop⟩,
      fun hcancel => hflag (.inr hcancel)⟩

/-- A cancelled signal stays cancelled. -/
theorem Runs.isCancelled_mono (h : Runs system moves last) {source : Source}
    (hcancelled : isCancelled system.channel source = true) :
    isCancelled last.channel source = true := by
  cases source with
  | handle => exact h.flag_iff.2 (.inl hcancelled)
  | never => cases hcancelled

/-- A task whose signal is cancelled is done after two more steps. -/
theorem Runs.resolved_of_turns (h : Runs system moves last) (hsound : system.Sound) {place : Nat}
    {task : Task} (htask : system.tasks[place]? = some task)
    (hcancelled : isCancelled system.channel task.source = true)
    (hturns : 2 ≤ moves.count (.turn place)) :
    last.tasks[place]? = some ⟨task.source, .resolved⟩ := by
  -- No other signal is ever cancelled.
  have hsource : task.source = .handle := by
    cases hsource : task.source with
    | handle => rfl
    | never =>
      rw [hsource] at hcancelled
      cases hcancelled
  rw [hsource] at hcancelled ⊢
  obtain ⟨later, hlater, hsource', hahead⟩ := h.ahead_eq hsound hcancelled htask hsource
  have hstands := h.sound hsound later (List.mem_of_getElem? hlater)
  rw [hsource'] at hstands
  -- A watcher that waits has two steps ahead, and none has more.
  have hbound : task.watcher.ahead ≤ 2 := by cases task.watcher <;> simp [Watcher.ahead]
  have hresolved : later.watcher = .resolved :=
    hstands.eq_resolved (h.flag_iff.2 (.inl hcancelled)) (by omega)
  rw [hlater, ← hsource', ← hresolved]

end

/-- In every run of a handle and the tasks that wait for its signals, a signal is cancelled exactly
if its handle has been asked to cancel, and waiting for it, begun now, is over at once exactly then.
The same holds of the tasks that have begun to wait, wherever they stand. A cancelled signal stays
so, and whatever else happens, two more steps of a task that waits for it are its last. -/
theorem cancellation_kept {moves : List Move} {system : System} (h : Runs .start moves system) :
    (∀ source, isCancelled system.channel source = true ↔ source = .handle ∧ .cancel ∈ moves) ∧
      (∀ source, resolves system.channel source = isCancelled system.channel source) ∧
      (∀ task ∈ system.tasks, task.Kept system.channel moves) ∧
      ∀ more later, Runs system more later →
        (∀ source, isCancelled system.channel source = true →
          isCancelled later.channel source = true) ∧
        ∀ (place : Nat) (task : Task), system.tasks[place]? = some task →
          isCancelled system.channel task.source = true → 2 ≤ more.count (.turn place) →
            later.tasks[place]? = some ⟨task.source, .resolved⟩ := by
  refine ⟨h.isCancelled_iff, resolves_eq_isCancelled system.channel, fun task => h.kept,
    fun more later hmore => ⟨fun source => hmore.isCancelled_mono, ?_⟩⟩
  intro place task htask hcancelled hturns
  exact hmore.resolved_of_turns (h.sound System.sound_start) htask hcancelled hturns

/-- The handle is asked to cancel and dropped between the reading of a task and its waiting. The
task is done all the same, and one that waits for a signal that never fires gives up. -/
theorem cancellation_kept_behind_drop :
    let moves := [.join .handle, .turn 0, .cancel, .drop, .join .never, .turn 1, .turn 1]
    let system : System :=
      ⟨⟨true, 1, false⟩, [⟨.handle, .waiting 0⟩, ⟨.never, .stranded⟩]⟩
    let later : System :=
      ⟨⟨true, 1, false⟩, [⟨.handle, .resolved⟩, ⟨.never, .stranded⟩, ⟨.handle, .reading⟩]⟩
    Runs .start moves system ∧
      isCancelled system.channel .handle = true ∧ resolves system.channel .handle = true ∧
      ¬ isCancelled system.channel .never = true ∧
      (∀ task ∈ system.tasks, task.Kept system.channel moves) ∧
      Runs system [.turn 0, .join .handle, .turn 0] later ∧
      later.tasks[0]? = some ⟨.handle, .resolved⟩ := by
  intro moves system later
  -- Every move is possible where it is made, as its proof by `rfl` checks.
  have hruns : Runs .start moves system :=
    .cons (.join .handle) <| .cons (.turn rfl) <| .cons (.cancel rfl) <| .cons (.drop rfl) <|
      .cons (.join .never) <| .cons (.turn rfl) <| .cons (.turn rfl) <| .nil _
  have hmore : Runs system [.turn 0, .join .handle, .turn 0] later :=
    .cons (.turn rfl) <| .cons (.join .handle) <| .cons (.turn rfl) <| .nil _
  obtain ⟨hcancelled, hresolves, htasks, hlater⟩ := cancellation_kept hruns
  have hasked : isCancelled system.channel .handle = true :=
    (hcancelled .handle).2 ⟨rfl, by decide⟩
  refine ⟨hruns, hasked, (hresolves .handle).trans hasked, ?_, htasks, hmore, ?_⟩
  · rw [hcancelled]
    exact fun hnever => nomatch hnever.1
  · exact (hlater _ _ hmore).2 0 ⟨.handle, .waiting 0⟩ rfl hasked (by decide)

end ComplianceTriage.Signal
