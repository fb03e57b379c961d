import ComplianceTriage.Proofs.Course
import Mathlib.Data.List.Forall2
import Mathlib.Logic.Relation

/-!
# Windows keep the order of their targets

Answers come into a window in any order, and still the run of a window is the plain course through
its targets, cut off at some fetch if the signal fires. `Window.move_of_step` says once what a step
of a run can do; all else goes through the five moves.

The main invariant is an account of the targets (`Window.Account`): those whose results were
emitted, those in flight, which sit in the slots, and those in the queue make up the list, in this
order, and exactly the first two parts were started. With it `Run.follows_fetchAll` shows that a
run follows its course. Where nobody fires the signal, a run that does not come to its end is stuck
behind a fetch that is never answered (`Window.Stuck`), and `Window.run_hung` says how far it got.
-/

namespace ComplianceTriage

variable {τ β : Type}

namespace Window

/-! ## What a step can do -/

/-- The first result waits for an answer that never comes, and nothing more can be started. -/
def Stuck (limit : Nat) (window : Window τ β) : Prop :=
  (∃ target rest, window.slots = .waiting target false :: rest) ∧
    (window.queue = [] ∨ limit ≤ window.slots.length)

/-- What a step of a run that goes on does to its window and its session. -/
inductive Move (errand : Errand τ β) (conditions : Conditions) (limit : Nat) (window : Window τ β)
    (session : Session) : Window τ β → Session → Prop where
  /-- The first result is emitted. -/
  | emit {result : β} {slots : List (Slot τ β)} (hslots : window.slots = .ready result :: slots) :
      Move errand conditions limit window session
        { window with emitted := window.emitted ++ [result], slots } session
  /-- The next fetch is started. -/
  | start {target : τ} {queue : List τ} (hqueue : window.queue = target :: queue)
      (hroom : window.slots.length < limit) (hopen : session.cancelled = false) :
      Move errand conditions limit window session
        { window with
          slots := window.slots ++
            [.first errand conditions (session.started.length + 1) target]
          queue }
        (session.startFetch conditions (errand.fetch target))
  /-- An answer comes. -/
  | answer {place : Nat} {pending : List Event} (hopen : session.cancelled = false)
      (hpending : pending ⊆ session.pending) :
      Move errand conditions limit window session
        { window with slots := answerAt errand place window.slots } (session.expecting pending)
  /-- The signal fires while the run waits. -/
  | fire {pending : List Event} (hopen : session.cancelled = false)
      (hpending : session.pending = .cancel :: pending) :
      Move errand conditions limit window session window (session.fire.expecting pending)
  /-- The caller gives up. -/
  | giveUp (hopen : session.cancelled = false) (hstuck : window.Stuck limit) :
      Move errand conditions limit window session window session.fire

/-- A run that waits for nothing that will come is stuck. -/
theorem stuck_of_lateCount {limit : Nat} {window : Window τ β} (hslots : window.slots ≠ [])
    (hready : ∀ result slots, window.slots ≠ .ready result :: slots)
    (hlate : lateCount window.slots = 0)
    (hfull : window.queue = [] ∨ limit ≤ window.slots.length) : window.Stuck limit := by
  refine ⟨?_, hfull⟩
  obtain ⟨slot, rest, hcons⟩ := List.exists_cons_of_ne_nil hslots
  rw [hcons] at hlate
  -- The first slot is not ready and waits for no late answer: it waits for ever.
  match slot with
  | .ready result => exact absurd hcons (hready result rest)
  | .waiting target false => exact ⟨target, rest, hcons⟩
  | .waiting target true => simp [lateCount, Slot.isLate] at hlate

section

variable {errand : Errand τ β} {conditions : Conditions} {limit : Nat}
  {window window' : Window τ β} {session session' : Session}

/-- Waiting moves a run on by an answer, by the signal, or by giving up. -/
theorem move_of_wait (hopen : session.cancelled = false) (hslots : window.slots ≠ [])
    (hready : ∀ result slots, window.slots ≠ .ready result :: slots)
    (hfull : window.queue = [] ∨ limit ≤ window.slots.length)
    (h : wait errand window session = .running window' session') :
    Move errand conditions limit window session window' session' := by
  unfold wait at h
  split at h
  -- An event is due: the signal or an answer.
  · next pending hpending =>
    cases h
    exact .fire hopen hpending
  · next place pending hpending =>
    cases h
    exact .answer hopen (hpending ▸ List.subset_cons_self _ pending)
  -- No event is due: the next late answer comes, or none is left and the caller gives up.
  · next hpending =>
    split at h
    · next hlate =>
      cases h
      exact .giveUp hopen (stuck_of_lateCount hslots hready hlate hfull)
    · cases h
      exact .answer hopen (List.Subset.refl session.pending)

/-- Every step of a run that goes on is one of the moves. -/
theorem move_of_step (hlimit : 0 < limit)
    (h : step errand conditions limit window session = .running window' session') :
    Move errand conditions limit window session window' session' := by
  unfold step at h
  split at h
  · next result slots hslots =>
    cases h
    exact .emit hslots
  · next hready =>
    unfold advance at h
    split at h
    · cases h
    next hnonempty =>
    split at h
    · cases h
    next hcancelled =>
    have hopen : session.cancelled = false := by simpa using hcancelled
    split at h
    · next target queue hqueue =>
      split at h
      · next hroom =>
        cases h
        exact .start hqueue hroom hopen
      · next hfull =>
        -- A full window is not empty, for there is room for one fetch at least.
        have hfull : limit ≤ window.slots.length := Nat.le_of_not_lt hfull
        refine move_of_wait hopen ?_ hready (.inr hfull) h
        intro hnil
        rw [hnil, List.length_nil] at hfull
        omega
    · next hqueue =>
      refine move_of_wait hopen ?_ hready (.inl hqueue) h
      intro hnil
      simp [hnil, hqueue] at hnonempty

/-- A run that waits goes on. -/
theorem exists_wait_eq (errand : Errand τ β) (window : Window τ β) (session : Session) :
    ∃ window' session', wait errand window session = .running window' session' := by
  unfold wait
  split
  · exact ⟨_, _, rfl⟩
  · exact ⟨_, _, rfl⟩
  · split
    · exact ⟨_, _, rfl⟩
    · exact ⟨_, _, rfl⟩

/-- A run is complete when nothing is left to do. -/
theorem of_step_eq_complete {results : List β}
    (h : step errand conditions limit window session = .complete results session') :
    window.slots = [] ∧ window.queue = [] ∧ results = window.emitted ∧ session' = session := by
  -- A ready result is emitted, and any other step that is not the end waits, starts or is
  -- cancelled.
  unfold step advance at h
  split at h
  · cases h
  split at h
  · next hempty =>
    cases h
    rw [Bool.and_eq_true, List.isEmpty_iff, List.isEmpty_iff] at hempty
    exact ⟨hempty.1, hempty.2, rfl, rfl⟩
  obtain ⟨window', session', hwait⟩ := exists_wait_eq errand window session
  rw [hwait] at h
  split at h
  · cases h
  split at h
  · split at h <;> cases h
  · cases h

/-- A run is cancelled only after the signal has fired. -/
theorem of_step_eq_cancelled
    (h : step errand conditions limit window session = .cancelled session') :
    session.cancelled = true ∧ session' = session := by
  unfold step advance at h
  split at h
  · cases h
  split at h
  · cases h
  -- Only the look at the signal cancels a run; waiting and starting go on.
  obtain ⟨window', session', hwait⟩ := exists_wait_eq errand window session
  rw [hwait] at h
  split at h
  · next hcancelled =>
    cases h
    exact ⟨hcancelled, rfl⟩
  split at h
  · split at h <;> cases h
  · cases h

/-! ## Runs -/

/-- One step of a run that goes on, on window and session. -/
def Goes (errand : Errand τ β) (conditions : Conditions) (limit : Nat)
    (now next : Window τ β × Session) : Prop :=
  step errand conditions limit now.1 now.2 = .running next.1 next.2

/-- What a run comes to. -/
def Reaches (errand : Errand τ β) (conditions : Conditions) (limit : Nat) :
    Window τ β × Session → Window τ β × Session → Prop :=
  Relation.ReflTransGen (Goes errand conditions limit)

/-- What every move keeps is kept by a run. -/
theorem Reaches.invariant {P : Window τ β → Session → Prop} (hlimit : 0 < limit)
    (hmove : ∀ {window session window' session'}, P window session →
      Move errand conditions limit window session window' session' → P window' session')
    {now next : Window τ β × Session} (hreaches : Reaches errand conditions limit now next)
    (h : P now.1 now.2) : P next.1 next.2 := by
  induction hreaches with
  | refl => exact h
  | tail _ hgoes ih => exact hmove ih (move_of_step hlimit hgoes)

/-- A run ends with all results when its window is empty, or after the signal has fired. -/
theorem run_ends (errand : Errand τ β) (conditions : Conditions) (limit : Nat)
    (window : Window τ β) (session : Session) :
    ∃ window' session', Reaches errand conditions limit (window, session) (window', session') ∧
      ((window'.slots = [] ∧ window'.queue = [] ∧
          window.run errand conditions limit session = (some window'.emitted, session')) ∨
        (session'.cancelled = true ∧
          window.run errand conditions limit session = (none, session'))) := by
  -- Along the steps of the run: each one is prepended to what the rest of the run reaches.
  fun_induction run errand conditions limit window session with
  | case1 window session next session₁ hstep ih =>
    obtain ⟨window', session', hreaches, hend⟩ := ih
    have hgoes : Goes errand conditions limit (window, session) (next, session₁) := hstep
    exact ⟨window', session', .head hgoes hreaches, hend⟩
  | case2 window session results session₁ hstep =>
    obtain ⟨hslots, hqueue, rfl, rfl⟩ := of_step_eq_complete hstep
    exact ⟨window, _, .refl, .inl ⟨hslots, hqueue, rfl⟩⟩
  | case3 window session session₁ hstep =>
    obtain ⟨hfired, rfl⟩ := of_step_eq_cancelled hstep
    exact ⟨window, _, .refl, .inr ⟨hfired, rfl⟩⟩

/-! ## What a run does to its session -/

/-- No move starts a fetch after the signal has fired. -/
theorem Move.timely (h : session.Timely)
    (hmove : Move errand conditions limit window session window' session') : session'.Timely := by
  cases hmove with
  | emit hslots => exact h
  | start hqueue hroom hopen => exact Session.timely_startFetch conditions _ hopen
  | answer hopen hpending => exact h
  | fire hopen hpending => exact (Session.timely_fire hopen).expecting _
  | giveUp hopen hstuck => exact Session.timely_fire hopen

/-- In a quiet session the signal fires only because the caller gives up, and then the run stays
where it is. -/
theorem Move.quiet_or_stuck
    (h : session.Quiet conditions ∨ session.cancelled = true ∧ window.Stuck limit)
    (hmove : Move errand conditions limit window session window' session') :
    session'.Quiet conditions ∨ session'.cancelled = true ∧ window'.Stuck limit := by
  rcases h with hquiet | ⟨hcancelled, hstuck⟩
  · cases hmove with
    | emit hslots => exact .inl hquiet
    | start hqueue hroom hopen => exact .inl (hquiet.startFetch _)
    | answer hopen hpending => exact .inl (hquiet.expecting hpending)
    | fire hopen hpending =>
      -- The signal is no event of a quiet session.
      have hcancel : Event.cancel ∈ session.pending := by
        rw [hpending]
        exact List.mem_cons_self
      exact absurd hcancel hquiet.2.2
    | giveUp hopen hstuck => exact .inr ⟨Session.cancelled_fire session, hstuck⟩
  · -- A run that is stuck makes no move: its first slot waits, and the signal has fired.
    obtain ⟨⟨target, rest, hwaiting⟩, -⟩ := hstuck
    cases hmove with
    | emit hslots =>
      rw [hwaiting] at hslots
      cases hslots
    | start hqueue hroom hopen => simp [hcancelled] at hopen
    | answer hopen hpending => simp [hcancelled] at hopen
    | fire hopen hpending => simp [hcancelled] at hopen
    | giveUp hopen hstuck => simp [hcancelled] at hopen

end

end Window

/-! ## The account of the targets -/

/-- Whether a slot may stand for a target, which comes with the number of its fetch. -/
def Slot.Holds (errand : Errand τ β) (conditions : Conditions) (target : τ × Nat) :
    Slot τ β → Prop
  | .waiting waited comes =>
    waited = target.1 ∧
      conditions.delayOf target.2 (errand.fetch target.1) = if comes then .late else .never
  | .ready result =>
    result = errand.result target.1 ∧
      conditions.delayOf target.2 (errand.fetch target.1) ≠ .never

/-- The slot of a fetch that was just started holds it. -/
theorem Slot.holds_first (errand : Errand τ β) (conditions : Conditions) (target : τ)
    (number : Nat) : (first errand conditions number target).Holds errand conditions
      (target, number) := by
  unfold first
  cases hdelay : conditions.delayOf number (errand.fetch target) <;> simp [Holds, hdelay]

namespace Window

/-- An answer that comes leaves every slot to its target. -/
theorem holds_answerAt {errand : Errand τ β} {conditions : Conditions} {flying : List (τ × Nat)}
    {slots : List (Slot τ β)} (h : List.Forall₂ (Slot.Holds errand conditions) flying slots)
    (place : Nat) :
    List.Forall₂ (Slot.Holds errand conditions) flying (answerAt errand place slots) := by
  -- Down to the slot whose answer comes; the slots passed on the way are left alone.
  fun_induction answerAt errand place slots generalizing flying with
  | case1 => exact h
  | case2 target rest =>
    -- A fetch with a late answer is one that is answered.
    obtain ⟨numbered, others, ⟨rfl, hdelay⟩, hrest, rfl⟩ := List.forall₂_cons_right_iff.1 h
    exact .cons ⟨rfl, by simp [hdelay]⟩ hrest
  | case3 place target rest ih =>
    obtain ⟨numbered, others, hslot, hrest, rfl⟩ := List.forall₂_cons_right_iff.1 h
    exact .cons hslot (ih hrest)
  | case4 place slot rest _ _ ih =>
    obtain ⟨numbered, others, hslot, hrest, rfl⟩ := List.forall₂_cons_right_iff.1 h
    exact .cons hslot (ih hrest)

/-- The targets of a run that set out from the session `before` are those whose results were
emitted (`done`), those in flight, and those in the queue, in this order. -/
structure Account (errand : Errand τ β) (conditions : Conditions) (limit : Nat)
    (before : Session) (targets done flying : List τ) (window : Window τ β) (session : Session) :
    Prop where
  targets_eq : targets = done ++ flying ++ window.queue
  emitted_eq : window.emitted = done.map errand.result
  /-- What was emitted was answered. -/
  answered : conditions.Answers (before.started.length + 1) (done.map errand.fetch)
  /-- The slots stand for the targets in flight. -/
  holds : List.Forall₂ (Slot.Holds errand conditions)
    (flying.zipIdx (before.started.length + 1 + done.length)) window.slots
  /-- Exactly the targets that are not in the queue were started. -/
  started_eq : session.started = before.started ++ (done ++ flying).map errand.fetch
  room : window.slots.length ≤ limit

section

variable {errand : Errand τ β} {conditions : Conditions} {limit : Nat} {before : Session}
  {targets done flying : List τ} {window window' : Window τ β} {session session' : Session}

/-- At the start all targets are still to come. -/
theorem account_start (errand : Errand τ β) (conditions : Conditions) (limit : Nat)
    (session : Session) (targets : List τ) :
    Account errand conditions limit session targets [] [] (start targets) session where
  targets_eq := rfl
  emitted_eq := rfl
  answered := by simp [Conditions.Answers]
  holds := .nil
  started_eq := (List.append_nil _).symm
  room := Nat.zero_le _

/-- There is a slot for each target in flight. -/
theorem Account.length_flying (h : Account errand conditions limit before targets done flying
    window session) : flying.length = window.slots.length := by
  rw [← h.holds.length_eq, List.length_zipIdx]

/-- Every move keeps the account. -/
theorem Account.move
    (h : Account errand conditions limit before targets done flying window session)
    (hmove : Move errand conditions limit window session window' session') :
    ∃ done' flying',
      Account errand conditions limit before targets done' flying' window' session' := by
  cases hmove with
  | @emit result slots hslots =>
    -- The first target in flight is done. Its slot is ready, and so it was answered.
    have hholds := h.holds
    rw [hslots] at hholds
    cases flying with
    | nil => cases hholds
    | cons target flying =>
      rw [List.zipIdx_cons, List.forall₂_cons] at hholds
      obtain ⟨⟨hresult, hdelay⟩, hrest⟩ := hholds
      refine ⟨done ++ [target], flying, ?_, ?_, ?_, ?_, ?_, ?_⟩
      · rw [h.targets_eq]
        simp
      · dsimp only
        rw [h.emitted_eq, hresult, List.map_append, List.map_singleton]
      · rw [List.map_append, List.map_singleton, Conditions.answers_append,
          Conditions.answers_singleton, List.length_map]
        exact ⟨h.answered, hdelay⟩
      · rw [List.length_append, List.length_singleton, ← Nat.add_assoc]
        exact hrest
      · rw [h.started_eq]
        simp
      · have hroom := h.room
        rw [hslots, List.length_cons] at hroom
        exact Nat.le_of_succ_le hroom
  | @start target queue hqueue hroom hopen =>
    -- The first target in the queue goes into flight, under the next number.
    have hnumber : session.started.length + 1 =
        before.started.length + 1 + done.length + flying.length := by
      rw [h.started_eq]
      simp only [List.length_append, List.length_map]
      omega
    refine ⟨done, flying ++ [target], ?_, h.emitted_eq, h.answered, ?_, ?_, ?_⟩
    · rw [h.targets_eq, hqueue]
      simp
    · dsimp only
      rw [List.zipIdx_append, List.zipIdx_singleton, ← hnumber]
      exact List.rel_append h.holds (.cons (Slot.holds_first errand conditions target _) .nil)
    · rw [Session.started_startFetch, h.started_eq]
      simp
    · dsimp only
      rw [List.length_append, List.length_singleton]
      exact hroom
  | @answer place pending hopen hpending =>
    -- A slot becomes ready and still stands for its target.
    have hholds := holds_answerAt h.holds place
    refine ⟨done, flying, h.targets_eq, h.emitted_eq, h.answered, hholds, h.started_eq, ?_⟩
    rw [← hholds.length_eq, h.holds.length_eq]
    exact h.room
  | fire hopen hpending =>
    exact ⟨done, flying, h.targets_eq, h.emitted_eq, h.answered, h.holds, h.started_eq, h.room⟩
  | giveUp hopen hstuck =>
    exact ⟨done, flying, h.targets_eq, h.emitted_eq, h.answered, h.holds, h.started_eq, h.room⟩

/-- In any number of moves no fetch is started after the signal. -/
theorem Reaches.timely (hlimit : 0 < limit)
    (hreaches : Reaches errand conditions limit (window, session) (window', session'))
    (h : session.Timely) : session'.Timely :=
  hreaches.invariant (P := fun _ session => session.Timely) hlimit
    (fun h hmove => hmove.timely h) h

/-- In any number of moves a quiet session stays quiet, or it is cancelled because nothing moves any
more. -/
theorem Reaches.quiet_or_stuck (hlimit : 0 < limit)
    (hreaches : Reaches errand conditions limit (window, session) (window', session'))
    (h : session.Quiet conditions) :
    session'.Quiet conditions ∨ session'.cancelled = true ∧ window'.Stuck limit :=
  hreaches.invariant
    (P := fun window session =>
      session.Quiet conditions ∨ session.cancelled = true ∧ window.Stuck limit)
    hlimit (fun h hmove => hmove.quiet_or_stuck h) (.inl h)

/-- Every moment of a run has its account. -/
theorem Reaches.account (hlimit : 0 < limit)
    (hreaches : Reaches errand conditions limit (start targets, before) (window, session)) :
    ∃ done flying,
      Account errand conditions limit before targets done flying window session :=
  hreaches.invariant (P := fun window session => ∃ done flying,
    Account errand conditions limit before targets done flying window session) hlimit
    (fun ⟨_, _, h⟩ hmove => h.move hmove)
    ⟨[], [], account_start errand conditions limit before targets⟩

/-- A run that is stuck is so behind a fetch that is never answered. -/
theorem Account.hung
    (h : Account errand conditions limit before targets done flying window session)
    (hstuck : window.Stuck limit) :
    ∃ target, flying.head? = some target ∧
      conditions.delayOf (before.started.length + 1 + done.length) (errand.fetch target) =
        .never := by
  obtain ⟨⟨waited, rest, hslots⟩, -⟩ := hstuck
  -- The first slot stands for the first target in flight, and it waits for an answer that never
  -- comes.
  have hholds := h.holds
  rw [hslots] at hholds
  cases flying with
  | nil => cases hholds
  | cons target flying =>
    rw [List.zipIdx_cons, List.forall₂_cons] at hholds
    obtain ⟨⟨-, hdelay⟩, -⟩ := hholds
    exact ⟨target, rfl, by simpa using hdelay⟩

/-- In a run that is stuck, not all that was started is answered. -/
theorem Account.not_answers
    (h : Account errand conditions limit before targets done flying window session)
    (hstuck : window.Stuck limit) :
    ¬ conditions.Answers (before.started.length + 1) ((done ++ flying).map errand.fetch) := by
  intro hanswers
  obtain ⟨target, htarget, hnever⟩ := h.hung hstuck
  -- The target that hangs stands right behind those that are done.
  refine hanswers.delayOf_ne done.length ?_ hnever
  rw [List.getElem?_map, List.getElem?_append_right (Nat.le_refl _), Nat.sub_self,
    ← List.head?_eq_getElem?, htarget]
  rfl

/-- In an empty window nothing is in flight, and all targets are done. -/
theorem Account.done_eq
    (h : Account errand conditions limit before targets done flying window session)
    (hslots : window.slots = []) (hqueue : window.queue = []) :
    flying = [] ∧ targets = done := by
  have hflying : flying = [] := by
    rw [← List.length_eq_zero_iff, h.length_flying, hslots, List.length_nil]
  refine ⟨hflying, ?_⟩
  calc targets = done ++ flying ++ window.queue := h.targets_eq
    _ = done ++ [] ++ [] := by rw [hflying, hqueue]
    _ = done := by rw [List.append_nil, List.append_nil]

end

end Window

/-! ## Runs follow their courses -/

/-- The fetches for some targets, one after another. -/
def Course.ofTargets (errand : Errand τ β) (targets : List τ) : Course (List β) :=
  ⟨targets.map errand.fetch, .ok (targets.map errand.result)⟩

/-- One fetch and its answer. -/
def Course.ofFetch (question : Fetch) (answer : β) : Course β :=
  ⟨[question], .ok answer⟩

/-- The answer to a single fetch, out of the list of all. -/
def Course.ofAnswers : List β → Course β
  | [answer] => pure answer
  | _ => ended (.error .cancelled)

namespace Run

/-- Fetching for some targets comes to what their window does. -/
theorem outcome_fetchAll (errand : Errand τ β) (conditions : Conditions) (limit : Nat)
    (targets : List τ) (session : Session) :
    (fetchAll errand conditions limit targets).outcome session =
      match (Window.start targets).run errand conditions limit session with
      | (some results, session') => (.ok results, session')
      | (none, session') => (.error .cancelled, session') := rfl

/-- However many fetches are in flight and in whatever order their answers come, the results are
those of the targets in their order. -/
theorem follows_fetchAll (errand : Errand τ β) (conditions : Conditions) {limit : Nat}
    (hlimit : 0 < limit) (targets : List τ) :
    Follows conditions (fetchAll errand conditions limit targets)
      (Course.ofTargets errand targets) := by
  intro session htimely
  obtain ⟨window', session', hreaches, hend⟩ :=
    Window.run_ends errand conditions limit (.start targets) session
  obtain ⟨done, flying, haccount⟩ := hreaches.account hlimit
  have htimely' : session'.Timely := hreaches.timely hlimit htimely
  rw [outcome_fetchAll]
  rcases hend with ⟨hslots, hqueue, hrun⟩ | ⟨hfired, hrun⟩
  -- The window is empty, and all targets are done.
  · obtain ⟨rfl, rfl⟩ := haccount.done_eq hslots hqueue
    rw [hrun, haccount.emitted_eq]
    refine .completed ?_ haccount.answered htimely' fun h => ?_
    · simpa [Course.ofTargets] using haccount.started_eq
    · rcases hreaches.quiet_or_stuck hlimit h with hquiet' | ⟨-, ⟨target, rest, hstuck⟩, -⟩
      · exact hquiet'
      · rw [hslots] at hstuck
        cases hstuck
  -- The signal has fired; in a quiet session that is because the run is stuck.
  · rw [hrun]
    have hbegins : (done ++ flying).map errand.fetch <+: targets.map errand.fetch := by
      rw [haccount.targets_eq]
      exact (List.prefix_append _ _).map errand.fetch
    refine .cutOff hbegins haccount.started_eq hfired htimely' fun h => ?_
    rcases hreaches.quiet_or_stuck hlimit h with hquiet' | ⟨-, hstuck⟩
    · rw [hquiet'.1] at hfired
      cases hfired
    · exact haccount.not_answers hstuck

/-- A single fetch comes to its answer. -/
theorem follows_fetch (conditions : Conditions) (question : Fetch) (answer : β) :
    Follows conditions (fetch conditions question answer) (Course.ofFetch question answer) := by
  -- A single fetch is a window with one target, and its answer the only one in the list.
  let errand : Errand Unit β := ⟨fun _ => question, fun _ => answer⟩
  have hbind : Course.ofFetch question answer =
      Course.ofTargets errand [()] >>= Course.ofAnswers := rfl
  rw [hbind]
  refine (follows_fetchAll errand conditions Nat.one_pos [()]).bind fun answers => ?_
  match answers with
  | [answer] => exact follows_pure answer
  | [] => exact follows_throw .cancelled
  | _ :: _ :: _ => exact follows_throw .cancelled

end Run

namespace Window

/-- Where nobody fires the signal and a target is never answered while those before it are, a run
ends cancelled after it has started as many targets more as there is room for. -/
theorem run_hung (errand : Errand τ β) {conditions : Conditions} {limit : Nat} {session : Session}
    {targets : List τ} {place : Nat} {target : τ} (hlimit : 0 < limit)
    (hquiet : session.Quiet conditions) (htarget : targets[place]? = some target)
    (hbefore : conditions.Answers (session.started.length + 1)
      ((targets.take place).map errand.fetch))
    (hnever : conditions.delayOf (session.started.length + 1 + place) (errand.fetch target) =
      .never) :
    ∃ session', (start targets).run errand conditions limit session = (none, session') ∧
      session'.started =
        session.started ++ (targets.take (place + limit)).map errand.fetch := by
  obtain ⟨window', session', hreaches, hend⟩ :=
    run_ends errand conditions limit (start targets) session
  obtain ⟨done, flying, haccount⟩ := hreaches.account hlimit
  -- The target was not emitted, for it was not answered.
  have hdone : done.length ≤ place := by
    by_contra hlt
    refine haccount.answered.delayOf_ne place ?_ hnever
    have hplace : done[place]? = some target := by
      rw [← htarget, haccount.targets_eq, List.append_assoc,
        List.getElem?_append_left (Nat.lt_of_not_le hlt)]
    rw [List.getElem?_map, hplace]
    rfl
  rcases hend with ⟨hslots, hqueue, -⟩ | ⟨hfired, hrun⟩
  -- Hence the run does not come to its end.
  · obtain ⟨-, rfl⟩ := haccount.done_eq hslots hqueue
    rw [List.getElem?_eq_none hdone] at htarget
    cases htarget
  refine ⟨session', hrun, ?_⟩
  have hstuck : window'.Stuck limit := by
    rcases hreaches.quiet_or_stuck hlimit hquiet with hquiet' | ⟨-, hstuck⟩
    · have hopen : session'.cancelled = false := hquiet'.1
      rw [hopen] at hfired
      cases hfired
    · exact hstuck
  -- All before the target were emitted, for the first that was not is never answered.
  have hplace : done.length = place := by
    obtain ⟨waited, hwaited, hwaitedNever⟩ := haccount.hung hstuck
    by_contra hne
    refine hbefore.delayOf_ne done.length ?_ hwaitedNever
    rw [List.getElem?_map, List.getElem?_take_of_lt (by omega), haccount.targets_eq,
      List.append_assoc, List.getElem?_append_right (Nat.le_refl _), Nat.sub_self,
      ← List.head?_eq_getElem?, List.head?_append, hwaited]
    rfl
  -- What was started fills the window, or it is all there was.
  have hstarted : targets.take (place + limit) = done ++ flying := by
    have hlength : (done ++ flying).length = place + window'.slots.length := by
      rw [List.length_append, haccount.length_flying, hplace]
    rcases hstuck.2 with hqueue | hfull
    · rw [haccount.targets_eq, hqueue, List.append_nil]
      have hroom := haccount.room
      exact List.take_of_length_le (by omega)
    · have hlimit' : window'.slots.length = limit := Nat.le_antisymm haccount.room hfull
      calc targets.take (place + limit)
          = (done ++ flying ++ window'.queue).take (done ++ flying).length := by
            rw [hlength, hlimit', ← haccount.targets_eq]
        _ = done ++ flying := List.take_left
  rw [hstarted]
  exact haccount.started_eq

end Window

end ComplianceTriage
