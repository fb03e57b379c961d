import ComplianceTriage.Hub.Session

/-!
# A window of fetches in flight

The copies of a policy are fetched for many clusters, a few at a time. A window holds the fetches
that were started and whose results have not yet been emitted. Results are emitted in the order of
their targets, so that an answer that comes early waits for the ones before it and keeps its place
in the window. The next target is started when there is room.

When the signal fires, nothing more is started. Results that are ready are still emitted, up to the
first that is not; if that is all of them the run is complete, and otherwise it is cancelled.
-/

namespace ComplianceTriage

/-- What is to be done for each target: the fetch, and what to make of its answer. -/
structure Errand (τ β : Type) where
  fetch : τ → Fetch
  result : τ → β

/-- A place in the window: a fetch that waits for its answer, which comes or never does, or a result
that waits for those before it. -/
inductive Slot (τ β : Type) where
  | waiting (target : τ) (comes : Bool)
  | ready (result : β)
deriving Repr

namespace Slot

variable {τ β : Type}

/-- Whether a slot waits for an answer that will come. -/
def isLate : Slot τ β → Bool
  | .waiting _ comes => comes
  | .ready _ => false

/-- The steps that a slot may still take. -/
def weight : Slot τ β → Nat
  | .waiting _ _ => 2
  | .ready _ => 1

/-- No slot weighs more than two. -/
theorem weight_le (slot : Slot τ β) : slot.weight ≤ 2 := by
  cases slot <;> simp [weight]

/-- The slot of a fetch that was just started, by the number of the fetch. -/
def first (errand : Errand τ β) (conditions : Conditions) (number : Nat) (target : τ) :
    Slot τ β :=
  match conditions.delayOf number (errand.fetch target) with
  | .prompt => .ready (errand.result target)
  | .late => .waiting target true
  | .never => .waiting target false

end Slot

/-- A run of fetches under way. -/
structure Window (τ β : Type) where
  emitted : List β
  slots : List (Slot τ β)
  queue : List τ
deriving Repr

/-- One step of a run. -/
inductive Progress (τ β : Type) where
  | running (window : Window τ β) (session : Session)
  | complete (results : List β) (session : Session)
  | cancelled (session : Session)
deriving Repr

namespace Window

variable {τ β : Type}

/-- The run before its first step. -/
def start (targets : List τ) : Window τ β := ⟨[], [], targets⟩

/-- The number of answers that will come. -/
def lateCount (slots : List (Slot τ β)) : Nat :=
  (slots.filter Slot.isLate).length

/-- The slots after the late answer at a place among them has come. -/
def answerAt (errand : Errand τ β) : Nat → List (Slot τ β) → List (Slot τ β)
  | _, [] => []
  -- Only late answers are counted; the others are passed over.
  | 0, .waiting target true :: rest => .ready (errand.result target) :: rest
  | place + 1, .waiting target true :: rest => .waiting target true :: answerAt errand place rest
  | place, slot :: rest => slot :: answerAt errand place rest

/-- What happens to a run that can only wait. -/
def wait (errand : Errand τ β) (window : Window τ β) (session : Session) : Progress τ β :=
  match session.pending with
  | .cancel :: pending => .running window (session.fire.expecting pending)
  | .answer place :: pending =>
    -- The place is counted round among the late answers.
    let place := place % lateCount window.slots
    .running { window with slots := answerAt errand place window.slots }
      (session.expecting pending)
  -- When all events have happened, the late answers come in order, and then the caller gives up.
  | [] =>
    if lateCount window.slots = 0 then .running window session.fire
    else .running { window with slots := answerAt errand 0 window.slots } session

/-- One step of a run whose first slot is not ready: start the next fetch if there is room for it
among `limit`, or else wait. -/
def advance (errand : Errand τ β) (conditions : Conditions) (limit : Nat) (window : Window τ β)
    (session : Session) : Progress τ β :=
  -- A run that has everything is complete, even if the signal has fired.
  if window.slots.isEmpty && window.queue.isEmpty then .complete window.emitted session
  else if session.cancelled then .cancelled session
  else
    match window.queue with
    | target :: queue =>
      if window.slots.length < limit then
        let number := session.started.length + 1
        let slots := window.slots ++ [.first errand conditions number target]
        .running { window with slots, queue }
          (session.startFetch conditions (errand.fetch target))
      else wait errand window session
    | [] => wait errand window session

/-- One step of a run: emit the first result if it is ready, or else go on. -/
def step (errand : Errand τ β) (conditions : Conditions) (limit : Nat) (window : Window τ β)
    (session : Session) : Progress τ β :=
  match window.slots with
  | .ready result :: slots =>
    .running { window with emitted := window.emitted ++ [result], slots } session
  | _ => advance errand conditions limit window session

/-- A bound on the steps that slots may still take. -/
def slotsWeight : List (Slot τ β) → Nat
  | [] => 0
  | slot :: rest => slot.weight + slotsWeight rest

/-- The weights of slots add up. -/
theorem slotsWeight_append (slots more : List (Slot τ β)) :
    slotsWeight (slots ++ more) = slotsWeight slots + slotsWeight more := by
  induction slots with
  | nil => simp only [List.nil_append, slotsWeight, Nat.zero_add]
  | cons slot rest ih => simp only [List.cons_append, slotsWeight, ih, Nat.add_assoc]

/-- A bound on the steps that a run may still take. -/
def weight (window : Window τ β) (session : Session) : Nat :=
  3 * window.queue.length + slotsWeight window.slots + session.pending.length +
    (if session.cancelled then 0 else 1)

/-- An answer that comes takes no step more. -/
theorem weight_answerAt_le (errand : Errand τ β) (place : Nat) (slots : List (Slot τ β)) :
    slotsWeight (answerAt errand place slots) ≤ slotsWeight slots := by
  -- The slot that is answered gets lighter, and none of the others changes.
  fun_induction answerAt errand place slots with
  | case1 => exact Nat.le_refl _
  | case2 target rest =>
    simp only [slotsWeight, Slot.weight]
    omega
  | case3 place target rest ih => simpa only [slotsWeight, Nat.add_le_add_iff_left] using ih
  | case4 place slot rest _ _ ih => simpa only [slotsWeight, Nat.add_le_add_iff_left] using ih

/-- The first late answer takes a step away where there is one. -/
theorem weight_answerAt_zero_lt (errand : Errand τ β) {slots : List (Slot τ β)}
    (h : lateCount slots ≠ 0) : slotsWeight (answerAt errand 0 slots) < slotsWeight slots := by
  -- Slots that wait for no late answer are passed over, so that one of the rest does.
  induction slots with
  | nil => simp [lateCount] at h
  | cons slot rest ih =>
    match slot with
    | .waiting target true => simp [answerAt, slotsWeight, Slot.weight]
    | .waiting target false =>
      have := ih (by simpa [lateCount, Slot.isLate] using h)
      simpa [answerAt, slotsWeight] using this
    | .ready result =>
      have := ih (by simpa [lateCount, Slot.isLate] using h)
      simpa [answerAt, slotsWeight] using this

/-- Waiting brings a run closer to its end. -/
theorem weight_wait_lt {errand : Errand τ β} {window next : Window τ β}
    {session session' : Session} (hcancelled : session.cancelled = false)
    (h : wait errand window session = .running next session') :
    next.weight session' < window.weight session := by
  -- An event is used up, or the signal fires, or a slot gets lighter.
  rw [wait] at h
  split at h
  · next pending hpending =>
    cases h
    simp only [weight, hpending, hcancelled, Session.pending_expecting,
      Session.cancelled_expecting, Session.cancelled_fire, List.length_cons, if_true,
      Bool.false_eq_true, if_false]
    omega
  · next place pending hpending =>
    cases h
    have := weight_answerAt_le errand (place % lateCount window.slots) window.slots
    simp only [weight, hpending, hcancelled, Session.pending_expecting,
      Session.cancelled_expecting, List.length_cons, Bool.false_eq_true, if_false]
    omega
  · next hpending =>
    split at h
    · cases h
      simp only [weight, hpending, hcancelled, Session.pending_fire, Session.cancelled_fire,
        if_true, Bool.false_eq_true, if_false]
      omega
    · next hlate =>
      cases h
      have := weight_answerAt_zero_lt errand hlate
      simp only [weight]
      omega

/-- Going on brings a run closer to its end. -/
theorem weight_advance_lt {errand : Errand τ β} {conditions : Conditions} {limit : Nat}
    {window next : Window τ β} {session session' : Session}
    (h : advance errand conditions limit window session = .running next session') :
    next.weight session' < window.weight session := by
  rw [advance] at h
  split at h
  · cases h
  split at h
  · cases h
  next hcancelled =>
  have hcancelled : session.cancelled = false := by simpa using hcancelled
  split at h
  · next target queue hqueue =>
    split at h
    · cases h
      -- A target leaves the queue for a slot of less weight.
      have hslot := Slot.weight_le (.first errand conditions (session.started.length + 1) target)
      simp only [weight, hqueue, slotsWeight_append, slotsWeight, Session.pending_startFetch,
        List.length_cons, hcancelled, Bool.false_eq_true, if_false]
      split <;> omega
    · exact weight_wait_lt hcancelled h
  · exact weight_wait_lt hcancelled h

/-- Every step brings a run closer to its end. -/
theorem weight_step_lt {errand : Errand τ β} {conditions : Conditions} {limit : Nat}
    {window next : Window τ β} {session session' : Session}
    (h : step errand conditions limit window session = .running next session') :
    next.weight session' < window.weight session := by
  rw [step] at h
  split at h
  · next result slots hslots =>
    cases h
    simp only [weight, hslots, slotsWeight, Slot.weight]
    omega
  · exact weight_advance_lt h

/-- The end of a run: all results in the order of their targets, or nothing if it was cancelled. -/
def run (errand : Errand τ β) (conditions : Conditions) (limit : Nat) (window : Window τ β)
    (session : Session) : Option (List β) × Session :=
  match _h : step errand conditions limit window session with
  | .running next session' => run errand conditions limit next session'
  | .complete results session' => (some results, session')
  | .cancelled session' => (none, session')
termination_by window.weight session
decreasing_by exact weight_step_lt (by assumption)

end Window

end ComplianceTriage
