import CircuitBreaker.Proofs.Deadlines
import CircuitBreaker.Proofs.Sessions

/-!
# Visits of events

An advance is a loop over the next event. What a visit does depends neither on the output that has
gathered nor on when the time stood before.
-/

set_option autoImplicit false

namespace CircuitBreaker.Emulator

namespace Session

variable (session : Session)

/-!
## What does not depend on the breaker
-/

@[simp]
theorem breaker_watch : session.watch.breaker = session.breaker := rfl

@[simp]
theorem now_watch : session.watch.now = session.now := rfl

theorem breaker_input (input : Input) :
    (session.input input).breaker = session.breaker.act (.input input session.now) := by
  unfold Session.input
  rw [Breaker.act]
  cases session.breaker.handleInput input session.now <;> rfl

@[simp]
theorem now_input (input : Input) : (session.input input).now = session.now := by
  unfold Session.input
  cases session.breaker.handleInput input session.now <;> rfl

theorem breaker_poll : session.poll.breaker = session.breaker.act (.poll session.now) := by
  unfold Session.poll
  rw [Breaker.act]
  cases session.breaker.poll session.now <;> rfl

@[simp]
theorem now_poll : session.poll.now = session.now := by
  unfold Session.poll
  cases session.breaker.poll session.now <;> rfl

theorem announce_eq :
    ∃ lines, session.announce =
      { session with
        breaker := { session.breaker with pending := none }
        output := session.output ++ lines } := by
  unfold announce Breaker.dispatchNotice
  cases session.breaker.pending with
  | none => exact ⟨[], by simp⟩
  | some notice => exact ⟨_, rfl⟩

theorem now_feedEdges (rounds : Nat) : (session.feedEdges rounds).now = session.now := by
  induction rounds generalizing session with
  | zero => rfl
  | succ rounds ih =>
      unfold feedEdges
      split
      · rfl
      · rw [ih, now_input]
        rfl

@[simp]
theorem now_settle : session.settle.now = session.now := by
  obtain ⟨lines, same⟩ :=
    (session.feedEdges (session.breaker.switch.edges.length + 1)).announce_eq
  rw [settle, same]
  exact now_feedEdges session _

theorem now_cross : session.cross.now = session.now := by
  unfold cross
  dsimp only
  split
  · rw [now_input]
    rfl
  · rfl

@[simp]
theorem now_visit (event : Nat) : (session.visit event).now = event := by
  rw [visit, now_settle, now_poll]
  exact now_cross _

@[simp]
theorem now_advanceTo (target : Nat) : (session.advanceTo target).now = target := by
  rw [advanceTo, now_settle, now_poll]

/-- The session after other lines of output and with another transcript. -/
def behind (lines : List String) (transcript : Transcript) : Session :=
  { session with output := lines ++ session.output, transcript }

section Behind

variable (lines : List String) (transcript : Transcript)

theorem input_behind (input : Input) :
    (session.behind lines transcript).input input =
      (session.input input).behind lines transcript := by
  unfold Session.input
  rw [show (session.behind lines transcript).breaker = session.breaker from rfl,
    show (session.behind lines transcript).now = session.now from rfl]
  cases session.breaker.handleInput input session.now <;> rfl

theorem poll_behind :
    (session.behind lines transcript).poll = session.poll.behind lines transcript := by
  unfold Session.poll
  rw [show (session.behind lines transcript).breaker = session.breaker from rfl,
    show (session.behind lines transcript).now = session.now from rfl]
  cases session.breaker.poll session.now <;> rfl

theorem cross_behind :
    (session.behind lines transcript).cross = session.cross.behind lines transcript := by
  unfold cross
  dsimp only
  rw [show (session.behind lines transcript).breaker = session.breaker from rfl,
    show (session.behind lines transcript).now = session.now from rfl]
  split
  · exact input_behind (session.withMains (session.breaker.mains.pass session.now)).watch lines
      transcript .zeroCrossing
  · rfl

theorem feedEdges_behind (rounds : Nat) :
    (session.behind lines transcript).feedEdges rounds =
      (session.feedEdges rounds).behind lines transcript := by
  induction rounds generalizing session with
  | zero => rfl
  | succ rounds ih =>
      unfold feedEdges
      rw [show (session.behind lines transcript).breaker = session.breaker from rfl]
      split
      · rfl
      · next edge switch _ =>
        rw [show (session.behind lines transcript).withSwitch switch =
          (session.withSwitch switch).behind lines transcript from rfl, input_behind, ih]

theorem settle_behind :
    (session.behind lines transcript).settle = session.settle.behind lines transcript := by
  unfold settle
  rw [show (session.behind lines transcript).breaker = session.breaker from rfl, feedEdges_behind]
  generalize session.feedEdges (session.breaker.switch.edges.length + 1) = fed
  unfold announce Breaker.dispatchNotice
  cases pending : fed.breaker.pending with
  | none => simp [behind, pending]
  | some notice => simp [behind, pending, say]

theorem visit_behind (event : Nat) :
    (session.behind lines transcript).visit event =
      (session.visit event).behind lines transcript := by
  rw [visit, visit, ← settle_behind, ← poll_behind, ← cross_behind]
  rfl

theorem visitFrom_behind (target event : Nat) :
    (session.behind lines transcript).visitFrom target event =
      (session.visitFrom target event).behind lines transcript := by
  have next (session : Session) :
      (session.behind lines transcript).nextEvent = session.nextEvent := rfl
  fun_induction visitFrom target session event with
  | case1 session event visited idle =>
      rw [visitFrom, visit_behind, next, idle]
  | case2 session event visited later found due ih =>
      rw [visitFrom, visit_behind, next, found]
      dsimp only
      rw [if_pos due]
      exact ih
  | case3 session event visited later found late =>
      rw [visitFrom, visit_behind, next, found]
      dsimp only
      rw [if_neg late]

theorem advanceTo_behind (target : Nat) :
    (session.behind lines transcript).advanceTo target =
      (session.advanceTo target).behind lines transcript := by
  have arrived (visited : Session) :
      { visited.behind lines transcript with now := target }.poll.settle =
        { visited with now := target }.poll.settle.behind lines transcript := by
    rw [← settle_behind, ← poll_behind]
    rfl
  unfold advanceTo
  rw [show (session.behind lines transcript).nextEvent = session.nextEvent from rfl]
  dsimp only
  split
  · exact arrived session
  · split
    · rw [visitFrom_behind]
      exact arrived _
    · exact arrived session

end Behind

/-!
## Visits
-/

section Visits

variable {session} {target event : Nat}

/-- Every event up to a target has been visited. -/
def upTo (session : Session) (target : Nat) : Session :=
  match session.nextEvent with
  | none => session
  | some event => if event ≤ target then session.visitFrom target event else session

theorem advanceTo_eq (session : Session) (target : Nat) :
    session.advanceTo target = { session.upTo target with now := target }.poll.settle := rfl

theorem upTo_of_ahead (ahead : ∀ event ∈ session.nextEvent, target < event) :
    session.upTo target = session := by
  unfold upTo
  cases next : session.nextEvent with
  | none => rfl
  | some event => exact if_neg (Nat.not_le.mpr (ahead event next))

/-- The loop goes on from where the visit of an event leaves it. -/
theorem upTo_of_due (next : session.nextEvent = some event) (due : event ≤ target)
    (done : ∀ later ∈ (session.visit event).nextEvent, event < later) :
    session.upTo target = (session.visit event).upTo target := by
  unfold upTo
  rw [next]
  dsimp only
  rw [if_pos due, visitFrom]
  cases found : (session.visit event).nextEvent with
  | none => rfl
  | some later =>
      have after := done later found
      dsimp only
      by_cases last : later ≤ target
      · rw [if_pos ⟨after, last⟩, if_pos last]
      · rw [if_neg (fun both => last both.2), if_neg last]

theorem cross_of_due (due : session.breaker.mains.nextCrossing = some session.now) :
    session.cross =
      (session.withMains (session.breaker.mains.pass session.now)).watch.input .zeroCrossing :=
  if_pos due

theorem cross_of_undue (undue : session.breaker.mains.nextCrossing ≠ some session.now) :
    session.cross = session :=
  if_neg undue

theorem poll_of_told (inSession : session.breaker.InSession) (earlier : Nat) :
    { session with breaker := session.breaker.told earlier }.poll = session.poll := by
  obtain ⟨_, after, polled, _⟩ := @Breaker.InSession.poll _ _ _ _ _ _ _ inSession session.now
    (fun _ => True) trivial (fun _ _ _ _ _ _ _ _ => trivial)
  rw [Session.poll, Session.poll]
  dsimp only
  rw [Breaker.poll_told, polled]
  rfl

private theorem crossing_of_told (inSession : session.breaker.InSession) (earlier : Nat) :
    { session with breaker := session.breaker.told earlier }.input .zeroCrossing =
      session.input .zeroCrossing := by
  obtain ⟨after, applied, _⟩ := inSession.apply .zeroCrossing session.now
  rw [Session.input, Session.input, Breaker.handleInput, Breaker.handleInput]
  dsimp only
  rw [Breaker.apply_told, applied]

private theorem cross_of_told (inSession : session.breaker.InSession) (earlier : Nat) :
    { session with breaker := session.breaker.told earlier }.cross.poll = session.cross.poll := by
  let told : Session := { session with breaker := session.breaker.told earlier }
  by_cases due : session.breaker.mains.nextCrossing = some session.now
  · have kept :
        (session.withMains (session.breaker.mains.pass session.now)).watch.breaker.InSession :=
      ⟨inSession.initialized, inSession.ready⟩
    have crossed : told.cross = session.cross := by
      rw [cross_of_due due, @cross_of_due told due]
      exact crossing_of_told kept earlier
    exact congrArg Session.poll crossed
  · rw [cross_of_undue due, @cross_of_undue told due]
    exact poll_of_told inSession earlier

/-- A visit does not depend on when the time stood and what the breaker was told before. -/
theorem visit_of_told (inSession : session.breaker.InSession) (instant earlier event : Nat) :
    { session with now := instant, breaker := session.breaker.told earlier }.visit event =
      session.visit event := by
  rw [visit, visit]
  exact congrArg settle (@cross_of_told { session with now := event } inSession earlier)

theorem upTo_of_told (inSession : session.breaker.InSession)
    (next : session.nextEvent = some event) (due : event ≤ target) (instant earlier : Nat) :
    { session with now := instant, breaker := session.breaker.told earlier }.upTo target =
      session.upTo target := by
  let told : Session :=
    { session with now := instant, breaker := session.breaker.told earlier }
  have same : told.nextEvent = some event := next
  change told.upTo target = session.upTo target
  unfold upTo
  rw [same, next]
  dsimp only
  rw [if_pos due, if_pos due, visitFrom, visitFrom, visit_of_told inSession]

end Visits

end Session

end CircuitBreaker.Emulator
