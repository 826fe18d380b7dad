import CircuitBreaker.Proofs.Deliveries
import CircuitBreaker.Proofs.Overflow

/-!
# Virtual time

Time may pass in slices of any length. The loop that lets it pass visits every crossing and every
deadline at its own instant, and what it does between two of them is nothing but to remember the
instant.
-/

set_option autoImplicit false

namespace CircuitBreaker.Emulator

/-!
## Nothing overdue
-/

/-- Nothing is due before `bound`, by a clock of nanoseconds and under valid settings. -/
structure Timed (breaker : SimulatedBreaker) (bound : Nat) : Prop where
  clock : breaker.clock = .nanos
  recovery : breaker.lifecycle.recovery.Valid
  deadlines : breaker.Awaits bound
  crossing : ∀ crossing ∈ breaker.mains.nextCrossing, bound ≤ crossing

theorem nextEvent_bound_iff (session : Session) (bound : Nat) :
    (∀ event ∈ session.nextEvent, bound ≤ event) ↔
      session.breaker.Awaits bound ∧
        ∀ crossing ∈ session.breaker.mains.nextCrossing, bound ≤ crossing := by
  unfold Session.nextEvent Breaker.Awaits
  cases session.breaker.mains.nextCrossing with
  | none => simp
  | some crossing =>
      cases session.breaker.nextDeadline with
      | none => simp
      | some deadline =>
          simp only [Option.mem_some_iff, forall_eq']
          rw [Nat.le_min, and_comm]

private theorem mains_persist {α : Type} [Record α] (set : SimulatedBreaker) (settings : α) :
    (set.persist settings).mains = set.mains := by
  obtain ⟨store, log, same⟩ := Breaker.persist_eq set settings
  rw [same]

namespace Timed

variable {before after : SimulatedBreaker} {bound later now : Nat}

theorem weaken (timed : Timed before later) (ordered : bound ≤ later) : Timed before bound where
  clock := timed.clock
  recovery := timed.recovery
  deadlines := timed.deadlines.weaken ordered
  crossing crossing next := Nat.le_trans ordered (timed.crossing crossing next)

private theorem acted (timed : Timed before bound) (session : before.InSession)
    {action : Action SimulatedSwitch SimulatedMains SimulatedMeter (FramedStore Ram)}
    (other : ∀ adjustment, action ≠ .adjust adjustment)
    (deadlines : (before.act action).Awaits later)
    (crossing : ∀ crossing ∈ before.mains.nextCrossing, later ≤ crossing) :
    Timed (before.act action) later := by
  obtain ⟨clock, mains, recovery⟩ := session.frame_act other
  exact ⟨clock.trans timed.clock, recovery ▸ timed.recovery, deadlines, mains ▸ crossing⟩

theorem handled (timed : Timed before bound) (session : before.InSession) {input : Input}
    (accepted : before.handleInput input now = .ok after)
    (armed : ∀ wait, before.lifecycle.Arms input.event before.switch wait →
      bound ≤ before.clock.after now wait)
    (ticked : input = .closeRequest → bound ≤ before.clock.after now Monitor.interval) :
    Timed after bound := by
  have acted : before.act (.input input now) = after := by
    rw [Breaker.act, accepted, Breaker.afterCall]
  have deadlines := timed.deadlines.handled session accepted armed ticked
  rw [← acted] at deadlines ⊢
  exact timed.acted session (fun adjustment => by simp) deadlines timed.crossing

/-- At its own instant an input makes nothing overdue. -/
theorem handled_now (timed : Timed before now) (session : before.InSession) {input : Input}
    (shown : now ≤ Clock.nanos.limit) (accepted : before.handleInput input now = .ok after) :
    Timed after now := by
  rw [← timed.clock] at shown
  exact timed.handled session accepted (fun wait _ => Clock.le_after shown wait)
    fun _ => Clock.le_after shown _

theorem adjusted (timed : Timed before bound)
    {adjustment : Adjustment SimulatedSwitch SimulatedMains SimulatedMeter (FramedStore Ram)}
    (setting : adjustment.IsSetting) : Timed (before.adjust adjustment) bound := by
  refine ⟨?_, ?_, timed.deadlines.adjust adjustment, ?_⟩
  · rw [(Breaker.adjust_adjusted adjustment before).clock]
    exact timed.clock
  · rcases Breaker.lifecycle_adjust adjustment before with same | ⟨settings, _, configured⟩ |
      ⟨settings, _, configured⟩
    · rw [same]
      exact timed.recovery
    · obtain ⟨valid, recovery, _⟩ := Lifecycle.configure_spec configured
      rw [recovery]
      exact valid
    · rw [(Lifecycle.configureModulation_spec configured).1]
      exact timed.recovery
  · have mains : (before.adjust adjustment).mains = before.mains := by
      rcases Breaker.adjust_shape adjustment before with
        ⟨_, _, same, _⟩ | ⟨_, _, _, _, rfl⟩ | ⟨α, _, _, settings, _, _, _, _, stored⟩
      · rw [same]
      · exact setting.elim
      · rw [stored, mains_persist]
    rw [mains]
    exact timed.crossing

theorem executed (timed : Timed before now) (session : before.InSession)
    (shown : now ≤ Clock.nanos.limit) (executes : before.Executes now after) : Timed after now := by
  cases executes with
  | shows => exact timed
  | requests input request accepted => exact timed.handled_now session shown accepted
  | sets adjustment setting => exact timed.adjusted setting

theorem polled (timed : Timed before bound) (session : before.InSession)
    (shown : now < Clock.nanos.limit)
    (crossing : ∀ crossing ∈ before.mains.nextCrossing, now + 1 ≤ crossing) :
    Timed (before.act (.poll now)) (now + 1) := by
  have later : now < before.clock.after now Monitor.interval := by
    rw [timed.clock]
    exact Clock.lt_after shown (by decide)
  obtain ⟨after, polled, deadlines⟩ := session.poll_awaits later
  refine timed.acted session (fun adjustment => by simp) ?_ crossing
  rw [Breaker.act, polled]
  exact deadlines

end Timed

/-- What a session comes to rest in: settled, with nothing overdue and no notice waiting. -/
structure Punctual (breaker : SimulatedBreaker) (bound : Nat) : Prop extends
    Timed breaker bound where
  sound : Sound Settled breaker
  silent : breaker.pending = none

namespace Punctual

variable {session : Session} {bound : Nat}

/-- Of the edges that a command causes, none is a trip of the hardware. -/
private theorem arms_of_moving {machine : Lifecycle} {switch : SimulatedSwitch} {closed : Bool}
    {wait : Nat} (moving : Moving machine switch) (edges : switch.edges = [.switchChanged closed])
    (arms : machine.Arms (Input.switchChanged closed).event { switch with edges := [] } wait) :
    wait = Lifecycle.detectionWindow ∨ wait = machine.recovery.resetTimeout := by
  cases arms with
  | detection => exact .inl rfl
  | reset => exact .inr rfl
  | recovery phase opened tripped =>
      exfalso
      cases moving with
      | closing known | opening known | released known | opened known =>
          rw [known] at phase
          cases phase
      | resuming _ _ reported =>
          rw [reported] at edges
          cases edges
          cases opened
      | interrupting _ _ _ _ external =>
          have latched : switch.cause = .hardwareOvercurrent := tripped
          rw [external] at latched
          cases latched

private theorem announced (timed : Timed session.breaker bound)
    (sound : Sound Settled session.breaker) : Punctual session.announce.breaker bound := by
  obtain ⟨lines, same⟩ := session.announce_eq
  rw [same]
  exact ⟨⟨timed.clock, timed.recovery, timed.deadlines, timed.crossing⟩,
    sound.aside rfl rfl rfl, rfl⟩

/-- A session settles without a deadline for the instant itself, unless the hardware tripped. -/
theorem settle_after (sound : Sound Tracks session.breaker)
    (timed : Timed session.breaker (session.now + 1)) (shown : session.now < Clock.nanos.limit) :
    Punctual session.settle.breaker (session.now + 1) := by
  rcases sound.settle_cases with
    ⟨same, settled⟩ | ⟨closed, after, moving, edges, heard, settled, same⟩
  · rw [same]
    exact announced timed settled
  · rw [same]
    refine announced (Timed.handled ?_ ?_ heard ?_ ?_) settled
    · exact ⟨timed.clock, timed.recovery, timed.deadlines, timed.crossing⟩
    · exact ⟨sound.session.initialized, sound.session.ready⟩
    · intro wait arms
      have positive : Clock.nanos.tick ≤ wait := by
        have window : Clock.nanos.tick ≤ Lifecycle.detectionWindow := by decide
        have minimal : Clock.nanos.tick ≤ RecoverySettings.minResetTimeout := by decide
        rcases arms_of_moving moving edges arms with same | same
        · omega
        · have valid := timed.recovery.1
          rw [same]
          exact Nat.le_trans minimal valid
      show session.now + 1 ≤ session.breaker.clock.after session.now wait
      rw [timed.clock]
      exact Clock.lt_after shown positive
    · intro request
      cases request

/-- Where nothing is overdue, a session settles so. -/
theorem settle_now (sound : Sound Tracks session.breaker)
    (timed : Timed session.breaker session.now) (shown : session.now ≤ Clock.nanos.limit) :
    Punctual session.settle.breaker session.now := by
  rcases sound.settle_cases with ⟨same, settled⟩ | ⟨closed, after, _, _, heard, settled, same⟩
  · rw [same]
    exact announced timed settled
  · rw [same]
    refine announced (Timed.handled_now ?_ ?_ shown heard) settled
    · exact ⟨timed.clock, timed.recovery, timed.deadlines, timed.crossing⟩
    · exact ⟨sound.session.initialized, sound.session.ready⟩

/-!
## Time that passes
-/

private theorem lt_nextCrossing_pass {mains : SimulatedMains} {now : Nat}
    (due : mains.nextCrossing = some now) :
    ∀ crossing ∈ (mains.pass now).nextCrossing, now + 1 ≤ crossing := by
  have half : 1 ≤ SimulatedMains.halfPeriod := by decide
  intro crossing next
  simp only [SimulatedMains.pass, due, Option.isSome_some, if_true, SimulatedMains.schedule] at next
  split at next
  · rw [← Option.mem_some_iff.mp next]
    omega
  · cases next

/-- At the next event, a crossing that is due comes first, and no deadline is overdue after it. -/
theorem cross (punctual : Punctual session.breaker session.now)
    (shown : session.now ≤ Clock.nanos.limit) :
    Sound Tracks session.cross.breaker ∧ Timed session.cross.breaker session.now ∧
      ∀ crossing ∈ session.cross.breaker.mains.nextCrossing, session.now + 1 ≤ crossing := by
  refine ⟨punctual.sound.cross, ?_⟩
  by_cases due : session.breaker.mains.nextCrossing = some session.now
  · let passed := (session.withMains (session.breaker.mains.pass session.now)).watch
    have later : ∀ crossing ∈ passed.breaker.mains.nextCrossing, session.now + 1 ≤ crossing :=
      lt_nextCrossing_pass due
    have timed : Timed passed.breaker session.now :=
      ⟨punctual.clock, punctual.recovery, punctual.deadlines,
        fun crossing next => Nat.le_of_succ_le (later crossing next)⟩
    have kept : passed.breaker.InSession :=
      ⟨punctual.sound.session.initialized, punctual.sound.session.ready⟩
    obtain ⟨after, accepted, _⟩ := kept.handleInput .zeroCrossing session.now
    have acted : passed.breaker.act (.input .zeroCrossing session.now) = after := by
      rw [Breaker.act, accepted, Breaker.afterCall]
    have mains : after.mains = passed.breaker.mains := by
      rw [← acted]
      exact (kept.frame_act fun adjustment => by simp).2.1
    have crossed : session.cross.breaker = after := by
      rw [Session.cross_of_due due, Session.breaker_input]
      exact acted
    rw [crossed, mains]
    exact ⟨timed.handled_now kept shown accepted, later⟩
  · rw [Session.cross_of_undue due]
    refine ⟨punctual.toTimed, ?_⟩
    intro crossing next
    have bound := punctual.crossing crossing next
    have other : crossing ≠ session.now := by
      rintro rfl
      exact due next
    omega

/-- The visit of an event leaves nothing for its instant. -/
theorem visit {event : Nat} (punctual : Punctual session.breaker event)
    (shown : event < Clock.nanos.limit) : Punctual (session.visit event).breaker (event + 1) := by
  obtain ⟨sound, timed, crossing⟩ :=
    @cross { session with now := event } punctual (Nat.le_of_lt shown)
  generalize crossed : { session with now := event }.cross = after at sound timed crossing
  have now : after.now = event := by
    rw [← crossed, Session.now_cross]
  have polled : Timed after.poll.breaker (event + 1) := by
    rw [Session.breaker_poll, now]
    exact timed.polled sound.session shown crossing
  have stands : after.poll.now = event := by
    rw [Session.now_poll]
    exact now
  have settled := @settle_after after.poll sound.poll
  rw [stands] at settled
  rw [Session.visit, crossed]
  exact settled polled shown

/-- Between two events time passes without anything but the memory of it. -/
theorem arrive (punctual : Punctual session.breaker (session.now + 1)) :
    session.poll.settle =
      { session with breaker := session.breaker.told session.now }.watch := by
  obtain ⟨polled, _⟩ := Breaker.poll_before punctual.sound.session punctual.deadlines
  have unticked : session.lacksTick = false := by
    rw [Session.lacksTick, Option.any_eq_false]
    intro tick next
    have ahead := (Breaker.awaits_iff.mp punctual.deadlines).ticks tick next
    simp [Nat.not_le.mpr ahead]
  let told : Session := { session with breaker := session.breaker.told session.now }
  have stands : session.poll = told.watch := by
    rw [Session.poll, polled]
    dsimp only
    rw [unticked, Bool.or_false]
  have quiet : told.watch.breaker.switch.edges = [] := punctual.sound.position.edges
  have silent : told.watch.breaker.pending = none := punctual.silent
  rw [stands, Session.settle, Sound.feedEdges_of_quiet quiet, Session.announce,
    Breaker.dispatchNotice, silent]
  dsimp only
  rw [← silent]

end Punctual

/-- What a visit meets and does: it delivers the next event, not in the past and not after the
target. Its poll is late for no deadline, and it leaves nothing for its own instant. -/
structure Timely (target : Nat) (session : Session) (event : Nat) : Prop where
  next : session.nextEvent = some event
  ahead : session.now ≤ event
  due : event ≤ target
  delivers : Delivers event session (session.visit event)
  punctual : ∀ deadline ∈ { session with now := event }.cross.breaker.nextDeadline,
    event ≤ deadline
  done : ∀ later ∈ (session.visit event).nextEvent, event < later

/-- Timely visits of these instants, one after the other. -/
abbrev Visits (target : Nat) : Session → List Nat → Prop :=
  Throughout Session.visit (Timely target)

section Visits

variable {session : Session} {target : Nat} {instants : List Nat}

theorem upTo_of_visits (visits : Visits target session instants) :
    session.upTo target = (instants.foldl Session.visit session).upTo target := by
  induction instants generalizing session with
  | nil => rfl
  | cons event rest ih =>
      obtain ⟨timely, later⟩ := visits
      rw [Session.upTo_of_due timely.next timely.due timely.done]
      exact ih later

private theorem bound_of_visits {bound : Nat} (visits : Visits target session instants)
    (ahead : ∀ event ∈ session.nextEvent, bound ≤ event) :
    ∀ instant ∈ instants, bound ≤ instant := by
  induction instants generalizing session bound with
  | nil => simp
  | cons event rest ih =>
      obtain ⟨timely, later⟩ := visits
      have first := ahead event timely.next
      have others := ih later timely.done
      intro instant member
      rcases List.mem_cons.mp member with rfl | member
      · exact first
      · exact Nat.le_trans first (Nat.le_of_lt (others instant member))

theorem sorted_of_visits (visits : Visits target session instants) : instants.Pairwise (· < ·) := by
  induction instants generalizing session with
  | nil => exact .nil
  | cons event rest ih =>
      obtain ⟨timely, later⟩ := visits
      exact .cons (bound_of_visits later timely.done) (ih later)

end Visits

namespace Punctual

variable {session : Session} {bound target : Nat}

theorem weaken {breaker : SimulatedBreaker} {later : Nat} (punctual : Punctual breaker later)
    (ordered : bound ≤ later) : Punctual breaker bound :=
  ⟨punctual.toTimed.weaken ordered, punctual.sound, punctual.silent⟩

theorem told {breaker : SimulatedBreaker} (punctual : Punctual breaker bound) (now : Nat) :
    Punctual (breaker.told now) bound :=
  ⟨⟨punctual.clock, punctual.recovery, punctual.deadlines, punctual.crossing⟩,
    punctual.sound.aside rfl rfl rfl, punctual.silent⟩

theorem until_next (punctual : Punctual session.breaker bound) {later : Nat}
    (ahead : ∀ event ∈ session.nextEvent, later ≤ event) : Punctual session.breaker later := by
  obtain ⟨deadlines, crossing⟩ := (nextEvent_bound_iff session later).mp ahead
  exact ⟨⟨punctual.clock, punctual.recovery, deadlines, crossing⟩, punctual.sound, punctual.silent⟩

theorem timely (punctual : Punctual session.breaker bound) (ahead : session.now ≤ bound)
    {event : Nat} (next : session.nextEvent = some event) (due : event ≤ target)
    (shown : target < Clock.nanos.limit) :
    Timely target session event ∧ Punctual session.breaker event ∧ bound ≤ event := by
  have later := (nextEvent_bound_iff session bound).mpr ⟨punctual.deadlines, punctual.crossing⟩
  have bounded := later event next
  have earliest : ∀ other ∈ session.nextEvent, event ≤ other := by
    intro other found
    rw [next] at found
    exact Nat.le_of_eq (Option.mem_some_iff.mp found)
  have here := punctual.until_next earliest
  have visited := here.visit (Nat.lt_of_le_of_lt due shown)
  refine ⟨⟨next, Nat.le_trans ahead bounded, due, here.sound.delivers event, ?_, ?_⟩, here,
    bounded⟩
  · have early : event ≤ Clock.nanos.limit := by omega
    obtain ⟨_, timed, _⟩ := @cross { session with now := event } here early
    exact timed.deadlines
  · exact (nextEvent_bound_iff _ (event + 1)).mpr ⟨visited.deadlines, visited.crossing⟩

/-- The loop comes to an end: after finitely many visits nothing is left up to the target. -/
theorem visits (punctual : Punctual session.breaker bound) (ahead : session.now ≤ bound)
    (shown : target < Clock.nanos.limit) :
    ∃ instants, Visits target session instants ∧
      Punctual (instants.foldl Session.visit session).breaker (target + 1) := by
  induction remaining : target + 1 - bound using Nat.strongRecOn generalizing session bound with
  | ind rounds ih =>
      cases next : session.nextEvent with
      | none => exact ⟨[], trivial, punctual.until_next (by simp [next])⟩
      | some event =>
          by_cases due : event ≤ target
          · obtain ⟨timely, here, bounded⟩ := punctual.timely ahead next due shown
            have visited := here.visit (Nat.lt_of_le_of_lt due shown)
            have stands : (session.visit event).now ≤ event + 1 := by
              rw [Session.now_visit]
              exact Nat.le_succ event
            obtain ⟨instants, later, final⟩ := ih _ (by omega) visited stands rfl
            exact ⟨event :: instants, ⟨timely, later⟩, final⟩
          · refine ⟨[], trivial, punctual.until_next fun other found => ?_⟩
            rw [next] at found
            rw [← Option.mem_some_iff.mp found]
            omega

/-- All of an advance: the visits up to the target, and the memory of the target. -/
theorem advanceTo (punctual : Punctual session.breaker bound) (ahead : session.now ≤ bound)
    (shown : target < Clock.nanos.limit) :
    ∃ instants, Visits target session instants ∧
      let visited := instants.foldl Session.visit session
      Punctual visited.breaker (target + 1) ∧
        session.advanceTo target =
          { visited with now := target, breaker := visited.breaker.told target }.watch := by
  obtain ⟨instants, visits, final⟩ := punctual.visits ahead shown
  refine ⟨instants, visits, final, ?_⟩
  have nothing := (nextEvent_bound_iff _ _).mpr ⟨final.deadlines, final.crossing⟩
  rw [Session.advanceTo_eq, upTo_of_visits visits, Session.upTo_of_ahead nothing]
  exact @arrive { instants.foldl Session.visit session with now := target } final

/-- A session that has noted what there was to note has so after an advance too. -/
theorem advanceTo_of_watched (punctual : Punctual session.breaker bound)
    (ahead : session.now ≤ bound) (watched : session.Watched)
    (shown : target < Clock.nanos.limit) :
    ∃ instants, Visits target session instants ∧
      let visited := instants.foldl Session.visit session
      Punctual visited.breaker (target + 1) ∧
        session.advanceTo target =
          { visited with now := target, breaker := visited.breaker.told target } := by
  obtain ⟨instants, visits, final, arrived⟩ := punctual.advanceTo ahead shown
  refine ⟨instants, visits, final, arrived.trans (Session.watch_of_watched ?_)⟩
  exact (Keeps.visits session instants).watched watched

/-- Time that passes in two slices does what it does in one. -/
theorem advanceTo_advanceTo (punctual : Punctual session.breaker bound)
    (ahead : session.now ≤ bound) (watched : session.Watched) {first last : Nat}
    (ordered : first ≤ last) (shown : first < Clock.nanos.limit) :
    (session.advanceTo first).advanceTo last = session.advanceTo last := by
  obtain ⟨instants, visits, final, arrived⟩ :=
    punctual.advanceTo_of_watched ahead watched shown
  have whole : session.upTo last = (instants.foldl Session.visit session).upTo last :=
    upTo_of_visits (throughout_imp _ (fun _ _ timely =>
      { timely with due := Nat.le_trans timely.due ordered }) _ _ visits)
  rw [arrived, Session.advanceTo_eq, Session.advanceTo_eq session, whole]
  generalize instants.foldl Session.visit session = visited at final
  have inSession := final.sound.session
  by_cases due : ∃ event ∈ visited.nextEvent, event ≤ last
  · -- The next visit overwrites what the first slice left behind.
    obtain ⟨event, next, due⟩ := due
    rw [Session.upTo_of_told inSession (Option.mem_def.mp next) due]
  · let told : Session := { visited with now := first, breaker := visited.breaker.told first }
    have late : ∀ event ∈ visited.nextEvent, last < event := by
      intro event next
      by_contra early
      exact due ⟨event, next, Nat.le_of_not_lt early⟩
    have resumed : told.upTo last = told := Session.upTo_of_ahead late
    rw [Session.upTo_of_ahead late, resumed]
    exact congrArg Session.settle
      (@Session.poll_of_told { visited with now := last } inSession first)

end Punctual

/-!
## Operations
-/

/-- Time does not go back and stays within the longest duration, and nothing becomes overdue. -/
structure Proceeds (before after : Session) : Prop where
  ordered : before.now ≤ after.now
  shown : before.now ≤ Duration.longest → after.now ≤ Duration.longest
  punctual : before.now ≤ Duration.longest → Punctual before.breaker before.now →
    Punctual after.breaker after.now

namespace Proceeds

variable {session middle after : Session}

theorem refl (session : Session) : Proceeds session session :=
  ⟨Nat.le_refl _, id, fun _ held => held⟩

theorem trans (first : Proceeds session middle) (second : Proceeds middle after) :
    Proceeds session after where
  ordered := Nat.le_trans first.ordered second.ordered
  shown within := second.shown (first.shown within)
  punctual within held := second.punctual (first.shown within) (first.punctual within held)

theorem congr (proceeds : Proceeds session middle) (breaker : after.breaker = middle.breaker)
    (now : after.now = middle.now) : Proceeds session after := by
  obtain ⟨ordered, shown, punctual⟩ := proceeds
  rw [← breaker, ← now] at punctual
  rw [← now] at ordered shown
  exact ⟨ordered, shown, punctual⟩

theorem advanceTo (session : Session) {target : Nat} (ahead : session.now ≤ target)
    (within : target ≤ Duration.longest) : Proceeds session (session.advanceTo target) where
  ordered := by
    rw [Session.now_advanceTo]
    exact ahead
  shown _ := by
    rw [Session.now_advanceTo]
    exact within
  punctual _ held := by
    rw [Session.now_advanceTo]
    obtain ⟨instants, _, final, arrived⟩ :=
      held.advanceTo (Nat.le_refl _) (Nat.lt_succ_of_le within)
    rw [arrived]
    exact (final.weaken (Nat.le_succ target)).told target

theorem pass (session : Session) (duration : Nat) : Proceeds session (session.pass duration) := by
  unfold Session.pass
  dsimp only
  split
  · exact (refl session).congr rfl rfl
  · next within =>
    rw [Session.isBeyond_iff, Nat.not_lt] at within
    exact advanceTo session (Nat.le_add_right _ _) within

theorem say (session : Session) (line : String) : Proceeds session (session.say line) :=
  (refl session).congr rfl rfl

/-- A session settles after what is done to it at one instant. -/
theorem settle (stands : middle.now = session.now)
    (done : session.now ≤ Clock.nanos.limit → Punctual session.breaker session.now →
      Sound Tracks middle.breaker ∧ Timed middle.breaker session.now) :
    Proceeds session middle.settle := by
  have settled : middle.settle.now = session.now := (Session.now_settle middle).trans stands
  refine ⟨Nat.le_of_eq settled.symm, fun within => settled ▸ within, fun within held => ?_⟩
  have shown : session.now ≤ Clock.nanos.limit := Nat.le_succ_of_le within
  obtain ⟨sound, timed⟩ := done shown held
  rw [settled]
  rw [← stands] at timed shown ⊢
  exact Punctual.settle_now sound timed shown

theorem input (session : Session) {input : Input}
    (unreported : ∀ closed, input ≠ .switchChanged closed) :
    Proceeds session (session.input input).settle := by
  refine settle (Session.now_input _ _) fun shown held => ⟨held.sound.input unreported, ?_⟩
  obtain ⟨after, accepted, _⟩ := held.sound.session.handleInput input session.now
  rw [Session.input, accepted]
  exact held.toTimed.handled_now held.sound.session shown accepted

theorem injectCrossings (session : Session) (count : Nat) :
    Proceeds session (session.injectCrossings count) := by
  induction count generalizing session with
  | zero => exact refl session
  | succ count ih => exact (input session (by simp)).trans (ih _)

theorem strike (session : Session) (fault : Fault) :
    Proceeds session (session.strike fault).settle := by
  unfold Session.strike
  split
  · next moved struck =>
    let told := session.say s!"ok latch {fault.name}"
    rw [show (session.withSwitch moved).say s!"ok latch {fault.name}" = told.withSwitch moved
      from rfl]
    have stands : (told.withSwitch moved).settle.now = session.now := Session.now_settle _
    refine ⟨Nat.le_of_eq stands.symm, fun within => stands ▸ within, fun within held => ?_⟩
    have shown : session.now ≤ Clock.nanos.limit := Nat.le_succ_of_le within
    obtain ⟨after, heard, settled, same⟩ :=
      Sound.settle_of_strike (show Sound Settled told.breaker from held.sound) struck
    have timed : Timed after session.now := by
      refine Timed.handled_now ?_ ?_ shown heard
      · exact ⟨held.clock, held.recovery, held.deadlines, held.crossing⟩
      · exact ⟨held.sound.session.initialized, held.sound.session.ready⟩
    rw [stands, same]
    exact Punctual.announced timed settled
  · exact settle rfl fun _ held => ⟨held.sound.tracks, held.toTimed⟩

theorem runConsole (session : Session) (command : CircuitBreaker.Command) :
    Proceeds session (session.runConsole command) := by
  unfold Session.runConsole
  dsimp only
  generalize ran : session.breaker.execute command session.now = outcome
  have replied (answered : Session) (stands : answered.now = session.now)
      (done : session.now ≤ Clock.nanos.limit → Punctual session.breaker session.now →
        Sound Tracks answered.breaker ∧ Timed answered.breaker session.now) :
      Proceeds session
        (if command = .help then answered.sayAll Command.helpLines else answered).settle := by
    split
    · exact settle stands done
    · exact settle stands done
  cases outcome with
  | ok answer =>
      obtain ⟨lines, breaker⟩ := answer
      have executes := Breaker.execute_executes ran
      exact replied _ rfl fun shown held =>
        ⟨held.sound.executed executes, held.toTimed.executed held.sound.session shown executes⟩
  | error error => exact replied _ rfl fun _ held => ⟨held.sound.tracks, held.toTimed⟩

theorem run (session : Session) (command : Command) : Proceeds session (session.run command) := by
  cases command with
  | advance millis =>
      exact (pass session (Duration.ofMillis millis)).trans (say _ _)
  | supply ac =>
      refine ⟨Nat.le_refl _, id, fun _ held => ?_⟩
      refine ⟨⟨held.clock, held.recovery, held.deadlines, ?_⟩, held.sound.aside rfl rfl rfl,
        held.silent⟩
      intro crossing next
      simp only [Session.run, Session.withMains, SimulatedMains.select,
        SimulatedMains.schedule] at next
      split at next
      · rw [← Option.mem_some_iff.mp next]
        exact Nat.le_add_right session.now _
      · cases next
  | crossings count => exact (injectCrossings session count).trans (say _ _)
  | current milliamps =>
      refine ⟨Nat.le_refl _, id, fun _ held => ?_⟩
      exact ⟨⟨held.clock, held.recovery, held.deadlines, held.crossing⟩,
        held.sound.aside rfl rfl rfl, held.silent⟩
  | temperature sensor celsius =>
      refine ⟨Nat.le_refl _, id, fun _ held => ?_⟩
      exact ⟨⟨held.clock, held.recovery, held.deadlines, held.crossing⟩,
        held.sound.run (.temperature sensor celsius), held.silent⟩
  | trip fault => exact strike session fault

theorem runLine (session : Session) (line : String) : Proceeds session (session.runLine line) := by
  unfold Session.runLine
  split
  · exact run session _
  · exact say session _
  · split
    · exact runConsole session _
    · exact say session _

private theorem takeReply (proceeds : Proceeds session middle) :
    Proceeds session middle.takeReply.2 :=
  proceeds.congr rfl rfl

theorem handleLine (session : Session) (line : String) :
    Proceeds session (session.handleLine line).2 := by
  unfold Session.handleLine
  dsimp only
  generalize String.ofList (Text.trim line.toList) = command
  split
  · exact refl session
  · let heard : Session := { session with
      transcript := session.transcript.add session.now .host [command] }
    have listened : Proceeds session heard := (refl session).congr rfl rfl
    exact takeReply (listened.trans (runLine heard command))

theorem perform (session : Session) (operation : Operation) :
    Proceeds session (session.perform operation) := by
  cases operation with
  | line text => exact handleLine session text
  | wait duration =>
      exact takeReply (pass session duration)

theorem history (session : Session) (operations : List Operation) :
    Proceeds session (session.history operations) := by
  induction operations generalizing session with
  | nil => exact refl session
  | cons operation rest ih => exact (perform session operation).trans (ih _)

end Proceeds

/-!
## Slices of time
-/

theorem Punctual.begin (profile : Profile) : Punctual (Session.begin profile).breaker 0 := by
  let fresh : SimulatedBreaker :=
    .ofParts .nanos {} {} {} { storage := Ram.erased Session.storeSize }
  have outside : fresh.initialized = false := rfl
  have begun : (Session.begin profile).breaker = fresh.init 0 := by
    unfold Session.begin
    dsimp only [fresh]
  refine ⟨⟨?_, ?_, fun _ _ => Nat.zero_le _, fun _ _ => Nat.zero_le _⟩, Sound.begin profile, ?_⟩
  · rw [begun]
    exact (Breaker.init_of_fresh outside 0).2.1
  · rw [begun]
    exact (Breaker.recovery_init outside 0).1
  · rw [begun]
    exact (Breaker.init_fresh outside 0).1

namespace Session

/-- A session after some operations from its start, none of which has overflowed. -/
structure Reachable (session : Session) : Prop where
  history : ∃ profile operations, (begin profile).history operations = session
  running : session.overflowed = false

namespace Reachable

variable {session : Session}

theorem shown (reachable : session.Reachable) : session.now ≤ Duration.longest := by
  obtain ⟨profile, operations, rfl⟩ := reachable.history
  have start : (begin profile).now ≤ Duration.longest := Nat.zero_le _
  exact (Proceeds.history (begin profile) operations).shown start

theorem punctual (reachable : session.Reachable) : Punctual session.breaker session.now := by
  obtain ⟨profile, operations, rfl⟩ := reachable.history
  have start : (begin profile).now ≤ Duration.longest := Nat.zero_le _
  exact (Proceeds.history (begin profile) operations).punctual start (Punctual.begin profile)

theorem watched (reachable : session.Reachable) : session.Watched := by
  obtain ⟨profile, operations, rfl⟩ := reachable.history
  exact (Keeps.history (begin profile) operations).watched (watched_begin profile)

/-- Far from the last instant an advance does not overflow. -/
theorem clear (reachable : session.Reachable) {target : Nat}
    (room : target + session.breaker.lifecycle.longestWait ≤ Duration.longest) :
    Clear target session := by
  have within : ∀ instant ∈ session.awaited, instant ≤ Duration.longest := by
    intro instant member
    by_contra beyond
    have noted := reachable.watched (List.any_eq_true.mpr
      ⟨instant, member, isBeyond_iff.mpr (Nat.lt_of_not_le beyond)⟩)
    exact absurd (noted.symm.trans reachable.running) (by simp)
  refine ⟨⟨reachable.punctual.sound.session, reachable.punctual.clock, room, ⟨?_, ?_⟩, ?_⟩,
    reachable.running⟩
  · intro timer deadline armed
    refine within deadline (List.mem_append_left _ (List.mem_append_left _ ?_))
    exact List.mem_filterMap.mpr ⟨timer, timer.mem_all, armed⟩
  · intro tick next
    refine within tick (List.mem_append_left _ (List.mem_append_right _ ?_))
    exact Option.mem_toList.mpr next
  · intro crossing next
    exact within crossing (List.mem_append_right _ (Option.mem_toList.mpr next))

end Reachable

/-- An advance to an instant. It comes to an end after finitely many visits, each at the instant of
what it delivers and one later than the other, and it leaves nothing that is due. -/
structure Advances (session : Session) (target : Nat) : Prop where
  visits : ∃ instants, Visits target session instants ∧ instants.Pairwise (· < ·) ∧
    let visited := instants.foldl visit session
    session.advanceTo target =
      { visited with now := target, breaker := visited.breaker.told target }
  arrives : (session.advanceTo target).now = target
  ahead : ∀ event ∈ (session.advanceTo target).nextEvent, target < event
  fed : (session.advanceTo target).breaker.switch.edges = []
  silent : (session.advanceTo target).breaker.pending = none

private theorem advances_of_punctual {session : Session} {target : Nat}
    (punctual : Punctual session.breaker session.now) (watched : session.Watched)
    (within : target ≤ Duration.longest) : session.Advances target := by
  obtain ⟨instants, visits, final, arrived⟩ :=
    punctual.advanceTo_of_watched (Nat.le_refl _) watched (Nat.lt_succ_of_le within)
  refine ⟨⟨instants, visits, sorted_of_visits visits, arrived⟩, now_advanceTo _ _, ?_, ?_, ?_⟩
  · rw [arrived]
    exact (nextEvent_bound_iff _ (target + 1)).mpr ⟨final.deadlines, final.crossing⟩
  · rw [arrived]
    exact final.sound.position.edges
  · rw [arrived]
    exact final.silent

/-- What a stretch of time leaves and tells, all at once and in two slices. -/
structure Slices (session : Session) (first last : Nat) : Prop where
  /-- The two slices leave the same session. They overflow exactly if the whole does. -/
  same : (session.advanceTo first).advanceTo last = session.advanceTo last
  overflow : (session.advanceTo first).overflowed = true →
    (session.advanceTo last).overflowed = true
  /-- The notices of the slices are those of the whole. -/
  notices :
    let slice := session.runFor (first - session.now)
    let rest := slice.2.runFor (last - first)
    let whole := session.runFor (last - session.now)
    slice.1 ++ rest.1 = whole.1 ∧ rest.2.breaker = whole.2.breaker ∧ rest.2.now = whole.2.now
  slice : session.Advances first
  rest : (session.advanceTo first).Advances last
  whole : session.Advances last
  /-- An overflow needs a wait that reaches beyond the longest duration. -/
  clear : last + session.breaker.lifecycle.longestWait ≤ Duration.longest →
    (session.advanceTo last).overflowed = false

private theorem pass_of_within {session : Session} {target : Nat} (ahead : session.now ≤ target)
    (within : target ≤ Duration.longest) :
    session.pass (target - session.now) = session.advanceTo target := by
  unfold pass
  dsimp only
  rw [Nat.add_sub_of_le ahead, if_neg]
  rw [isBeyond_iff, Nat.not_lt]
  exact within

/-- The notices of two slices are those of the whole, and the session ends up the same. -/
private theorem runFor_runFor {session : Session} {first last : Nat} (ahead : session.now ≤ first)
    (ordered : first ≤ last) (within : last ≤ Duration.longest)
    (sliced : (session.advanceTo first).advanceTo last = session.advanceTo last) :
    let slice := session.runFor (first - session.now)
    let rest := slice.2.runFor (last - first)
    let whole := session.runFor (last - session.now)
    slice.1 ++ rest.1 = whole.1 ∧ rest.2.breaker = whole.2.breaker ∧
      rest.2.now = whole.2.now := by
  have stands := session.now_advanceTo first
  unfold runFor
  rw [pass_of_within ahead (Nat.le_trans ordered within),
    pass_of_within (Nat.le_trans ahead ordered) within, ← sliced]
  generalize session.advanceTo first = advanced at stands
  -- The second slice starts with no output of its own.
  let resumed := advanced.takeReply.2
  have before : advanced = resumed.behind advanced.output advanced.transcript := by
    cases advanced
    simp [resumed, takeReply, behind]
  have reached : resumed.pass (last - first) = resumed.advanceTo last := by
    have later : resumed.now ≤ last := Nat.le_trans (Nat.le_of_eq stands) ordered
    rw [← pass_of_within later within, show resumed.now = first from stands]
  have behind : advanced.advanceTo last =
      (resumed.advanceTo last).behind advanced.output advanced.transcript := by
    rw [← advanceTo_behind, ← before]
  rw [behind]
  dsimp only
  rw [show advanced.takeReply.2.pass (last - first) = resumed.advanceTo last from reached]
  exact ⟨rfl, rfl, rfl⟩

/-- Time may be sliced freely. An advance comes to its target after it has delivered every event
up to that, each at its own instant, unless it overflows, which the last wait in force decides, and
then both ways of slicing do. -/
theorem time_sliced {session : Session} (reachable : session.Reachable) {first last : Nat}
    (ahead : session.now ≤ first) (ordered : first ≤ last) (within : last ≤ Duration.longest) :
    session.Slices first last := by
  have punctual := reachable.punctual
  have watched := reachable.watched
  have within' : first ≤ Duration.longest := Nat.le_trans ordered within
  have sliced := punctual.advanceTo_advanceTo (Nat.le_refl _) watched ordered
    (Nat.lt_succ_of_le within')
  refine ⟨sliced, ?_, runFor_runFor ahead ordered within sliced, ?_, ?_, ?_, ?_⟩
  · rw [← sliced]
    exact (Keeps.advanceTo (session.advanceTo first) last).sticky
  · exact advances_of_punctual punctual watched within'
  · refine advances_of_punctual ?_ ((Keeps.advanceTo session first).watched watched) within
    exact (Proceeds.advanceTo session ahead within').punctual reachable.shown punctual
  · exact advances_of_punctual punctual watched within
  · intro room
    obtain ⟨instants, visits, _, arrived⟩ :=
      punctual.advanceTo_of_watched (Nat.le_refl _) watched (Nat.lt_succ_of_le within)
    have clear : Clear last (instants.foldl visit session) :=
      @foldl_keeps _ _ visit (Timely last) (Clear last)
        (fun _ _ timely clear => clear.visit timely.due) session instants visits
        (reachable.clear room)
    rw [arrived]
    exact clear.running

def closing : Session := (begin .cycle).history [.line "close"]

/-- The supply detection of 200 ms, cut at 100 ms. -/
theorem time_sliced_closing :
    closing.Reachable ∧ closing.Slices (Duration.ofMillis 100) (Duration.ofMillis 300) := by
  have reachable : closing.Reachable := ⟨⟨_, _, rfl⟩, by decide +kernel⟩
  have start : closing.now = 0 := by decide +kernel
  refine ⟨reachable, time_sliced reachable ?_ (by decide) (by decide)⟩
  rw [start]
  exact Nat.zero_le _

/-- A session in which the operator asks to close a DC supply 250 ms before time ends. -/
def late : Session :=
  (begin .cycle).history [.line "supply dc", .line "open",
    .wait (Duration.longest + 1 - Duration.ofMillis 250), .line "close"]

/-- The supply detection still ends in time, but the tick then asks for one that would not. -/
theorem late_overflows :
    late.Reachable ∧ late.now + Duration.ofMillis 200 ≤ Duration.longest ∧
      (late.advanceTo (late.now + Duration.ofMillis 200)).overflowed = true := by
  refine ⟨⟨⟨_, _, rfl⟩, by decide +kernel⟩, by decide +kernel, by decide +kernel⟩

end Session

end CircuitBreaker.Emulator
