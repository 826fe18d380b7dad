import CircuitBreaker.Emulator.Session
import CircuitBreaker.Proofs.Execute
import CircuitBreaker.Proofs.Tracking

/-!
# Sessions of the emulator

After every line from the operator, and after every stretch of time, the switch stands where
the lifecycle says that it does.
-/

set_option autoImplicit false

namespace CircuitBreaker.Emulator

inductive Operation where
  | line (text : String)
  | wait (duration : Nat)

def Session.perform (session : Session) : Operation → Session
  | .line text => (session.handleLine text).2
  | .wait duration => (session.runFor duration).2

def Session.history (session : Session) (operations : List Operation) : Session :=
  operations.foldl perform session

variable {machine after : Lifecycle} {switch moved : SimulatedSwitch}

/-- Positions do not depend on timers, attempts, notices, settings and temperatures. -/
theorem Settled.congr (settled : Settled machine switch) (phase : after.phase = machine.phase)
    (acSupply : after.acSupply = machine.acSupply)
    (activeMode : after.activeMode = machine.activeMode)
    (cycle : after.modulation.phase = machine.modulation.phase) (on : moved.on = switch.on)
    (edges : moved.edges = switch.edges) : Settled after moved := by
  have conducts (known : Conducts machine) : Conducts after := by
    intro ac modulated
    rw [cycle]
    exact known (acSupply ▸ ac) (activeMode ▸ modulated)
  cases settled with
  | opened known off fed => exact .opened (phase.trans known) (on.trans off) (edges.trans fed)
  | detecting known off fed steady =>
      exact .detecting (phase.trans known) (on.trans off) (edges.trans fed)
        (activeMode.trans steady)
  | awaiting known off fed closing =>
      exact .awaiting (phase.trans known) (on.trans off) (edges.trans fed) (conducts closing)
  | conducting known closed fed conducting =>
      exact .conducting (phase.trans known) (on.trans closed) (edges.trans fed)
        (conducts conducting)
  | interrupted known off fed ac modulated opened =>
      exact .interrupted (phase.trans known) (on.trans off) (edges.trans fed) (acSupply.trans ac)
        (activeMode.trans modulated) (cycle.trans opened)
  | opening known closed fed ac =>
      exact .opening (phase.trans known) (on.trans closed) (edges.trans fed) (acSupply.trans ac)

theorem Settled.edges (settled : Settled machine switch) : switch.edges = [] := by
  cases settled with
  | opened _ _ fed | detecting _ _ fed _ | awaiting _ _ fed _ | conducting _ _ fed _
  | interrupted _ _ fed _ _ _ | opening _ _ fed _ => exact fed

theorem Moving.congr (moving : Moving machine switch) (phase : after.phase = machine.phase)
    (acSupply : after.acSupply = machine.acSupply)
    (activeMode : after.activeMode = machine.activeMode)
    (cycle : after.modulation.phase = machine.modulation.phase)
    (mode : after.recovery.mode = machine.recovery.mode) : Moving after switch := by
  have cycles {cycling : ModulationPhase} (known : Cycles machine cycling) :
      Cycles after cycling :=
    ⟨acSupply.trans known.acSupply, activeMode.trans known.activeMode, mode.trans known.mode,
      cycle.trans known.phase⟩
  cases moving with
  | closing known on edges conducts =>
      refine .closing (phase.trans known) on edges ?_
      intro ac modulated
      rw [cycle]
      exact conducts (acSupply ▸ ac) (activeMode ▸ modulated)
  | resuming known on edges cycling =>
      exact .resuming (phase.trans known) on edges (cycles cycling)
  | opening known on edges ac => exact .opening (phase.trans known) on edges (acSupply.trans ac)
  | released known off edges => exact .released (phase.trans known) off edges
  | opened known off edges => exact .opened (phase.trans known) off edges
  | interrupting known off edges cycling external =>
      exact .interrupting (phase.trans known) off edges (cycles cycling) external

theorem Tracks.congr (tracks : Tracks machine switch) (phase : after.phase = machine.phase)
    (acSupply : after.acSupply = machine.acSupply)
    (activeMode : after.activeMode = machine.activeMode)
    (cycle : after.modulation.phase = machine.modulation.phase)
    (mode : after.recovery.mode = machine.recovery.mode) : Tracks after switch := by
  rcases tracks with settled | moving
  · exact .inl (settled.congr phase acSupply activeMode cycle rfl rfl)
  · exact .inr (moving.congr phase acSupply activeMode cycle mode)

/-!
## Events of a breaker
-/

theorem Obedient.reacts {before after : SimulatedBreaker} {event : Event} {now : Nat}
    (obedient : Obedient before.switch) (reacts : before.Reacts event now after) :
    Obedient after.switch :=
  reacts.keeps (fun _ held => held.turnOn) (fun _ held => held.turnOff) obedient

/-- A breaker of a session whose switch obeys it and stands in such a position. -/
structure Sound (Position : Lifecycle → SimulatedSwitch → Prop) (breaker : SimulatedBreaker) :
    Prop where
  session : breaker.InSession
  obedient : Obedient breaker.switch
  position : Position breaker.lifecycle breaker.switch

namespace Sound

variable {before after : SimulatedBreaker} {event : Event} {now : Nat}

/-- The rest of the breaker does not matter to its switch. -/
theorem aside {Position : Lifecycle → SimulatedSwitch → Prop} (sound : Sound Position before)
    (initialized : after.initialized = before.initialized)
    (lifecycle : after.lifecycle = before.lifecycle) (switch : after.switch = before.switch) :
    Sound Position after where
  session := ⟨initialized.trans sound.session.initialized, lifecycle ▸ sound.session.ready⟩
  obedient := switch ▸ sound.obedient
  position := by
    rw [lifecycle, switch]
    exact sound.position

/-- Events other than the reports of the switch keep track of a settled switch. -/
theorem reacts (sound : Sound Settled before) (reacts : before.Reacts event now after)
    (unopened : event ≠ .switchOpened) (unclosed : event ≠ .switchClosed) :
    Sound Tracks after := by
  refine ⟨reacts.inSession sound.session, sound.obedient.reacts reacts, ?_⟩
  have answered : Tracks (before.lifecycle.respond before.clock event before.switch now).1
      (before.lifecycle.respond before.clock event before.switch now).2 := by
    unfold Lifecycle.respond
    split
    · exact .inl sound.position
    · exact sound.position.transition before.clock event now sound.obedient unopened unclosed
  rw [reacts.lifecycle, reacts.switch]
  exact answered.congr rfl rfl rfl rfl rfl

/-- The events of a poll keep track of the switch. -/
theorem reacts_late (sound : Sound Tracks before) (reacts : before.Reacts event now after)
    (late : (∃ timer : TimerId, event = timer.event) ∨ event = .overCurrentDuration) :
    Sound Tracks after := by
  have uncrossed : event ≠ .zeroCrossing ∧ event ≠ .switchOpened ∧ event ≠ .switchClosed := by
    rcases late with ⟨timer, rfl⟩ | rfl
    · cases timer <;> simp [TimerId.event]
    · simp
  obtain ⟨uncrossed, unopened, unclosed⟩ := uncrossed
  rcases sound.position with settled | moving
  · exact Sound.reacts ⟨sound.session, sound.obedient, settled⟩ reacts unopened unclosed
  · refine ⟨reacts.inSession sound.session, sound.obedient.reacts reacts, ?_⟩
    have answered := moving.transition before.clock event now late
    rw [reacts.lifecycle, reacts.switch, sound.session.ready.respond_of_ne _ _ _ _ uncrossed]
    exact .inr (answered.congr rfl rfl rfl rfl rfl)

theorem course {action : Action SimulatedSwitch SimulatedMains SimulatedMeter (FramedStore Ram)}
    {polled : Nat} {trail : List (Application SimulatedSwitch SimulatedMains SimulatedMeter
      (FramedStore Ram))} (course : Breaker.Course action now before trail after)
    (polling : action = .poll polled) (sound : Sound Tracks before) : Sound Tracks after := by
  induction course with
  | rest breaker => exact sound
  | aside monitor lastSeen later ih => exact ih (sound.aside rfl rfl rfl)
  | raise raised applied later ih =>
      subst polling
      exact ih (sound.reacts_late (sound.session.reacts applied) (.inr raised.2))
  | expire timer _ due applied later ih =>
      have disarmed : Sound Tracks (Breaker.disarm _ timer) :=
        ⟨sound.session.disarm timer, sound.obedient, sound.position.congr rfl rfl rfl rfl rfl⟩
      exact ih (disarmed.reacts_late (disarmed.session.reacts applied) (.inl ⟨timer, rfl⟩))

theorem tracks (sound : Sound Settled before) : Sound Tracks before :=
  ⟨sound.session, sound.obedient, .inl sound.position⟩

theorem handled (sound : Sound Settled before) {input : Input}
    (unreported : ∀ closed, input ≠ .switchChanged closed)
    (accepted : before.handleInput input now = .ok after) : Sound Tracks after := by
  obtain ⟨answered, handled, outcome⟩ := sound.session.handleInput input now
  rw [accepted] at handled
  cases handled
  rcases outcome with ⟨rfl, _⟩ | ⟨reacts, _⟩
  · exact sound.tracks
  · cases input with
    | switchChanged closed => exact absurd rfl (unreported closed)
    | _ => exact sound.reacts reacts (by simp [Input.event]) (by simp [Input.event])

theorem adjusted (sound : Sound Settled before)
    {adjustment : Adjustment SimulatedSwitch SimulatedMains SimulatedMeter (FramedStore Ram)}
    (setting : adjustment.IsSetting) : Sound Settled (before.adjust adjustment) := by
  have adjusted := Breaker.adjust_adjusted adjustment before
  have switch : (before.adjust adjustment).switch = before.switch := by
    refine @Breaker.adjust_switch _ _ _ _ before _ _ adjustment (· = before.switch) ?_ ?_ rfl
    · intro switch limit limited accepted same
      exact (setLimit_eq accepted).trans same
    · intro _ _ _ _ surroundings
      subst surroundings
      exact absurd setting id
  refine ⟨adjusted.inSession sound.session, switch ▸ sound.obedient, ?_⟩
  rw [switch]
  rcases Breaker.lifecycle_adjust adjustment before with same | ⟨settings, _, configured⟩ |
    ⟨settings, _, configured⟩
  · rw [same]
    exact sound.position
  · unfold Lifecycle.configure at configured
    split at configured
    · rw [← Except.ok.inj configured]
      exact sound.position.congr rfl rfl rfl rfl rfl rfl
    · cases configured
  · unfold Lifecycle.configureModulation at configured
    split at configured
    · next modulation accepted =>
      rw [← Except.ok.inj configured]
      exact sound.position.congr rfl rfl rfl (Modulation.phase_configure accepted) rfl rfl
    · cases configured

theorem executed (sound : Sound Settled before) (executes : before.Executes now after) :
    Sound Tracks after := by
  cases executes with
  | shows => exact sound.tracks
  | requests input request accepted =>
      refine sound.handled ?_ accepted
      rintro closed rfl
      rcases request with other | other <;> cases other
  | sets adjustment setting => exact (sound.adjusted setting).tracks

/-!
## Events of a session
-/

section Events

variable {session : Session}

theorem input (sound : Sound Settled session.breaker) {input : Input}
    (unreported : ∀ closed, input ≠ .switchChanged closed) :
    Sound Tracks (session.input input).breaker := by
  unfold Session.input
  split
  · next accepted => exact sound.handled unreported accepted
  · exact sound.tracks

theorem poll (sound : Sound Tracks session.breaker) : Sound Tracks session.poll.breaker := by
  have polled : session.poll.breaker = session.breaker.act (.poll session.now) := by
    rw [Breaker.act, Session.poll]
    cases session.breaker.poll session.now with
    | ok breaker => rfl
    | error error => rfl
  rw [polled]
  rcases sound.session.course (.poll session.now) with ⟨_, adjusting⟩ | ⟨now, events⟩
  · cases adjusting
  · exact Sound.course events rfl sound

theorem cross (sound : Sound Settled session.breaker) : Sound Tracks session.cross.breaker := by
  unfold Session.cross
  dsimp only
  split
  · have passed : Sound Settled
        (session.withMains (session.breaker.mains.pass session.now)).watch.breaker :=
      sound.aside rfl rfl rfl
    exact passed.input (by simp)
  · exact sound.tracks

theorem announce {Position : Lifecycle → SimulatedSwitch → Prop}
    (sound : Sound Position session.breaker) : Sound Position session.announce.breaker := by
  have told : Sound Position session.breaker.dispatchNotice.2 := sound.aside rfl rfl rfl
  unfold Session.announce
  split
  · next notified =>
    rw [notified] at told
    exact told
  · next notified =>
    rw [notified] at told
    exact told

theorem feedEdges_of_quiet (quiet : session.breaker.switch.edges = []) (rounds : Nat) :
    session.feedEdges rounds = session := by
  cases rounds with
  | zero => rfl
  | succ rounds => simp [Session.feedEdges, SimulatedSwitch.takeEdge, quiet]

/-- One edge that puts the switch where the lifecycle expects it is all that is fed back. -/
theorem settle_of_edge {closed : Bool} (inSession : session.breaker.InSession)
    (obedient : Obedient session.breaker.switch)
    (edges : session.breaker.switch.edges = [.switchChanged closed])
    (settles :
      let answer := session.breaker.lifecycle.transition session.breaker.clock
        (Input.switchChanged closed).event { session.breaker.switch with edges := [] } session.now
      Settled answer.1 answer.2) :
    ∃ after,
      (session.withSwitch { session.breaker.switch with edges := [] }).breaker.handleInput
          (.switchChanged closed) session.now = .ok after ∧
        Sound Settled after ∧
          session.settle = { session with breaker := after }.watch.announce := by
  let quiet := session.withSwitch { session.breaker.switch with edges := [] }
  have kept : quiet.breaker.InSession := ⟨inSession.initialized, inSession.ready⟩
  have obeys : Obedient quiet.breaker.switch := ⟨obedient.reporting, obedient.commanded⟩
  obtain ⟨after, accepted, ⟨_, request, _⟩ | ⟨reacts, _⟩⟩ :=
    kept.handleInput (.switchChanged closed) session.now
  · cases request
  · have other : (Input.switchChanged closed).event ≠ .zeroCrossing := by
      cases closed <;> simp [Input.event]
    have answered : Sound Settled after := by
      refine ⟨reacts.inSession kept, obeys.reacts reacts, ?_⟩
      rw [reacts.lifecycle, reacts.switch, kept.ready.respond_of_ne _ _ _ _ other]
      exact settles.congr rfl rfl rfl rfl rfl rfl
    refine ⟨after, accepted, answered, ?_⟩
    -- The first round feeds the edge back, and the second one finds no other.
    have fed : session.feedEdges 2 = { session with breaker := after }.watch := by
      have taken : session.breaker.switch.takeEdge =
          (some (.switchChanged closed), { session.breaker.switch with edges := [] }) := by
        simp [SimulatedSwitch.takeEdge, edges]
      rw [Session.feedEdges, taken]
      dsimp only
      have heard :
          quiet.input (.switchChanged closed) = { session with breaker := after }.watch := by
        rw [Session.input, show quiet.now = session.now from rfl, accepted]
        rfl
      rw [heard]
      exact feedEdges_of_quiet answered.position.edges 1
    rw [Session.settle, edges, List.length_singleton, fed]

/-- A fault opens the switch only where the lifecycle has closed it, and the breaker hears of it. -/
theorem settle_of_strike (sound : Sound Settled session.breaker) {fault : Fault}
    {moved : SimulatedSwitch} (struck : session.breaker.switch.strike? fault = some moved) :
    ∃ after,
      (session.withSwitch { moved with edges := [] }).breaker.handleInput
          (.switchChanged false) session.now = .ok after ∧
        Sound Settled after ∧
          (session.withSwitch moved).settle =
            { session with breaker := after }.watch.announce := by
  obtain ⟨on, off, edges, faulty, obeys⟩ := sound.obedient.strike struck
  rw [sound.position.edges, List.nil_append] at edges
  have kept : (session.withSwitch moved).breaker.InSession :=
    ⟨sound.session.initialized, sound.session.ready⟩
  exact settle_of_edge kept obeys edges
    (sound.position.struck session.breaker.clock session.now on off rfl faulty)

/-- A session settles at once, or the breaker handles the one edge that waits. -/
theorem settle_cases (sound : Sound Tracks session.breaker) :
    (session.settle = session.announce ∧ Sound Settled session.breaker) ∨
      ∃ closed after, Moving session.breaker.lifecycle session.breaker.switch ∧
        session.breaker.switch.edges = [.switchChanged closed] ∧
        (session.withSwitch { session.breaker.switch with edges := [] }).breaker.handleInput
          (.switchChanged closed) session.now = .ok after ∧
        Sound Settled after ∧
          session.settle = { session with breaker := after }.watch.announce := by
  rcases sound.position with settled | moving
  · left
    rw [Session.settle, feedEdges_of_quiet settled.edges]
    exact ⟨rfl, sound.session, sound.obedient, settled⟩
  · obtain ⟨closed, edges, settles⟩ := moving.settles session.breaker.clock session.now
    obtain ⟨after, handled, answered, same⟩ :=
      settle_of_edge sound.session sound.obedient edges settles
    exact .inr ⟨closed, after, moving, edges, handled, answered, same⟩

theorem settle (sound : Sound Tracks session.breaker) : Sound Settled session.settle.breaker := by
  rcases settle_cases sound with ⟨same, settled⟩ | ⟨_, _, _, _, _, settled, same⟩
  · rw [same]
    exact announce settled
  · rw [same]
    exact announce settled

theorem visit (sound : Sound Settled session.breaker) (now : Nat) :
    Sound Settled (session.visit now).breaker :=
  (cross (show Sound Settled { session with now }.breaker from sound)).poll.settle

theorem visitFrom (sound : Sound Settled session.breaker) (target event : Nat) :
    Sound Settled (session.visitFrom target event).breaker := by
  fun_induction Session.visitFrom target session event with
  | case1 session event visited idle => exact sound.visit event
  | case2 session event visited next found later ih => exact ih (sound.visit event)
  | case3 session event visited next found late => exact sound.visit event

theorem advanceTo (sound : Sound Settled session.breaker) (target : Nat) :
    Sound Settled (session.advanceTo target).breaker := by
  have arrived {visited : Session} (sound : Sound Settled visited.breaker) :
      Sound Settled { visited with now := target }.poll.settle.breaker :=
    (poll (show Sound Tracks { visited with now := target }.breaker from sound.tracks)).settle
  unfold Session.advanceTo
  split
  · exact arrived sound
  · split
    · exact arrived (sound.visitFrom target _)
    · exact arrived sound

theorem pass (sound : Sound Settled session.breaker) (duration : Nat) :
    Sound Settled (session.pass duration).breaker := by
  unfold Session.pass
  dsimp only
  split
  · exact sound
  · exact sound.advanceTo _

theorem injectCrossings (sound : Sound Settled session.breaker) (count : Nat) :
    Sound Settled (session.injectCrossings count).breaker := by
  induction count generalizing session with
  | zero => exact sound
  | succ count ih => exact ih (sound.input (by simp)).settle

theorem strike (sound : Sound Settled session.breaker) (fault : Fault) :
    Sound Settled (session.strike fault).settle.breaker := by
  unfold Session.strike
  split
  · next moved struck =>
    obtain ⟨after, _, answered, settled⟩ :=
      settle_of_strike
        (show Sound Settled (session.say s!"ok latch {fault.name}").breaker from sound)
        struck
    rw [show (session.withSwitch moved).say s!"ok latch {fault.name}" =
      (session.say s!"ok latch {fault.name}").withSwitch moved from rfl, settled]
    exact announce answered
  · exact settle (show Sound Tracks (session.say "ERR switch already open").breaker from
      sound.tracks)

end Events

/-!
## Operations
-/

section Operations

variable {session : Session}

theorem runConsole (sound : Sound Settled session.breaker) (command : CircuitBreaker.Command) :
    Sound Settled (session.runConsole command).breaker := by
  have helped {replied : Session} (kept : Sound Tracks replied.breaker) :
      Sound Tracks
        (if command = .help then replied.sayAll Command.helpLines else replied).breaker := by
    split
    · exact kept
    · exact kept
  unfold Session.runConsole
  refine settle (helped ?_)
  split
  · next ran => exact sound.executed (Breaker.execute_executes ran)
  · exact sound.tracks

theorem say {Position : Lifecycle → SimulatedSwitch → Prop} (sound : Sound Position session.breaker)
    (line : String) : Sound Position (session.say line).breaker :=
  sound

theorem run (sound : Sound Settled session.breaker) (command : Command) :
    Sound Settled (session.run command).breaker := by
  cases command with
  | advance millis => exact (sound.pass _).say _
  | supply ac => exact sound.aside rfl rfl rfl
  | crossings count => exact sound.injectCrossings count
  | current milliamps => exact sound.aside rfl rfl rfl
  | temperature sensor celsius =>
      exact ⟨⟨sound.session.initialized, sound.session.ready⟩,
        ⟨sound.obedient.reporting, sound.obedient.commanded⟩,
        sound.position.congr rfl rfl rfl rfl rfl rfl⟩
  | trip fault => exact sound.strike fault

theorem runLine (sound : Sound Settled session.breaker) (line : String) :
    Sound Settled (session.runLine line).breaker := by
  unfold Session.runLine
  split
  · exact sound.run _
  · exact sound
  · split
    · exact sound.runConsole _
    · exact sound

theorem perform (sound : Sound Settled session.breaker) (operation : Operation) :
    Sound Settled (session.perform operation).breaker := by
  have replied {answered : Session} (kept : Sound Settled answered.breaker) :
      Sound Settled answered.takeReply.2.breaker := kept
  cases operation with
  | line text =>
      rw [Session.perform, Session.handleLine]
      dsimp only
      split
      · exact sound
      · exact replied
          (runLine (show Sound Settled { session with transcript := _ }.breaker from sound) _)
  | wait duration =>
      rw [Session.perform, Session.runFor]
      exact replied (sound.pass _)

theorem history (sound : Sound Settled session.breaker) (operations : List Operation) :
    Sound Settled (session.history operations).breaker := by
  induction operations generalizing session with
  | nil => exact sound
  | cons operation rest ih => exact ih (sound.perform operation)

theorem begin (profile : Profile) : Sound Settled (Session.begin profile).breaker := by
  let fresh : SimulatedBreaker :=
    .ofParts .nanos {} {} {} { storage := Ram.erased Session.storeSize }
  have outside : fresh.initialized = false := rfl
  obtain ⟨inSession, _⟩ := Breaker.init_of_fresh outside 0
  obtain ⟨_, recovery, settings, lifecycle⟩ := Breaker.init_fresh outside 0
  obtain ⟨limited, taken, enabled⟩ := Breaker.init_switch outside 0
  have unlimited : limited = {} := by
    rcases taken with same | ⟨limit, accepted⟩
    · exact same
    · exact setLimit_eq accepted
  have switch : (fresh.init 0).switch = { reporting := true } := by
    rw [enabled, unlimited]
    rfl
  have obedient : Obedient (fresh.init 0).switch := by
    rw [switch]
    exact ⟨rfl, fun on => by cases on⟩
  have opened : Settled (fresh.init 0).lifecycle (fresh.init 0).switch := by
    rw [lifecycle, switch]
    exact .opened rfl rfl rfl
  have begun : (Session.begin profile).breaker = fresh.init 0 := by
    unfold Session.begin
    dsimp only [fresh]
  rw [begun]
  exact ⟨inSession, obedient, opened⟩

end Operations

end Sound

/-!
## Agreement
-/

/-- The switch stands where the lifecycle says. -/
structure Agrees (breaker : SimulatedBreaker) : Prop where
  /-- Every edge has been fed back. -/
  fed : breaker.switch.edges = []
  started : breaker.lifecycle.phase ≠ .undefined
  resting : breaker.lifecycle.phase = .opened ∨ breaker.lifecycle.phase = .supplyWait ∨
    breaker.lifecycle.phase = .closeWait → breaker.switch.on = false
  opening : breaker.lifecycle.phase = .openWait →
    breaker.switch.on = true ∧ breaker.lifecycle.acSupply = true
  closed : breaker.lifecycle.phase = .closed →
    breaker.switch.on = true ∨
      breaker.lifecycle.acSupply = true ∧ breaker.lifecycle.activeMode = .modulated ∧
        breaker.lifecycle.modulation.phase = .opened
  cycling : breaker.lifecycle.phase = .closed → breaker.lifecycle.acSupply = true →
    breaker.lifecycle.activeMode = .modulated → breaker.lifecycle.modulation.phase ≠ .disabled →
    (breaker.switch.on = true ↔ breaker.lifecycle.modulation.phase = .closed)

private theorem Sound.agrees {breaker : SimulatedBreaker} (sound : Sound Settled breaker) :
    Agrees breaker := by
  obtain ⟨_, _, position⟩ := sound
  cases position with
  | opened phase off edges | detecting phase off edges _ | awaiting phase off edges _ =>
      exact
        ⟨edges, by simp [phase], fun _ => off, by simp [phase], by simp [phase], by simp [phase]⟩
  | conducting phase on edges conducts =>
      refine ⟨edges, by simp [phase], by simp [phase], by simp [phase], fun _ => .inl on, ?_⟩
      intro _ ac modulated running
      have cycle := conducts ac modulated
      refine ⟨fun _ => ?_, fun _ => on⟩
      cases known : breaker.lifecycle.modulation.phase with
      | disabled => exact absurd known running
      | closed => rfl
      | opened => exact absurd known cycle
  | interrupted phase off edges ac modulated cycle =>
      refine ⟨edges, by simp [phase], by simp [phase], by simp [phase],
        fun _ => .inr ⟨ac, modulated, cycle⟩, ?_⟩
      intro _ _ _ _
      simp [off, cycle]
  | opening phase on edges ac =>
      exact ⟨edges, by simp [phase], by simp [phase], fun _ => ⟨on, ac⟩, by simp [phase],
        by simp [phase]⟩

/-- Whatever the operator enters and whatever time passes, lifecycle and switch agree after
every operation. -/
theorem Session.agrees_history (profile : Profile) (operations : List Operation) :
    Agrees ((Session.begin profile).history operations).breaker :=
  ((Sound.begin profile).history operations).agrees

end CircuitBreaker.Emulator
