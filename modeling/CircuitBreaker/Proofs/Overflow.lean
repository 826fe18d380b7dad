import CircuitBreaker.Proofs.Visits

/-!
# Overflow

A session notes every instant after the longest duration that it comes to wait for, and what it has
noted it does not forget. It waits for none as long as the longest wait in force ends in time.
-/

set_option autoImplicit false

namespace CircuitBreaker.Emulator

/-!
## What a session has noted
-/

/-- The session waits for no instant that there is not, unless it has noted that. -/
def Session.Watched (session : Session) : Prop :=
  session.awaited.any Session.isBeyond = true → session.overflowed = true

theorem Session.watched_watch (session : Session) : session.watch.Watched := by
  intro beyond
  rw [watch, show session.awaited.any isBeyond = true from beyond, Bool.or_true]

theorem Session.watch_of_watched {session : Session} (watched : session.Watched) :
    session.watch = session := by
  have noted : (session.overflowed || session.awaited.any isBeyond) = session.overflowed := by
    cases beyond : session.awaited.any isBeyond with
    | false => exact Bool.or_false _
    | true => rw [watched beyond, Bool.true_or]
  rw [watch, noted]

theorem Session.watched_begin (profile : Profile) : (begin profile).Watched := by
  have within : (begin profile).awaited.any isBeyond = false := by
    cases profile <;> decide +kernel
  intro beyond
  rw [within] at beyond
  cases beyond

/-- An overflow stays noted, and one that is new is noted. -/
structure Keeps (before after : Session) : Prop where
  sticky : before.overflowed = true → after.overflowed = true
  watched : before.Watched → after.Watched

namespace Keeps

variable {before middle after : Session} (session : Session)

theorem refl : Keeps session session := ⟨id, id⟩

theorem trans (first : Keeps before middle) (second : Keeps middle after) : Keeps before after :=
  ⟨fun overflowed => second.sticky (first.sticky overflowed),
    fun watched => second.watched (first.watched watched)⟩

theorem of_same (awaited : after.awaited = before.awaited)
    (overflowed : after.overflowed = before.overflowed) : Keeps before after := by
  refine ⟨fun noted => overflowed.trans noted, fun watched => ?_⟩
  unfold Session.Watched
  rw [awaited, overflowed]
  exact watched

theorem watch (sticky : before.overflowed = true → after.overflowed = true) :
    Keeps before after.watch := by
  refine ⟨fun noted => ?_, fun _ => after.watched_watch⟩
  rw [Session.watch, sticky noted, Bool.true_or]

theorem input (input : Input) : Keeps session (session.input input) := by
  unfold Session.input
  split
  · exact watch id
  · exact refl session

theorem poll : Keeps session session.poll := by
  unfold Session.poll
  split
  · refine watch fun noted => ?_
    dsimp only
    rw [noted, Bool.true_or]
  · exact refl session

theorem feedEdges (rounds : Nat) : Keeps session (session.feedEdges rounds) := by
  induction rounds generalizing session with
  | zero => exact refl session
  | succ rounds ih =>
      unfold Session.feedEdges
      split
      · exact refl session
      · next edge switch _ =>
        have taken : Keeps session (session.withSwitch switch) := of_same rfl rfl
        exact (taken.trans (input _ edge)).trans (ih _)

theorem settle : Keeps session session.settle := by
  have fed := feedEdges session (session.breaker.switch.edges.length + 1)
  obtain ⟨lines, same⟩ :=
    (session.feedEdges (session.breaker.switch.edges.length + 1)).announce_eq
  rw [Session.settle, same]
  exact fed.trans (of_same rfl rfl)

theorem cross : Keeps session session.cross := by
  unfold Session.cross
  dsimp only
  split
  · have passed : Keeps session
        (session.withMains (session.breaker.mains.pass session.now)).watch := watch id
    exact passed.trans (input _ .zeroCrossing)
  · exact refl session

theorem visit (now : Nat) : Keeps session (session.visit now) := by
  have moved : Keeps session { session with now } := of_same rfl rfl
  exact ((moved.trans (cross _)).trans (poll _)).trans (settle _)

theorem visits (instants : List Nat) : Keeps session (instants.foldl Session.visit session) := by
  induction instants generalizing session with
  | nil => exact refl session
  | cons event rest ih => exact (visit session event).trans (ih _)

theorem visitFrom (target event : Nat) : Keeps session (session.visitFrom target event) := by
  fun_induction Session.visitFrom target session event with
  | case1 session event | case3 session event => exact visit session event
  | case2 session event _ _ _ _ ih => exact (visit session event).trans ih

theorem advanceTo (target : Nat) : Keeps session (session.advanceTo target) := by
  have arrived (visited : Session) : Keeps visited { visited with now := target }.poll.settle := by
    have moved : Keeps visited { visited with now := target } := of_same rfl rfl
    exact (moved.trans (poll _)).trans (settle _)
  unfold Session.advanceTo
  split
  · exact arrived session
  · split
    · exact (visitFrom session target _).trans (arrived _)
    · exact arrived session

theorem pass (duration : Nat) : Keeps session (session.pass duration) := by
  unfold Session.pass
  dsimp only
  split
  · exact ⟨fun _ => rfl, fun _ _ => rfl⟩
  · exact advanceTo session _

theorem injectCrossings (count : Nat) : Keeps session (session.injectCrossings count) := by
  induction count generalizing session with
  | zero => exact refl session
  | succ count ih => exact ((input session .zeroCrossing).trans (settle _)).trans (ih _)

theorem strike (fault : Fault) : Keeps session (session.strike fault) := by
  unfold Session.strike
  split
  · exact of_same rfl rfl
  · exact of_same rfl rfl

theorem say (line : String) : Keeps session (session.say line) := of_same rfl rfl

theorem run (command : Command) : Keeps session (session.run command) := by
  cases command with
  | advance millis => exact (pass session _).trans (say _ _)
  | supply ac =>
      have selected : Keeps session
          (session.withMains (session.breaker.mains.select ac session.now)).watch := watch id
      exact selected.trans (say _ _)
  | crossings count => exact (injectCrossings session count).trans (say _ _)
  | current milliamps => exact of_same rfl rfl
  | temperature sensor celsius => exact of_same rfl rfl
  | trip fault => exact (strike session fault).trans (settle _)

theorem runConsole (command : CircuitBreaker.Command) :
    Keeps session (session.runConsole command) := by
  have helped (replied : Session) : Keeps replied
      (if command = .help then replied.sayAll Command.helpLines else replied).settle := by
    split
    · have lines : Keeps replied (replied.sayAll Command.helpLines) := of_same rfl rfl
      exact lines.trans (settle _)
    · exact settle replied
  unfold Session.runConsole
  dsimp only
  cases session.breaker.execute command session.now with
  | ok answer =>
      obtain ⟨lines, breaker⟩ := answer
      have executed : Keeps session { session with breaker }.watch := watch id
      have replied : Keeps session ({ session with breaker }.watch.sayAll lines) :=
        executed.trans (of_same rfl rfl)
      exact replied.trans (helped _)
  | error error => exact (say session _).trans (helped _)

theorem runLine (line : String) : Keeps session (session.runLine line) := by
  unfold Session.runLine
  split
  · exact run session _
  · exact of_same rfl rfl
  · split
    · exact runConsole session _
    · exact of_same rfl rfl

theorem handleLine (line : String) : Keeps session (session.handleLine line).2 := by
  unfold Session.handleLine
  dsimp only
  generalize String.ofList (Text.trim line.toList) = command
  split
  · exact refl session
  · let heard : Session := { session with
      transcript := session.transcript.add session.now .host [command] }
    have listened : Keeps session heard := of_same rfl rfl
    have replied (answered : Session) : Keeps answered answered.takeReply.2 := of_same rfl rfl
    exact (listened.trans (runLine heard command)).trans (replied _)

theorem perform (operation : Operation) : Keeps session (session.perform operation) := by
  cases operation with
  | line text => exact handleLine session text
  | wait duration =>
      have replied (answered : Session) : Keeps answered answered.takeReply.2 := of_same rfl rfl
      exact (pass session duration).trans (replied _)

theorem history (operations : List Operation) : Keeps session (session.history operations) := by
  induction operations generalizing session with
  | nil => exact refl session
  | cons operation rest ih => exact (perform session operation).trans (ih _)

end Keeps

/-!
## Far from the end
-/

/-- A breaker for which even the longest wait from `target` on ends in time. -/
structure InTime (target : Nat) (breaker : SimulatedBreaker) : Prop where
  session : breaker.InSession
  clock : breaker.clock = .nanos
  room : target + breaker.lifecycle.longestWait ≤ Duration.longest
  waits : breaker.WaitsFor (· ≤ Duration.longest)
  crossing : ∀ crossing ∈ breaker.mains.nextCrossing, crossing ≤ Duration.longest

namespace InTime

variable {target now : Nat} {before after : SimulatedBreaker}

private theorem after_le (inTime : InTime target before) (early : now ≤ target) {wait : Nat}
    (bounded : wait ≤ before.lifecycle.longestWait) :
    before.clock.after now wait ≤ Duration.longest := by
  have room := inTime.room
  rw [inTime.clock, Clock.after, show Clock.nanos.tick = 1 from rfl, Nat.div_one]
  exact Nat.le_trans (Nat.min_le_right _ _) (by omega)

private theorem interval_le (machine : Lifecycle) : Monitor.interval ≤ machine.longestWait := by
  have short : Monitor.interval ≤ Lifecycle.detectionWindow := by decide
  exact Nat.le_trans short (Nat.le_max_left _ _)

private theorem acted (inTime : InTime target before)
    {action : Action SimulatedSwitch SimulatedMains SimulatedMeter (FramedStore Ram)}
    (other : ∀ adjustment, action ≠ .adjust adjustment)
    (waits : (before.act action).WaitsFor (· ≤ Duration.longest)) :
    InTime target (before.act action) := by
  obtain ⟨clock, mains, recovery⟩ := inTime.session.frame_act other
  have room := inTime.room
  rw [Lifecycle.longestWait, ← recovery] at room
  exact ⟨inTime.session.act action, clock.trans inTime.clock, room, waits,
    mains ▸ inTime.crossing⟩

theorem input (inTime : InTime target before) (early : now ≤ target) (input : Input) :
    InTime target (before.act (.input input now)) := by
  obtain ⟨after, accepted, _⟩ := inTime.session.handleInput input now
  refine inTime.acted (fun adjustment => by simp) ?_
  rw [Breaker.act, accepted]
  exact inTime.waits.handled inTime.session accepted
    (fun wait arms => inTime.after_le early arms.le_longestWait)
    fun _ => inTime.after_le early (interval_le _)

theorem poll (inTime : InTime target before) (early : now ≤ target) :
    InTime target (before.act (.poll now)) := by
  obtain ⟨_, after, accepted, _⟩ := @Breaker.InSession.poll _ _ _ _ _ _ _ inTime.session now
    (fun _ => True) trivial (fun _ _ _ _ _ _ _ _ => trivial)
  refine inTime.acted (fun adjustment => by simp) ?_
  rw [Breaker.act, accepted]
  exact inTime.waits.polled inTime.session accepted
    (fun wait bounded => inTime.after_le early bounded)
    fun due past _ => inTime.after_le (Nat.le_trans past early) (interval_le _)

theorem pass (inTime : InTime target before) (early : now ≤ target) :
    InTime target { before with mains := before.mains.pass now } := by
  refine ⟨⟨inTime.session.initialized, inTime.session.ready⟩, inTime.clock, inTime.room,
    inTime.waits.congr rfl rfl, ?_⟩
  have room := inTime.room
  have half : SimulatedMains.halfPeriod ≤ Lifecycle.detectionWindow := by decide
  have window : Lifecycle.detectionWindow ≤ before.lifecycle.longestWait := Nat.le_max_left _ _
  intro crossing next
  unfold SimulatedMains.pass SimulatedMains.schedule at next
  split at next
  · dsimp only at next
    split at next
    · rw [← Option.mem_some_iff.mp next]
      omega
    · cases next
  · exact inTime.crossing crossing next

theorem aside (inTime : InTime target before) (initialized : after.initialized = before.initialized)
    (clock : after.clock = before.clock) (lifecycle : after.lifecycle = before.lifecycle)
    (monitor : after.monitor = before.monitor) (mains : after.mains = before.mains) :
    InTime target after where
  session := ⟨initialized.trans inTime.session.initialized, lifecycle ▸ inTime.session.ready⟩
  clock := clock.trans inTime.clock
  room := lifecycle ▸ inTime.room
  waits := inTime.waits.congr (by rw [lifecycle]) (by rw [monitor])
  crossing := mains ▸ inTime.crossing

end InTime

/-- A session that will not overflow before `target`. -/
structure Clear (target : Nat) (session : Session) : Prop where
  inTime : InTime target session.breaker
  running : session.overflowed = false

namespace Clear

variable {target : Nat} {session : Session}

theorem watch (clear : Clear target session) : Clear target session.watch := by
  refine ⟨clear.inTime, ?_⟩
  have known : session.awaited.any Session.isBeyond = false := by
    rw [List.any_eq_false]
    intro instant member
    rw [Session.isBeyond_iff, Nat.not_lt]
    rcases List.mem_append.mp member with member | member
    · rcases List.mem_append.mp member with member | member
      · obtain ⟨timer, _, armed⟩ := List.mem_filterMap.mp member
        exact clear.inTime.waits.timers timer instant armed
      · exact clear.inTime.waits.ticks instant (Option.mem_toList.mp member)
    · exact clear.inTime.crossing instant (Option.mem_toList.mp member)
  rw [Session.watch, known, Bool.or_false]
  exact clear.running

theorem input (clear : Clear target session) (early : session.now ≤ target) (input : Input) :
    Clear target (session.input input) := by
  have acted := clear.inTime.input early input
  obtain ⟨after, accepted, _⟩ := clear.inTime.session.handleInput input session.now
  rw [Breaker.act, accepted] at acted
  rw [Session.input, accepted]
  exact watch ⟨acted, clear.running⟩

theorem poll (clear : Clear target session) (early : session.now ≤ target) :
    Clear target session.poll := by
  have acted := clear.inTime.poll early
  obtain ⟨_, after, accepted, _⟩ := @Breaker.InSession.poll _ _ _ _ _ _ _ clear.inTime.session
    session.now (fun _ => True) trivial (fun _ _ _ _ _ _ _ _ => trivial)
  rw [Breaker.act, accepted] at acted
  rw [Session.poll, accepted]
  refine watch ⟨acted, ?_⟩
  have found : session.lacksTick = false := by
    rw [Session.lacksTick, Option.any_eq_false]
    intro tick next
    have room := clear.inTime.after_le (Nat.le_refl target) (InTime.interval_le _)
    rw [clear.inTime.clock] at room
    by_cases due : tick ≤ session.now
    · have ordered := Clock.nanos.after_mono (Nat.le_trans due early) Monitor.interval
      simpa [Session.isBeyond, due] using Nat.le_trans ordered room
    · simp [due]
  dsimp only
  rw [clear.running, found, Bool.or_false]

theorem feedEdges (clear : Clear target session) (early : session.now ≤ target) (rounds : Nat) :
    Clear target (session.feedEdges rounds) := by
  induction rounds generalizing session with
  | zero => exact clear
  | succ rounds ih =>
      unfold Session.feedEdges
      split
      · exact clear
      · next edge switch _ =>
        have taken : Clear target (session.withSwitch switch) :=
          ⟨clear.inTime.aside rfl rfl rfl rfl rfl, clear.running⟩
        exact ih (taken.input early edge) (by rw [Session.now_input]; exact early)

theorem settle (clear : Clear target session) (early : session.now ≤ target) :
    Clear target session.settle := by
  have fed := clear.feedEdges early (session.breaker.switch.edges.length + 1)
  obtain ⟨lines, same⟩ :=
    (session.feedEdges (session.breaker.switch.edges.length + 1)).announce_eq
  rw [Session.settle, same]
  exact ⟨fed.inTime.aside rfl rfl rfl rfl rfl, fed.running⟩

theorem cross (clear : Clear target session) (early : session.now ≤ target) :
    Clear target session.cross := by
  unfold Session.cross
  dsimp only
  split
  · have passed : Clear target (session.withMains (session.breaker.mains.pass session.now)) :=
      ⟨clear.inTime.pass early, clear.running⟩
    exact passed.watch.input early .zeroCrossing
  · exact clear

theorem visit (clear : Clear target session) {event : Nat} (early : event ≤ target) :
    Clear target (session.visit event) := by
  have crossed : Clear target { session with now := event }.cross :=
    cross ⟨clear.inTime, clear.running⟩ early
  have here : { session with now := event }.cross.now ≤ target := by
    rw [Session.now_cross]
    exact early
  refine (crossed.poll here).settle ?_
  rw [Session.now_poll]
  exact here

end Clear

end CircuitBreaker.Emulator
