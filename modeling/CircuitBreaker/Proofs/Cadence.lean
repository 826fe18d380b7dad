import CircuitBreaker.Proofs.Schedule
import CircuitBreaker.Proofs.Waiting

/-!
# The cadence of polls

The monitor ticks at a schedule of its own. A poll runs the ticks that are due, however many there
are, so that polls that come to the same instant leave the same behind, and a trip that comes of a
late poll is the one that timely polls give.
-/

set_option autoImplicit false

namespace CircuitBreaker

/-!
## The ticks up to an instant
-/

namespace Monitor

/-- The instant at which a monitor has one more tick than `count`, if it starts at `start`. -/
def tickAt (clock : Clock) (start count : Nat) : Nat :=
  min clock.limit (start + (count + 1) * (interval / clock.tick))

theorem tickAt_zero (clock : Clock) (start : Nat) :
    tickAt clock start 0 = clock.after start interval := by
  rw [tickAt, Nat.zero_add, Nat.one_mul]
  rfl

theorem after_tickAt (clock : Clock) (start count : Nat) :
    clock.after (tickAt clock start count) interval = tickAt clock start (count + 1) := by
  unfold Clock.after tickAt
  rw [Nat.add_mul (count + 1) 1]
  omega

section Elapses

variable (clock : Clock) (current : UInt32) (points : List CurvePoint)

/-- The ticks up to an instant, each evaluated as it is due, and the point that trips. The list
holds the instants at which they are due. -/
inductive Elapses (bound : Nat) : Monitor → List Nat → Option Nat → Monitor → Prop where
  | ahead {monitor : Monitor} (later : ∀ tick ∈ monitor.nextTick, bound < tick) :
      Elapses bound monitor [] none monitor
  | evaluated {monitor next final : Monitor} {due : Nat} {ticks : List Nat} {found : Option Nat}
      (scheduled : monitor.nextTick = some due) (within : due ≤ bound)
      (ticked : monitor.tick clock due current points true = (.evaluated, next))
      (later : Elapses bound next ticks found final) :
      Elapses bound monitor (due :: ticks) found final
  | tripped {monitor final : Monitor} {due point : Nat} (scheduled : monitor.nextTick = some due)
      (within : due ≤ bound)
      (ticked : monitor.tick clock due current points true = (.tripped point, final)) :
      Elapses bound monitor [due] (some point) final

variable {clock current points} {bound : Nat} {monitor final : Monitor} {ticks : List Nat}
  {found : Option Nat}

theorem Elapses.unique (elapses : Elapses clock current points bound monitor ticks found final)
    {others : List Nat} {other : Option Nat} {last : Monitor}
    (again : Elapses clock current points bound monitor others other last) :
    ticks = others ∧ found = other ∧ final = last := by
  induction elapses generalizing others other last with
  | ahead later =>
      cases again with
      | ahead => exact ⟨rfl, rfl, rfl⟩
      | evaluated scheduled within => exact absurd (later _ scheduled) (Nat.not_lt.mpr within)
      | tripped scheduled within => exact absurd (later _ scheduled) (Nat.not_lt.mpr within)
  | evaluated scheduled within ticked _ ih =>
      cases again with
      | ahead later => exact absurd (later _ scheduled) (Nat.not_lt.mpr within)
      | evaluated rescheduled _ reticked later =>
          cases scheduled.symm.trans rescheduled
          cases ticked.symm.trans reticked
          obtain ⟨rfl, rfl, rfl⟩ := ih later
          exact ⟨rfl, rfl, rfl⟩
      | tripped rescheduled _ reticked =>
          cases scheduled.symm.trans rescheduled
          cases ticked.symm.trans reticked
  | tripped scheduled within ticked =>
      cases again with
      | ahead later => exact absurd (later _ scheduled) (Nat.not_lt.mpr within)
      | evaluated rescheduled _ reticked =>
          cases scheduled.symm.trans rescheduled
          cases ticked.symm.trans reticked
      | tripped rescheduled _ reticked =>
          cases scheduled.symm.trans rescheduled
          cases ticked.symm.trans reticked
          exact ⟨rfl, rfl, rfl⟩

/-- Without a trip the ticks go on where they stopped. -/
theorem Elapses.trans (elapses : Elapses clock current points bound monitor ticks found final)
    (untripped : found = none) {later : Nat} (ordered : bound ≤ later) {more : List Nat}
    {next : Option Nat} {last : Monitor}
    (goes : Elapses clock current points later final more next last) :
    Elapses clock current points later monitor (ticks ++ more) next last := by
  induction elapses with
  | ahead => exact goes
  | evaluated scheduled within ticked _ ih =>
      exact .evaluated scheduled (Nat.le_trans within ordered) ticked (ih untripped goes)
  | tripped => cases untripped

/-- With a trip there are no ticks to come. -/
theorem Elapses.widen (elapses : Elapses clock current points bound monitor ticks found final)
    {point : Nat} (tripped : found = some point) {later : Nat} (ordered : bound ≤ later) :
    Elapses clock current points later monitor ticks found final := by
  induction elapses with
  | ahead => cases tripped
  | evaluated scheduled within ticked _ ih =>
      exact .evaluated scheduled (Nat.le_trans within ordered) ticked (ih tripped)
  | tripped scheduled within ticked =>
      exact .tripped scheduled (Nat.le_trans within ordered) ticked

theorem Elapses.stopped (elapses : Elapses clock current points bound monitor ticks found final)
    {point : Nat} (tripped : found = some point) : final.nextTick = none := by
  induction elapses with
  | ahead => cases tripped
  | evaluated _ _ _ _ ih => exact ih tripped
  | tripped _ _ ticked => exact nextTick_of_tripped ticked

theorem nextTick_of_evaluated {next : Monitor} {due : Nat} (scheduled : monitor.nextTick = some due)
    (ticked : monitor.tick clock due current points true = (.evaluated, next)) :
    next.nextTick = some (clock.after due interval) := by
  simp only [tick, scheduled, Nat.lt_irrefl, ↓reduceIte] at ticked
  split at ticked <;> cases ticked
  rfl

/-- The ticks are due one interval after the other. -/
theorem Elapses.schedule (elapses : Elapses clock current points bound monitor ticks found final)
    (shown : bound < clock.limit) {first : Nat} (scheduled : monitor.nextTick = some first) :
    ticks = List.range' first ticks.length (interval / clock.tick) := by
  induction elapses generalizing first with
  | ahead => rfl
  | @evaluated monitor next final due ticks found planned within ticked later ih =>
      obtain rfl : due = first := Option.some.inj (planned.symm.trans scheduled)
      have following := nextTick_of_evaluated planned ticked
      rw [List.length_cons, List.range'_succ]
      congr 1
      -- Where the clock ends before the next tick, there is none up to `bound`.
      by_cases fits : due + interval / clock.tick ≤ clock.limit
      · rw [← Nat.min_eq_right fits]
        exact ih following
      · have ends : clock.after due interval = clock.limit :=
          Nat.min_eq_left (Nat.le_of_not_le fits)
        rw [ends] at following
        have none : ticks = [] := (later.unique (.ahead (by simp [following, shown]))).1
        rw [none]
        rfl
  | tripped planned =>
      cases planned.symm.trans scheduled
      rfl

/-- No tick up to an instant before the end of the clock is put off by that end. -/
theorem Elapses.schedule_of_start
    (elapses : Elapses clock current points bound monitor ticks found final)
    (shown : bound < clock.limit) {start count : Nat}
    (scheduled : monitor.nextTick = some (tickAt clock start count)) :
    ticks = List.range' (start + (count + 1) * (interval / clock.tick)) ticks.length
      (interval / clock.tick) := by
  by_cases fits : start + (count + 1) * (interval / clock.tick) ≤ clock.limit
  · rw [← Nat.min_eq_right fits]
    exact elapses.schedule shown scheduled
  · have ends : tickAt clock start count = clock.limit := Nat.min_eq_left (Nat.le_of_not_le fits)
    rw [ends] at scheduled
    have none : ticks = [] := (elapses.unique (.ahead (by simp [scheduled, shown]))).1
    rw [none]
    rfl

end Elapses

variable {clock : Clock} {current : UInt32} {points : List CurvePoint} {now : Nat}

/-- A tick that is not idle is due, and does what it does as it falls due. -/
theorem tick_at_due {monitor next : Monitor} {outcome : TickOutcome}
    (ticked : monitor.tick clock now current points true = (outcome, next))
    (busy : outcome ≠ .idle) :
    ∃ due, monitor.nextTick = some due ∧ due ≤ now ∧
      monitor.tick clock due current points true = (outcome, next) := by
  unfold tick at ticked
  cases scheduled : monitor.nextTick with
  | none =>
      rw [scheduled] at ticked
      cases ticked
      exact absurd rfl busy
  | some due =>
      rw [scheduled] at ticked
      dsimp only at ticked
      split at ticked
      · cases ticked
        exact absurd rfl busy
      · next late => exact ⟨due, rfl, Nat.not_lt.mp late, by simpa [tick, scheduled] using ticked⟩

/-- The ticks of a poll are those up to its instant. -/
theorem Ticks.elapses {monitor final : Monitor} {found : Option Nat}
    (ticks : Ticks clock now current points true monitor found final)
    (ahead : ∀ tick ∈ final.nextTick, now < tick) :
    ∃ instants, Elapses clock current points now monitor instants found final := by
  induction ticks with
  | idle => exact ⟨[], .ahead ahead⟩
  | evaluated ticked _ ih =>
      obtain ⟨due, scheduled, within, same⟩ := tick_at_due ticked (by simp)
      obtain ⟨instants, later⟩ := ih ahead
      exact ⟨due :: instants, .evaluated scheduled within same later⟩
  | tripped ticked =>
      obtain ⟨due, scheduled, within, same⟩ := tick_at_due ticked (by simp)
      exact ⟨[due], .tripped scheduled within same⟩

end Monitor

namespace Breaker

variable {σ ζ μ κ : Type} [SwitchDriver σ] [Meter μ]

/-!
## Polls of a closed breaker
-/

/-- What is left of the lifecycle and the switch where no point trips, and where one does. -/
def outcome (breaker : Breaker σ ζ μ κ) : Option Nat → Lifecycle × σ
  | none => (breaker.lifecycle, breaker.switch)
  | some _ =>
      let opened := breaker.lifecycle.openOnDuration breaker.switch
      ({ opened.1 with noticePending := false }, opened.2)

/-- What polls up to `bound` make of a breaker that is closed and waits for no timer. -/
structure Paced (start : Breaker σ ζ μ κ) (bound : Nat) (ticks : List Nat) (found : Option Nat)
    (final : Breaker σ ζ μ κ) : Prop where
  session : final.InSession
  clock : final.clock = start.clock
  meter : final.meter = start.meter
  curve : final.curve = start.curve
  elapses : start.monitor.Elapses start.clock (Meter.current start.meter) start.curve.curve.points
    bound ticks found final.monitor
  outcome : (final.lifecycle, final.switch) = start.outcome found

/-- A breaker that is closed and waits for no timer. -/
structure Watches (breaker : Breaker σ ζ μ κ) : Prop where
  session : breaker.InSession
  closed : breaker.lifecycle.phase = .closed
  unarmed : breaker.lifecycle.timers = .empty

section Polls

variable {start middle final other : Breaker σ ζ μ κ}

omit [Meter μ] in
/-- A trip is the same at whatever instant it comes. -/
theorem outcome_of_trip (point : Nat) (session : start.InSession)
    (closed : start.lifecycle.phase = .closed) {now : Nat}
    (reacts : start.Reacts .overCurrentDuration now final) :
    (final.lifecycle, final.switch) = start.outcome (some point) := by
  have left : (start.lifecycle.closedTransition start.clock .overCurrentDuration start.switch
      now).1.phase ≠ .closed := (start.lifecycle.openOnDuration_isOpening start.switch).ne_closed
  rw [reacts.lifecycle, reacts.switch, session.ready.respond_of_ne _ _ _ _ (by simp),
    Lifecycle.transition_of_closed_left _ _ _ _ _ closed left]
  rfl

variable [RecordStore κ]

theorem Watches.poll (watches : start.Watches) {now : Nat}
    (later : now < start.clock.after now Monitor.interval) :
    ∃ ticks found, start.Paced now ticks found (start.act (.poll now)) := by
  have session := watches.session
  have undue : start.lifecycle.timers.firstDue now = none := by
    rw [watches.unarmed]
    rfl
  obtain ⟨ran, ahead⟩ := Monitor.runDue_ticks (Meter.current start.meter)
    start.curve.curve.points true later start.monitor
  obtain ⟨ticks, elapses⟩ := ran.elapses ahead
  have due : (start.told now).dueTicks now = start.monitor.runDue start.clock now
      (Meter.current start.meter) start.curve.curve.points true := by
    simp [dueTicks, told, watches.closed]
  rw [Breaker.act, session.poll_of_undue undue]
  rw [← due] at elapses
  cases ran : (start.told now).dueTicks now with
  | mk found monitor =>
      rw [ran] at elapses
      unfold dueTicks at ran
      rw [runMonitor, ran]
      cases found with
      | none =>
          exact ⟨ticks, none, ⟨session.initialized, session.ready⟩, rfl, rfl, rfl, elapses, rfl⟩
      | some point =>
          have ticked := (session.told now).watch monitor
          obtain ⟨after, applied, reacts, same⟩ := ticked.apply .overCurrentDuration now
          have tripped := outcome_of_trip point ticked watches.closed reacts
          refine ⟨ticks, some point, ?_⟩
          dsimp only
          rw [applied, afterCall]
          exact ⟨reacts.inSession ticked, reacts.clock, reacts.meter, reacts.curve, same ▸ elapses,
            tripped⟩

/-- A later poll goes on where the ticks stopped, or finds that a trip has stopped them. -/
theorem Paced.poll (watches : start.Watches) {bound : Nat} {ticks : List Nat} {found : Option Nat}
    (paced : start.Paced bound ticks found middle) {now : Nat} (ordered : bound ≤ now)
    (later : now < start.clock.after now Monitor.interval) :
    ∃ ticks found, start.Paced now ticks found (middle.act (.poll now)) := by
  have outcome := paced.outcome
  cases found with
  | none =>
      obtain ⟨lifecycle, switch⟩ := Prod.mk.inj outcome
      have still : middle.Watches :=
        ⟨paced.session, lifecycle ▸ watches.closed, lifecycle ▸ watches.unarmed⟩
      obtain ⟨more, found, next⟩ := still.poll (paced.clock ▸ later)
      have goes := next.elapses
      rw [paced.clock, paced.meter, paced.curve] at goes
      refine ⟨ticks ++ more, found, next.session, next.clock.trans paced.clock,
        next.meter.trans paced.meter, next.curve.trans paced.curve,
        paced.elapses.trans rfl ordered goes, ?_⟩
      rw [next.outcome]
      cases found <;> simp [Breaker.outcome, lifecycle, switch]
  | some point =>
      -- The trip has opened the breaker and stopped the monitor, so that nothing is due any more.
      obtain ⟨lifecycle, _⟩ := Prod.mk.inj outcome
      have unclosed : middle.lifecycle.phase ≠ .closed := by
        rw [lifecycle]
        exact (start.lifecycle.openOnDuration_isOpening start.switch).ne_closed
      have undue : middle.lifecycle.timers.firstDue now = none := by
        simp [lifecycle, Lifecycle.openOnDuration, watches.unarmed]
        rfl
      have stopped : (middle.dueTicks now).2 = middle.monitor := by
        rw [dueTicks, Monitor.runDue_of_ahead]
        simp [paced.elapses.stopped rfl]
      rw [paced.session.act_undue unclosed undue, stopped]
      exact ⟨ticks, some point, ⟨paced.session.initialized, paced.session.ready⟩, paced.clock,
        paced.meter, paced.curve, paced.elapses.widen rfl ordered, outcome⟩

theorem Watches.polls (watches : start.Watches) {polls : List Nat} {last : Nat}
    (ordered : (polls ++ [last]).Pairwise (· ≤ ·))
    (later : last < start.clock.after last Monitor.interval) :
    ∃ ticks found, start.Paced last ticks found (start.run ((polls ++ [last]).map .poll)) := by
  induction polls using List.reverseRecOn generalizing last with
  | nil => exact watches.poll later
  | append_singleton polls instant ih =>
      obtain ⟨earlier, _, between⟩ := List.pairwise_append.mp ordered
      have next : instant ≤ last := between instant (by simp) last (by simp)
      obtain ⟨ticks, found, paced⟩ := ih earlier (Clock.lt_after_of_le next later)
      rw [List.map_append, List.map_singleton, run_concat]
      exact paced.poll watches next later

omit [RecordStore κ] in
theorem Paced.unique {bound : Nat} {ticks others : List Nat} {found otherFound : Option Nat}
    (paced : start.Paced bound ticks found final)
    (again : start.Paced bound others otherFound other) :
    final.monitor = other.monitor ∧ final.lifecycle = other.lifecycle ∧
      final.switch = other.switch := by
  obtain ⟨_, rfl, monitor⟩ := paced.elapses.unique again.elapses
  obtain ⟨lifecycle, switch⟩ := Prod.mk.inj (paced.outcome.trans again.outcome.symm)
  exact ⟨monitor, lifecycle, switch⟩

omit [RecordStore κ] in
theorem Paced.untripped_iff {bound : Nat} {ticks : List Nat} {found : Option Nat}
    (paced : start.Paced bound ticks found final) (watches : start.Watches) :
    found = none ↔ final.lifecycle.phase = .closed := by
  obtain ⟨lifecycle, _⟩ := Prod.mk.inj paced.outcome
  rw [lifecycle]
  cases found with
  | none => simpa [Breaker.outcome] using watches.closed
  | some point =>
      have left := (start.lifecycle.openOnDuration_isOpening start.switch).ne_closed
      simpa [Breaker.outcome] using left

theorem runJournaled_polls (breaker : Breaker σ ζ μ κ) (polls : List Nat) :
    breaker.runJournaled (polls.map .poll) = breaker.journaled.run (polls.map .poll) := by
  rw [runJournaled, Breaker.run, List.foldl_map, List.foldl_map]
  rfl

end Polls

/-!
## The start of the monitor
-/

section Starts

variable [Mains ζ] [RecordStore κ]

/-- The instant of the latest start of the monitor in the course of some steps. -/
def latestStart (breaker : Breaker σ ζ μ κ) : List (Step σ ζ μ κ) → Option Nat
  | [] => none
  | step :: rest => ((breaker.step step).latestStart rest).or (breaker.monitorStart? step)

theorem latestStart_concat (breaker : Breaker σ ζ μ κ) (steps : List (Step σ ζ μ κ))
    (step : Step σ ζ μ κ) :
    breaker.latestStart (steps ++ [step]) =
      ((breaker.history steps).monitorStart? step).or (breaker.latestStart steps) := by
  induction steps generalizing breaker with
  | nil => simp [latestStart, history]
  | cons first rest ih =>
      rw [List.cons_append, latestStart, ih, latestStart, Option.or_assoc]
      rfl

/-- The next tick is due a number of intervals after the latest start. -/
theorem scheduled_history (clock : Clock) (switch : σ) (mains : ζ) (meter : μ) (store : κ)
    (steps : List (Step σ ζ μ κ)) :
    ((ofParts clock switch mains meter store).history steps).Scheduled clock fun tick =>
      ∃ start count, (ofParts clock switch mains meter store).latestStart steps = some start ∧
        tick = Monitor.tickAt clock start count := by
  induction steps using List.reverseRecOn with
  | nil => exact .of_stopped rfl (fun session => by cases session) rfl
  | append_singleton steps step ih =>
      rw [history_concat, latestStart_concat]
      cases starts :
          ((ofParts clock switch mains meter store).history steps).monitorStart? step with
      | none =>
          refine ih.step (inSession_history rfl steps) starts ?_
          rintro now rfl due _ ⟨start, count, started, rfl⟩
          exact ⟨start, count + 1, started, Monitor.after_tickAt clock start count⟩
      | some now =>
          exact .of_monitorStart (inSession_history rfl steps) ih.clock starts
            ⟨now, 0, rfl, (Monitor.tickAt_zero clock now).symm⟩

end Starts

variable [Mains ζ] [RecordStore κ]

open Bench

/-- Polls of a closed breaker that come to the same instant leave the same behind: monitor,
lifecycle, switch and the commands given on the way. The ticks are evaluated as they are due, one
interval after the other since the monitor was started, up to that instant or up to a trip. -/
theorem polls_agree (clock : Clock) (switch : σ) (mains : ζ) (meter : μ) (store : κ)
    (steps : List (Step σ ζ μ κ))
    (inside : ((ofParts clock switch mains meter store).history steps).initialized = true)
    (closed : ((ofParts clock switch mains meter store).history steps).lifecycle.phase = .closed)
    (unarmed : ((ofParts clock switch mains meter store).history steps).lifecycle.timers = .empty)
    {polls others : List Nat} {last : Nat} (ordered : (polls ++ [last]).Pairwise (· ≤ ·))
    (reordered : (others ++ [last]).Pairwise (· ≤ ·))
    (later : last <
      ((ofParts clock switch mains meter store).history steps).clock.after last Monitor.interval) :
    let breaker := (ofParts clock switch mains meter store).history steps
    let after := breaker.run ((polls ++ [last]).map .poll)
    let other := breaker.run ((others ++ [last]).map .poll)
    (after.monitor = other.monitor ∧ after.lifecycle = other.lifecycle ∧
      after.switch = other.switch ∧
      breaker.journal ((polls ++ [last]).map .poll) =
        breaker.journal ((others ++ [last]).map .poll)) ∧
    ∃ start count ticks found,
      (ofParts clock switch mains meter store).latestStart steps = some start ∧
      ticks = List.range' (start + (count + 1) * (Monitor.interval / breaker.clock.tick))
        ticks.length (Monitor.interval / breaker.clock.tick) ∧
      breaker.monitor.Elapses breaker.clock (Meter.current breaker.meter)
        breaker.curve.curve.points last ticks found after.monitor ∧
      (found = none ↔ after.lifecycle.phase = .closed) := by
  intro breaker after other
  have watches : breaker.Watches := ⟨inSession_history rfl steps inside, closed, unarmed⟩
  have journaled : breaker.journaled.Watches :=
    ⟨watches.session.journaled, watches.closed, watches.unarmed⟩
  obtain ⟨ticks, found, paced⟩ := watches.polls ordered later
  obtain ⟨_, _, again⟩ := watches.polls reordered later
  obtain ⟨_, _, noted⟩ := journaled.polls ordered later
  obtain ⟨_, _, renoted⟩ := journaled.polls reordered later
  obtain ⟨monitor, lifecycle, switched⟩ := paced.unique again
  refine ⟨⟨monitor, lifecycle, switched, ?_⟩, ?_⟩
  · rw [journal, journal, runJournaled_polls, runJournaled_polls, (noted.unique renoted).2.2]
  · have timed := scheduled_history clock switch mains meter store steps
    obtain ⟨first, scheduled⟩ := Option.isSome_iff_exists.mp
      ((timed.watched inside).resolve_right fun opening => opening.ne_closed closed)
    obtain ⟨start, count, started, planned⟩ := timed.among first scheduled
    rw [← timed.clock] at planned
    refine ⟨start, count, ticks, found, started, ?_, paced.elapses, ?_⟩
    · exact paced.elapses.schedule_of_start (Nat.lt_of_lt_of_le later (Clock.after_le_limit _ _ _))
        (planned ▸ scheduled)
    · exact paced.untripped_iff watches

/-- A late poll and polls in between, with a trip that comes before the last of them. -/
theorem polls_agree_late :
    let breaker := (bench {} { current := 50000 }).history (session closed)
    let late : List BenchAction := [.poll 1500000]
    let timely : List BenchAction := [.poll 250000, .poll 300000, .poll 1250000, .poll 1500000]
    (breaker.run late).monitor = (breaker.run timely).monitor ∧
      (breaker.run late).lifecycle = (breaker.run timely).lifecycle ∧
      breaker.journal timely = [.turnedOff] ∧ breaker.journal late = breaker.journal timely ∧
      ∃ ticks point, breaker.monitor.Elapses breaker.clock (Meter.current breaker.meter)
        breaker.curve.curve.points 1500000 ticks (some point) (breaker.run late).monitor := by
  dsimp only
  have next : ((bench {} { current := 50000 }).history (session closed)).clock.after 1500000
      Monitor.interval = 1600000 := by decide +kernel
  have agree := polls_agree .micros ({} : ScriptedSwitch) ({} : ScriptedMains)
    ({ current := 50000 } : ScriptedMeter) ({ storage := .erased 0 0 } : FramedStore FaultyMemory)
    (session closed) (by decide +kernel) (by decide +kernel) (by decide +kernel)
    (show ([] ++ [1500000]).Pairwise _ by simp)
    (show ([250000, 300000, 1250000] ++ [1500000]).Pairwise _ by simp)
    (Nat.lt_of_lt_of_eq (by simp) next.symm)
  rw [← show bench {} { current := 50000 } = ofParts _ _ _ _ _ from rfl] at agree
  simp only [List.nil_append, List.cons_append, List.map_cons, List.map_nil] at agree
  obtain ⟨⟨monitor, lifecycle, _, journal⟩, _, _, ticks, found, _, _, elapses, untripped⟩ := agree
  cases found with
  | none =>
      exact absurd (untripped.mp rfl) (by decide +kernel)
  | some point =>
      exact ⟨monitor, lifecycle, by decide +kernel, journal, ticks, point, elapses⟩

end Breaker

end CircuitBreaker
