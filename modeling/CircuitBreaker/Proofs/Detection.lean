import CircuitBreaker.Proofs.Crossings
import CircuitBreaker.Proofs.Waiting

/-!
# The detection of the supply

What a close request sets off in an opened breaker. Crossings are counted until the detection timer
is delivered, whatever else happens but an open request. Where there are too few of them the switch
is commanded on at once and crossings are dropped from then on. Otherwise the next crossing commands
it.
-/

set_option autoImplicit false

namespace CircuitBreaker

namespace Lifecycle

variable (machine : Lifecycle) {σ : Type} [SwitchDriver σ] (clock : Clock) (event : Event)
  (switch : σ) (now : Nat)

/-!
## A classified supply
-/

theorem acSupply_of_detected (detected : machine.phase ≠ .supplyWait) :
    (machine.transition clock event switch now).1.acSupply = machine.acSupply := by
  by_cases expired : event = .supplyTimerExpired
  · subst expired
    cases phase : machine.phase with
    | supplyWait => exact absurd phase detected
    | closed =>
        simp only [transition_of_closed machine clock _ switch now phase, modeEvent_fields]
        rfl
    | _ => simp [transition, phase]
  · exact acSupply_transition machine clock event switch now expired

/-- The detection begins with a close request that meets an opened machine. -/
theorem detected_transition (detected : machine.phase ≠ .supplyWait)
    (unasked : machine.phase = .opened → event ≠ .closeCommand) :
    (machine.transition clock event switch now).1.phase ≠ .supplyWait := by
  rcases transition_phase machine clock event switch now with same | moved
  · rwa [same]
  · intro begun
    rw [begun] at moved
    cases phase : machine.phase with
    | opened =>
        rw [transition_of_opened machine clock event switch now phase (unasked phase)] at begun
        exact detected begun
    | _ => simp [phase, Phase.next] at moved

section Deaf

variable {machine} (deaf : machine.filter.isIgnored .zeroCrossing = true)
include deaf

private theorem deaf_releaseSwitch :
    (machine.releaseSwitch switch).1.filter.isIgnored .zeroCrossing = true := by
  obtain ⟨phase, filter, noticePending, same, _, kept | ignored⟩ :=
    releaseSwitch_machine machine switch
  · rw [same]
    exact kept ▸ deaf
  · simp [same, ignored]

private theorem deaf_handleOpening :
    (machine.handleOpening clock switch now).filter.isIgnored .zeroCrossing = true := by
  unfold handleOpening
  dsimp only
  split
  · exact deaf
  · split
    · exact deaf
    · simp [settleOpened]
  · simp [settleOpened]

/-- Dropped crossings are heard again with a close request that meets an opened machine. -/
theorem deaf_transition (unasked : machine.phase = .opened → event ≠ .closeCommand) :
    (machine.transition clock event switch now).1.filter.isIgnored .zeroCrossing = true := by
  cases phase : machine.phase with
  | undefined => simpa [transition_of_undefined, phase] using deaf
  | opened =>
      rw [transition_of_opened machine clock event switch now phase (unasked phase)]
      exact deaf
  | supplyWait =>
      cases event with
      | supplyTimerExpired =>
          obtain ⟨acSupply, filter, reason, same, kept | ignored⟩ :=
            classifySupply_machine machine switch
          · simp [transition, phase, same, kept, deaf]
          · simp [transition, phase, same, ignored]
      | _ => simp [transition, phase, abortClose, settleOpened, countCrossing, deaf]
  | closeWait =>
      cases event with
      | openCommand =>
          simp only [transition, phase]
          exact deaf_releaseSwitch switch deaf
      | _ => simpa [transition, phase, enterClosed] using deaf
  | closed =>
      simp only [transition_of_closed machine clock event switch now phase, modeEvent_fields]
      cases event with
      | openCommand => exact deaf_releaseSwitch switch deaf
      | overCurrentDuration => exact deaf_releaseSwitch switch deaf
      | switchOpened => exact deaf_handleOpening clock switch now deaf
      | _ => exact deaf
  | openWait => cases event <;> simp [transition, phase, settleOpened, deaf]

end Deaf

/-- The supply has been classified. No timer of a detection is armed, and no recovery timer where
the supply is AC; crossings are dropped where it is DC. -/
structure Classified (ac : Bool) : Prop where
  acSupply : machine.acSupply = ac
  detected : machine.phase ≠ .supplyWait
  unarmed : machine.timers.isArmed .supplyDetect = false
  recovery : machine.RecoveryOnDc
  deaf : ac = false → machine.filter.isIgnored .zeroCrossing = true

namespace Classified

variable {machine} {ac : Bool}

theorem transition (classified : machine.Classified ac)
    (unasked : machine.phase = .opened → event ≠ .closeCommand) :
    (machine.transition clock event switch now).1.Classified ac where
  acSupply := by
    rw [acSupply_of_detected machine clock event switch now classified.detected]
    exact classified.acSupply
  detected := detected_transition machine clock event switch now classified.detected unasked
  unarmed := by
    have detected := detected_transition machine clock event switch now classified.detected unasked
    cases armed : (machine.transition clock event switch now).1.timers.isArmed .supplyDetect with
    | false => rfl
    | true =>
        -- Whatever arms the detection timer begins a detection.
        rcases armed_transition clock event switch now armed with before | detecting
        · exact before.symm.trans classified.unarmed
        · exact absurd detecting detected
  recovery := classified.recovery.transition clock event switch now
  deaf direct := deaf_transition clock event switch now (classified.deaf direct) unasked

theorem respond (classified : machine.Classified ac)
    (unasked : machine.phase = .opened → event ≠ .closeCommand) :
    (machine.respond clock event switch now).1.Classified ac := by
  unfold Lifecycle.respond
  split
  · exact classified
  · exact classified.transition clock event switch now unasked

theorem of_empty (acSupply : machine.acSupply = ac) (detected : machine.phase ≠ .supplyWait)
    (timers : machine.timers = .empty)
    (deaf : ac = false → machine.filter.isIgnored .zeroCrossing = true) :
    machine.Classified ac where
  acSupply := acSupply
  detected := detected
  unarmed := by simp [timers]
  recovery := .of_disarmed (by simp [timers])
  deaf := deaf

theorem congr {after : Lifecycle} (classified : machine.Classified ac)
    (acSupply : after.acSupply = machine.acSupply) (phase : after.phase = machine.phase)
    (timers : ∀ timer, after.timers.deadline timer = none ∨
      after.timers.deadline timer = machine.timers.deadline timer)
    (filter : after.filter = machine.filter) : after.Classified ac where
  acSupply := acSupply.trans classified.acSupply
  detected := phase ▸ classified.detected
  unarmed := by
    have unarmed := classified.unarmed
    unfold TimerBank.isArmed at unarmed ⊢
    rcases timers .supplyDetect with none | same
    · rw [none]
      rfl
    · rwa [same]
  recovery guarded := by
    rcases timers .recovery with none | same
    · exact none
    · rw [same]
      rw [phase, acSupply] at guarded
      exact classified.recovery guarded
  deaf direct := filter ▸ classified.deaf direct

end Classified

end Lifecycle

def Action.isCrossing {σ ζ μ κ : Type} : Action σ ζ μ κ → Bool
  | .input .zeroCrossing _ => true
  | _ => false

namespace Breaker

variable {σ ζ μ κ : Type} [SwitchDriver σ]

/-!
## Actions under a classified supply
-/

section Classified

variable {ac : Bool}

private theorem classified_reacts {before after : Breaker σ ζ μ κ} {event : Event} {now : Nat}
    (classified : before.lifecycle.Classified ac)
    (unasked : before.lifecycle.phase = .opened → event ≠ .closeCommand)
    (reacts : before.Reacts event now after) : after.lifecycle.Classified ac := by
  rw [reacts.lifecycle]
  exact (classified.respond before.clock event before.switch now unasked).congr rfl rfl
    (fun _ => .inr rfl) rfl

omit [SwitchDriver σ] in
private theorem close_of_raises {phase : Phase} {action : Action σ ζ μ κ}
    (raised : Raises phase .closeCommand action) : ∃ now, action = .input .closeRequest now := by
  cases action with
  | input input now =>
      cases input with
      | closeRequest => exact ⟨now, rfl⟩
      | switchChanged closed => cases closed <;> cases raised
      | _ => cases raised
  | poll now => cases raised.2
  | adjust adjustment => cases raised

private theorem classified_course {action : Action σ ζ μ κ} {now : Nat}
    {breaker final : Breaker σ ζ μ κ} {trail : List (Application σ ζ μ κ)}
    (course : Course action now breaker trail final) (session : breaker.InSession)
    (classified : breaker.lifecycle.Classified ac)
    (other : ∀ now, action ≠ .input .closeRequest now) :
    final.lifecycle.Classified ac ∧
      ∀ application ∈ trail, application.after.lifecycle.acSupply = ac := by
  induction course with
  | rest breaker => exact ⟨classified, List.forall_mem_nil _⟩
  | aside monitor lastSeen later ih => exact ih ⟨session.initialized, session.ready⟩ classified
  | @raise before after final trail event raised applied later ih =>
      -- Only a close request raises the command to close.
      have unasked : event ≠ .closeCommand := by
        rintro rfl
        obtain ⟨now, same⟩ := close_of_raises raised
        exact other now same
      have moved := classified_reacts classified (fun _ => unasked) (session.reacts applied)
      obtain ⟨ended, known⟩ := ih (session.applied applied) moved
      exact ⟨ended, List.forall_mem_cons.mpr ⟨moved.acSupply, known⟩⟩
  | @expire before after final trail timer polling due applied later ih =>
      have inside := session.disarm timer
      have disarmed : (before.disarm timer).lifecycle.Classified ac := by
        refine classified.congr rfl rfl (fun other => ?_) rfl
        rw [disarm, TimerBank.deadline_cancel]
        split
        · exact .inl rfl
        · exact .inr rfl
      have moved := classified_reacts disarmed (fun _ => by cases timer <;> simp [TimerId.event])
        (inside.reacts applied)
      obtain ⟨ended, known⟩ := ih (inside.applied applied) moved
      exact ⟨ended, List.forall_mem_cons.mpr ⟨moved.acSupply, known⟩⟩

variable [Meter μ] [RecordStore κ] {breaker : Breaker σ ζ μ κ} (session : breaker.InSession)
  (classified : breaker.lifecycle.Classified ac)
include session classified

theorem classified_act (action : Action σ ζ μ κ) (unasked : ¬ breaker.AsksToClose action) :
    (breaker.act action).lifecycle.Classified ac := by
  by_cases close : ∃ now, action = .input .closeRequest now
  · obtain ⟨now, rfl⟩ := close
    obtain ⟨after, accepted, ⟨rfl, _⟩ | ⟨reacts, _⟩⟩ := session.handleInput .closeRequest now
    · rwa [Breaker.act, accepted]
    · rw [Breaker.act, accepted]
      exact classified_reacts classified (fun opened => absurd opened unasked) reacts
  · rcases session.course action with ⟨adjustment, rfl⟩ | ⟨instant, course⟩
    · have adjusted := adjust_adjusted adjustment breaker
      obtain ⟨timers, filter, acSupply, _⟩ := adjusted.frame
      exact classified.congr acSupply adjusted.phase
        (fun timer => .inr (congrArg (TimerBank.deadline · timer) timers)) filter
    · exact (classified_course course session classified fun now same => close ⟨now, same⟩).1

/-- The class of the supply stays until a close request meets the breaker opened. -/
theorem classified_run (actions : List (Action σ ζ μ κ))
    (unasked :
      Throughout act (fun breaker action => ¬ breaker.AsksToClose action) breaker actions) :
    (breaker.run actions).lifecycle.Classified ac := by
  refine (@foldl_keeps _ _ act (fun breaker action => ¬ breaker.AsksToClose action)
    (fun breaker => breaker.InSession ∧ breaker.lifecycle.Classified ac) ?_
    breaker actions unasked ⟨session, classified⟩).2
  rintro breaker action unasked ⟨session, classified⟩
  exact ⟨session.act action, classified_act session classified action unasked⟩

omit classified in
theorem silent_of_close [Mains ζ] {now : Nat} (unopened : breaker.lifecycle.phase ≠ .opened) :
    breaker.commandsIn (.act (.input .closeRequest now)) = [] := by
  by_cases closed : breaker.lifecycle.phase = .closed
  · rw [commandsIn_eq fun _ => session, Breaker.applied, appliedInput, if_pos closed]
    rfl
  · rw [(session.comesTo_input .closeRequest (fun _ => closed) now).commands, Breaker.consequence,
      Input.event, session.ready.respond_of_ne _ _ _ _ (by simp)]
    unfold Lifecycle.transition
    cases phase : breaker.lifecycle.phase with
    | opened => exact absurd phase unopened
    | closed => exact absurd phase closed
    | _ => rfl

/-- On an AC supply crossings command the switch, and nothing else does. -/
theorem silent_of_ac [Mains ζ] (ac : ac = true) {action : Action σ ζ μ κ}
    (unasked : ¬ breaker.AsksToClose action)
    (uncrossed : ∀ now, action ≠ .input .zeroCrossing now) :
    breaker.commandsIn (.act action) = [] := by
  by_cases close : ∃ now, action = .input .closeRequest now
  · obtain ⟨now, rfl⟩ := close
    exact silent_of_close session unasked
  · rw [commandsIn_eq fun _ => session, List.flatMap_eq_nil_iff]
    intro application member
    rw [List.mem_reverse] at member
    rcases session.course action with ⟨adjustment, rfl⟩ | ⟨instant, course⟩
    · cases member
    · obtain ⟨_, supplied⟩ := classified_course course session classified
        fun now same => close ⟨now, same⟩
      obtain ⟨_, crossed⟩ := course_atCrossing course session classified.recovery
      -- A command that is given on an AC supply is given at a crossing, and there was none.
      by_contra commanded
      obtain ⟨_, now, crossing⟩ := crossed application member commanded
        (.inl ((supplied application member).trans ac))
      exact uncrossed now crossing

theorem silent_run_of_ac [Mains ζ] (ac : ac = true) (actions : List (Action σ ζ μ κ))
    (unasked : Throughout act (fun breaker action => ¬ breaker.AsksToClose action) breaker actions)
    (uncrossed : ∀ now, .input .zeroCrossing now ∉ actions) : breaker.Silent actions := by
  induction actions generalizing breaker with
  | nil => exact trivial
  | cons action rest ih =>
      refine ⟨silent_of_ac session classified ac unasked.1 ?_, ih (session.act action)
        (classified_act session classified action unasked.1) unasked.2 ?_⟩
      · rintro now rfl
        exact uncrossed now List.mem_cons_self
      · exact fun now member => uncrossed now (List.mem_cons_of_mem _ member)

end Classified

/-!
## The window
-/

variable [Mains ζ] [Meter μ] [RecordStore κ]

/-- A close request that an opened breaker accepts, with all that comes up to the poll that delivers
the detection timer. No request to open is among it. -/
structure SupplyWindow (breaker : Breaker σ ζ μ κ) (asked : Nat) (between : List (Action σ ζ μ κ))
    (last : Nat) : Prop where
  reachable : breaker.Reachable
  opened : breaker.lifecycle.phase = .opened
  unopened : ∀ now, .input .openRequest now ∉ between
  early : ∀ now, .poll now ∈ between → now < breaker.clock.after asked Lifecycle.detectionWindow
  due : breaker.clock.after asked Lifecycle.detectionWindow ≤ last

/-- The supply is detected up to `deadline`, and so many crossings have been counted. -/
structure Detects (deadline count : Nat) (breaker : Breaker σ ζ μ κ) : Prop where
  session : breaker.InSession
  phase : breaker.lifecycle.phase = .supplyWait
  timers : breaker.lifecycle.timers = .only .supplyDetect deadline
  counted : breaker.lifecycle.crossings = min 255 count
  hears : breaker.lifecycle.filter.isIgnored .zeroCrossing = false

theorem SupplyWindow.begins {breaker : Breaker σ ζ μ κ} {asked last : Nat}
    {between : List (Action σ ζ μ κ)} (window : breaker.SupplyWindow asked between last) :
    (breaker.act (.input .closeRequest asked)).Detects
        (breaker.clock.after asked Lifecycle.detectionWindow) 0 ∧
      breaker.commandsIn (.act (.input .closeRequest asked)) = [] := by
  have session := window.reachable.inSession
  have begun {switch : Journaled σ} :
      breaker.lifecycle.respond breaker.clock .closeCommand switch asked =
        (breaker.lifecycle.beginClose breaker.clock asked, switch) := by
    simp [session.ready.respond_of_ne, Lifecycle.transition, window.opened]
  obtain ⟨lifecycle, commands⟩ :=
    session.comesTo_input .closeRequest (by simp [window.opened]) asked
  rw [Breaker.consequence, Input.event, begun] at lifecycle commands
  refine ⟨⟨session.act _, ?_, ?_, ?_, ?_⟩, commands⟩ <;> rw [lifecycle]
  · rfl
  · rfl
  · rfl
  · simp [Lifecycle.beginClose]

section Ends

omit [Mains ζ] [Meter μ] [RecordStore κ]

variable {breaker : Breaker σ ζ μ κ} (session : breaker.InSession)
  (detecting : breaker.lifecycle.phase = .supplyWait) (now : Nat)
include session detecting

theorem consequence_of_ac (found : Lifecycle.minAcCrossings ≤ breaker.lifecycle.crossings) :
    breaker.consequence .supplyTimerExpired now =
      ({ breaker.lifecycle with
          phase := .closeWait
          crossings := 0
          acSupply := true
          noticePending := false },
        []) := by
  rw [consequence, session.ready.respond_of_ne _ _ _ _ (by simp)]
  simp [Lifecycle.transition, detecting, Lifecycle.classifySupply, found, journaled, mapSwitch]

theorem consequence_of_dc (few : ¬ Lifecycle.minAcCrossings ≤ breaker.lifecycle.crossings) :
    ∃ reason refusal, breaker.consequence .supplyTimerExpired now =
      ({ breaker.lifecycle with
          phase := .closeWait
          reason
          crossings := 0
          acSupply := false
          filter := breaker.lifecycle.filter.ignore .zeroCrossing
          noticePending := false },
        [.turnedOn refusal]) := by
  have moved : breaker.lifecycle.transition breaker.clock .supplyTimerExpired
      breaker.journaled.switch now =
        { breaker.lifecycle with
          phase := .closeWait
          crossings := 0
          acSupply := false
          filter := breaker.lifecycle.filter.ignore .zeroCrossing }.reclose
            breaker.journaled.switch := by
    simp [Lifecycle.transition, detecting, Lifecycle.classifySupply, few]
  obtain ⟨reason, refusal, same, commanded⟩ := Lifecycle.reclose_of_silent
    { breaker.lifecycle with
      phase := .closeWait
      crossings := 0
      acSupply := false
      filter := breaker.lifecycle.filter.ignore .zeroCrossing }
    (show breaker.journaled.switch.journal = [] from rfl)
  refine ⟨reason, refusal, ?_⟩
  rw [consequence, session.ready.respond_of_ne _ _ _ _ (by simp), moved]
  dsimp only
  rw [same, commanded]

end Ends

namespace Detects

variable {deadline count : Nat} {breaker : Breaker σ ζ μ κ}

theorem act (detects : breaker.Detects deadline count) {action : Action σ ζ μ κ}
    (unopened : ∀ now, action ≠ .input .openRequest now)
    (early : ∀ now, action = .poll now → now < deadline) :
    (breaker.act action).Detects deadline (count + action.isCrossing.toNat) ∧
      breaker.commandsIn (.act action) = [] := by
  have session := detects.session.act action
  have unclosed : breaker.lifecycle.phase ≠ .closed := by simp [detects.phase]
  have moved {lifecycle : Lifecycle} {commands : List JournalEntry} {crossings : Nat}
      (comesTo : breaker.ComesTo action (lifecycle, commands))
      (same : lifecycle = { breaker.lifecycle with
        crossings, noticePending := lifecycle.noticePending })
      (counted : crossings = min 255 (count + action.isCrossing.toNat)) (silent : commands = []) :
      (breaker.act action).Detects deadline (count + action.isCrossing.toNat) ∧
        breaker.commandsIn (.act action) = [] := by
    have image := comesTo.lifecycle.trans same
    refine ⟨⟨session, ?_, ?_, ?_, ?_⟩, comesTo.commands.trans silent⟩ <;> rw [image]
    · exact detects.phase
    · exact detects.timers
    · exact counted
    · exact detects.hears
  cases action with
  | input input now =>
      have comesTo := detects.session.comesTo_input input (fun _ => unclosed) now
      cases input with
      | zeroCrossing =>
          have answered {switch : Journaled σ} :
              breaker.lifecycle.respond breaker.clock .zeroCrossing switch now =
                (breaker.lifecycle.countCrossing, switch) := by
            simp [Lifecycle.respond, detects.hears, Lifecycle.transition, detects.phase]
          rw [Breaker.consequence, Input.event, answered] at comesTo
          refine moved comesTo rfl ?_ rfl
          simp only [Lifecycle.countCrossing, detects.counted, Action.isCrossing, Bool.toNat_true]
          omega
      | openRequest => exact absurd rfl (unopened now)
      | switchChanged closed =>
          have answered {switch : Journaled σ} :
              breaker.lifecycle.respond breaker.clock (Input.switchChanged closed).event switch
                now = (breaker.lifecycle, switch) := by
            cases closed <;> simp [Input.event, detects.session.ready.respond_of_ne,
              Lifecycle.transition, detects.phase]
          rw [Breaker.consequence, answered] at comesTo
          exact moved comesTo rfl detects.counted rfl
      | closeRequest =>
          have answered {switch : Journaled σ} :
              breaker.lifecycle.respond breaker.clock .closeCommand switch now =
                (breaker.lifecycle, switch) := by
            simp [detects.session.ready.respond_of_ne, Lifecycle.transition, detects.phase]
          rw [Breaker.consequence, Input.event, answered] at comesTo
          exact moved comesTo rfl detects.counted rfl
  | poll now =>
      have undue : breaker.lifecycle.timers.firstDue now = none := by
        rw [detects.timers, TimerBank.firstDue_only, if_neg (Nat.not_le.mpr (early now rfl))]
      exact moved (detects.session.comesTo_undue unclosed undue) rfl detects.counted rfl
  | adjust adjustment =>
      have adjusted := adjust_adjusted adjustment breaker
      obtain ⟨timers, filter, _, crossings⟩ := adjusted.frame
      refine ⟨⟨session, adjusted.phase.trans detects.phase, timers.trans detects.timers,
        crossings.trans detects.counted, ?_⟩, commandsIn_adjust breaker adjustment⟩
      rw [← detects.hears, ← filter]
      rfl

theorem run (detects : breaker.Detects deadline count) {actions : List (Action σ ζ μ κ)}
    (unopened : ∀ now, .input .openRequest now ∉ actions)
    (early : ∀ now, .poll now ∈ actions → now < deadline) :
    (breaker.run actions).Detects deadline (count + actions.countP Action.isCrossing) ∧
      breaker.Silent actions := by
  induction actions generalizing breaker count with
  | nil => exact ⟨detects, trivial⟩
  | cons action rest ih =>
      obtain ⟨still, silent⟩ := detects.act
        (fun now same => unopened now (same ▸ List.mem_cons_self))
        (fun now same => early now (same ▸ List.mem_cons_self))
      obtain ⟨final, quiet⟩ := ih still
        (fun now member => unopened now (List.mem_cons_of_mem _ member))
        (fun now member => early now (List.mem_cons_of_mem _ member))
      refine ⟨?_, silent, quiet⟩
      change ((breaker.act action).run rest).Detects deadline _
      rw [List.countP_cons, Nat.add_comm (rest.countP _), ← Nat.add_assoc]
      cases crossing : action.isCrossing <;> simpa [crossing] using final

/-- The poll that delivers the timer classifies the supply by the count, and commands the switch on
where it is DC. -/
theorem ends (detects : breaker.Detects deadline count) {last : Nat} (due : deadline ≤ last) :
    (breaker.act (.poll last)).lifecycle.Classified (4 ≤ count) ∧
      (breaker.act (.poll last)).Holds .empty (¬ 4 ≤ count) ∧
      if 4 ≤ count then breaker.commandsIn (.act (.poll last)) = []
      else ∃ refusal, breaker.commandsIn (.act (.poll last)) = [.turnedOn refusal] := by
  have session := detects.session.act (.poll last)
  have disarmed := detects.session.disarm .supplyDetect
  have detecting : (breaker.disarm .supplyDetect).lifecycle.phase = .supplyWait := detects.phase
  have counted : (breaker.disarm .supplyDetect).lifecycle.crossings = min 255 count :=
    detects.counted
  have timers : (breaker.disarm .supplyDetect).lifecycle.timers = .empty := by
    rw [disarm, detects.timers, TimerBank.cancel_only]
  by_cases found : 4 ≤ count
  · have answered := consequence_of_ac disarmed detecting last
      (by rw [counted, Lifecycle.minAcCrossings]; omega)
    obtain ⟨lifecycle, commands⟩ :=
      detects.session.comesTo_expiry detects.timers due answered (by simp)
    rw [if_pos found]
    refine ⟨?_, ⟨session, ?_, ?_, ?_⟩, commands⟩ <;> rw [lifecycle]
    · exact .of_empty (by simp [found]) (by simp) timers (by simp [found])
    · exact timers
    · simpa [found, disarm] using detects.hears
  · obtain ⟨reason, refusal, answered⟩ := consequence_of_dc disarmed detecting last
      (by rw [counted, Lifecycle.minAcCrossings]; omega)
    obtain ⟨lifecycle, commands⟩ :=
      detects.session.comesTo_expiry detects.timers due answered (by simp)
    rw [if_neg found]
    refine ⟨?_, ⟨session, ?_, ?_, ?_⟩, refusal, commands⟩ <;> rw [lifecycle]
    · exact .of_empty (by simp [found]) (by simp) timers (by simp)
    · exact timers
    · simp [found]

end Detects

theorem Holds.crossing {timers : TimerBank} {breaker : Breaker σ ζ μ κ}
    (holds : breaker.Holds timers false) (now : Nat) :
    ∃ refusal, breaker.commandsIn (.act (.input .zeroCrossing now)) = [.turnedOn refusal] := by
  obtain ⟨_, commands⟩ := holds.session.comesTo_input .zeroCrossing (by simp) now
  obtain ⟨reason, refusal, answered⟩ := holds.session.consequence_of_reclose holds.phase
    (.inr ⟨rfl, holds.crossings⟩) now
  rw [Input.event, answered] at commands
  exact ⟨refusal, commands⟩

theorem silent_of_deaf {breaker : Breaker σ ζ μ κ} (session : breaker.InSession)
    (deaf : breaker.lifecycle.filter.isIgnored .zeroCrossing = true) (now : Nat) :
    breaker.commandsIn (.act (.input .zeroCrossing now)) = [] := by
  rw [(session.comesTo_input .zeroCrossing (by simp) now).commands, Breaker.consequence,
    Input.event, Lifecycle.respond, if_pos deaf]
  rfl

section Window

variable {breaker : Breaker σ ζ μ κ} {asked last : Nat} {between : List (Action σ ζ μ κ)}

omit [Mains ζ] in
def detecting (breaker : Breaker σ ζ μ κ) (asked : Nat) (between : List (Action σ ζ μ κ)) :
    Breaker σ ζ μ κ :=
  (breaker.act (.input .closeRequest asked)).run between

def classified (breaker : Breaker σ ζ μ κ) (asked : Nat) (between : List (Action σ ζ μ κ))
    (last : Nat) : Breaker σ ζ μ κ :=
  (breaker.detecting asked between).act (.poll last)

theorem SupplyWindow.detects (window : breaker.SupplyWindow asked between last) :
    (breaker.detecting asked between).Detects
        (breaker.clock.after asked Lifecycle.detectionWindow) (between.countP Action.isCrossing) ∧
      breaker.Silent (.input .closeRequest asked :: between) := by
  obtain ⟨begun, silent⟩ := window.begins
  obtain ⟨detects, quiet⟩ := begun.run window.unopened window.early
  rw [Nat.zero_add] at detects
  exact ⟨detects, silent, quiet⟩

/-- A close on a DC supply. -/
structure ClosesAtPoll (detecting : Breaker σ ζ μ κ) (last : Nat) : Prop where
  /-- The poll commands the switch on, once. -/
  commanded : ∃ refusal, detecting.commandsIn (.act (.poll last)) = [.turnedOn refusal]
  /-- Crossings are dropped until the next close begins. -/
  deaf : ∀ later,
    Throughout act (fun breaker action => ¬ breaker.AsksToClose action)
      (detecting.act (.poll last)) later →
    ((detecting.act (.poll last)).run later).lifecycle.filter.isIgnored .zeroCrossing = true ∧
      ∀ now, ((detecting.act (.poll last)).run later).commandsIn
        (.act (.input .zeroCrossing now)) = []

/-- A close on an AC supply. -/
structure ClosesAtCrossing (detecting : Breaker σ ζ μ κ) (last : Nat) : Prop where
  waits : detecting.commandsIn (.act (.poll last)) = []
  /-- Without a crossing nothing commands the switch until the next close begins. -/
  silent : ∀ later, (∀ now, .input .zeroCrossing now ∉ later) →
    Throughout act (fun breaker action => ¬ breaker.AsksToClose action)
      (detecting.act (.poll last)) later →
    (detecting.act (.poll last)).Silent later
  /-- The next crossing commands it on, once, unless a request to open or the report that the switch
  closed comes first. -/
  crossed : ∀ later, (∀ now, .input .zeroCrossing now ∉ later) → Unended later →
    (detecting.act (.poll last)).Silent later ∧
      ∀ now, ∃ refusal, ((detecting.act (.poll last)).run later).commandsIn
        (.act (.input .zeroCrossing now)) = [.turnedOn refusal]

/-- What the end of the detection window comes to. -/
structure SupplyDecides (breaker : Breaker σ ζ μ κ) (asked : Nat)
    (between : List (Action σ ζ μ κ)) (last : Nat) : Prop where
  /-- Nothing commands the switch before the poll. -/
  silent : breaker.Silent (.input .closeRequest asked :: between)
  before : (breaker.detecting asked between).lifecycle.phase = .supplyWait
  after : (breaker.classified asked between last).lifecycle.phase = .closeWait
  counted : (breaker.classified asked between last).lifecycle.acSupply = true ↔
    4 ≤ between.countP Action.isCrossing
  dc : (breaker.classified asked between last).lifecycle.acSupply = false →
    (breaker.detecting asked between).ClosesAtPoll last
  ac : (breaker.classified asked between last).lifecycle.acSupply = true →
    (breaker.detecting asked between).ClosesAtCrossing last

/-- The supply of a close is AC if and only if at least four crossings come up to the poll that
delivers the detection timer. On a DC supply that poll closes the switch, on an AC supply the next
crossing does. -/
theorem supply_decides_close (window : breaker.SupplyWindow asked between last) :
    breaker.SupplyDecides asked between last := by
  obtain ⟨detects, silent⟩ := window.detects
  obtain ⟨supply, holds, commands⟩ := detects.ends window.due
  have session : (breaker.classified asked between last).InSession := holds.session
  refine {
    silent
    before := detects.phase
    after := holds.phase
    counted := ?_
    dc := ?_
    ac := ?_ }
  · rw [show (breaker.classified asked between last).lifecycle.acSupply = _ from supply.acSupply,
      decide_eq_true_eq]
  · intro direct
    have few : ¬ 4 ≤ between.countP Action.isCrossing := by
      simpa using supply.acSupply.symm.trans direct
    rw [if_neg few] at commands
    refine ⟨commands, fun later unasked => ?_⟩
    have kept := classified_run session supply later unasked
    have deaf := kept.deaf (by simpa using few)
    exact ⟨deaf, silent_of_deaf (session.run later) deaf⟩
  · intro found
    have enough : 4 ≤ between.countP Action.isCrossing := by
      simpa using supply.acSupply.symm.trans found
    rw [if_pos enough] at commands
    refine ⟨commands, fun later uncrossed unasked => ?_, fun later uncrossed unended => ?_⟩
    · exact silent_run_of_ac session supply (by simpa using enough) later unasked uncrossed
    · have hears : decide (¬ 4 ≤ between.countP Action.isCrossing) = false := by simpa using enough
      rw [hears] at holds
      obtain ⟨still, quiet⟩ := holds.run
        (unended.spares (fun now member => absurd member (uncrossed now)) fun _ _ => rfl)
      exact ⟨quiet, still.crossing⟩

end Window

open Bench

def openedBench : BenchBreaker := (bench {} {}).history (session [])

def threeCrossings : List BenchAction :=
  [.input .zeroCrossing 20000, .poll 25000, .input .zeroCrossing 30000, .input .closeRequest 35000,
    .input .zeroCrossing 40000]

def fourCrossings : List BenchAction := .input .zeroCrossing 20000 :: threeCrossings

private theorem window_of_bench {between : List BenchAction}
    (within : ∀ action ∈ between, action ∈ threeCrossings) :
    openedBench.SupplyWindow 0 between 200000 := by
  have closes : openedBench.clock.after 0 Lifecycle.detectionWindow = 200000 := by decide +kernel
  refine ⟨⟨by decide +kernel, _, _, _, _, _, session [], rfl⟩, by decide +kernel, ?_, ?_, ?_⟩
  · intro now member
    have found := within _ member
    simp [threeCrossings] at found
  · intro now member
    have found := within _ member
    simp only [threeCrossings, List.mem_cons, reduceCtorEq, Action.poll.injEq, List.not_mem_nil,
      or_false, false_or] at found
    rw [closes, found]
    simp
  · exact Nat.le_of_eq closes

/-- On four crossings the supply is AC, and the next one closes the switch. On three it is DC, and
the poll closes it. -/
theorem supply_decides_close_bench :
    openedBench.SupplyWindow 0 fourCrossings 200000 ∧
      openedBench.SupplyWindow 0 threeCrossings 200000 ∧
      (∃ refusal, ((openedBench.classified 0 fourCrossings 200000).run
        [.input .closeRequest 205000]).commandsIn (.act (.input .zeroCrossing 210000)) =
          [.turnedOn refusal]) ∧
      ∃ refusal, (openedBench.detecting 0 threeCrossings).commandsIn (.act (.poll 200000)) =
        [.turnedOn refusal] := by
  have dc : openedBench.SupplyWindow 0 threeCrossings 200000 :=
    window_of_bench fun _ member => member
  have ac : openedBench.SupplyWindow 0 fourCrossings 200000 :=
    window_of_bench (List.forall_mem_cons.mpr ⟨List.mem_cons_self, fun _ member => member⟩)
  have crossed := supply_decides_close ac
  have direct := supply_decides_close dc
  refine ⟨ac, dc, ?_, ?_⟩
  · have awaited := crossed.ac (crossed.counted.mpr (by decide))
    exact (awaited.crossed [.input .closeRequest 205000] (by simp) (by simp [Unended])).2 210000
  · have few : (openedBench.classified 0 threeCrossings 200000).lifecycle.acSupply = false :=
      Bool.eq_false_iff.mpr fun four => absurd (direct.counted.mp four) (by decide)
    exact (direct.dc few).commanded

end Breaker

end CircuitBreaker
