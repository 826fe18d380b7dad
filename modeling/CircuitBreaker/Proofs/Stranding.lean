import CircuitBreaker.Proofs.Replenishment
import CircuitBreaker.Proofs.Tardy

/-!
# Stranded breakers

A breaker that leaves its closed-state mode looks at the position of the switch once. Over a tardy
switch the position may be about to change: an opening that the mode has commanded is reported
later, and then ignored. No other event leaves a breaker closed over a switch that is off.
-/

set_option autoImplicit false

namespace CircuitBreaker

/-- What the modulation cycle relies on in its phases. -/
def ModulationPhase.Expects : ModulationPhase → TardySwitch → Prop
  | disabled, switch => switch.Conducts
  | closed, switch => switch.Opens
  | opened, switch => switch.Closes

theorem TardySwitch.Conducts.expects {switch : TardySwitch} (conducts : switch.Conducts)
    (phase : ModulationPhase) : phase.Expects switch := by
  cases phase with
  | disabled => exact conducts
  | closed => exact conducts.opens
  | opened => exact conducts.closes

namespace ModulationPhase.Expects

variable {phase : ModulationPhase} {switch : TardySwitch} (held : phase.Expects switch)
include held

theorem opens (on : switch.on = true) : switch.Opens := by
  cases phase with
  | disabled => exact TardySwitch.Conducts.opens held
  | closed => exact held
  | opened => exact (TardySwitch.Closes.conducts held on).opens

theorem closes (reported : ¬ switch.Unreported) : switch.Closes := by
  cases phase with
  | disabled => exact TardySwitch.Conducts.closes held
  | closed => exact (TardySwitch.Opens.conducts held reported).closes
  | opened => exact held

end ModulationPhase.Expects

theorem Modulation.handle_expects {modulation : Modulation} {switch : TardySwitch} {event : Event}
    (held : modulation.phase.Expects switch) (unopened : event ≠ .switchOpened)
    (reported : event = .switchClosed → modulation.phase = .opened → switch.Conducts) :
    (modulation.handle event switch).1.phase.Expects (modulation.handle event switch).2 := by
  cases phase : modulation.phase with
  | disabled =>
      rw [phase] at held
      simp only [handle, phase, enter]
      split
      · exact TardySwitch.Conducts.opens held
      · exact held
  | closed =>
      rw [phase] at held
      cases event with
      | zeroCrossing =>
          simp only [handle, phase, crossingWhileClosed]
          split
          · exact TardySwitch.Opens.turnOff held
          · exact held
      | switchOpened => exact absurd rfl unopened
      | _ => simpa [handle, phase] using held
  | opened =>
      rw [phase] at held
      cases event with
      | zeroCrossing =>
          simp only [handle, phase, crossingWhileOpened]
          split
          · exact TardySwitch.Closes.turnOn held
          · exact held
      | switchClosed =>
          simp only [handle, phase]
          exact (reported rfl phase).opens
      | _ => simpa [handle, phase] using held

namespace Lifecycle

def cyclePhase (machine : Lifecycle) : ModulationPhase :=
  if machine.activeMode = .modulated ∧ machine.acSupply = true then machine.modulation.phase
  else .disabled

def Expects (machine : Lifecycle) (switch : TardySwitch) : Prop :=
  match machine.phase with
  | .openWait => switch.Opens
  | .closed => machine.cyclePhase.Expects switch
  | _ => switch.Closes

/-- A closed machine leaves its mode, or comes to rest on a decision of its own. -/
def Leaves (machine : Lifecycle) (event : Event) (after : Lifecycle) : Prop :=
  machine.phase = .closed ∧
    (after.activeMode ≠ machine.activeMode ∨ after.phase = .opened ∧ event ≠ .switchOpened)

instance (machine : Lifecycle) (event : Event) (after : Lifecycle) :
    Decidable (machine.Leaves event after) :=
  inferInstanceAs (Decidable (_ ∧ (_ ∨ _)))

variable {machine : Lifecycle} {switch : TardySwitch} (clock : Clock) {event : Event} (now : Nat)

theorem expects_of_closed (closed : machine.phase = .closed) :
    machine.Expects switch ↔ machine.cyclePhase.Expects switch := by
  unfold Expects
  rw [closed]

theorem expects_of_opened (opened : machine.phase = .opened) :
    machine.Expects switch ↔ switch.Closes := by
  unfold Expects
  rw [opened]

theorem expects_of_supplyWait (detecting : machine.phase = .supplyWait) :
    machine.Expects switch ↔ switch.Closes := by
  unfold Expects
  rw [detecting]

theorem expects_of_closeWait (waiting : machine.phase = .closeWait) :
    machine.Expects switch ↔ switch.Closes := by
  unfold Expects
  rw [waiting]

theorem expects_of_openWait (opening : machine.phase = .openWait) :
    machine.Expects switch ↔ switch.Opens := by
  unfold Expects
  rw [opening]

/-!
## Moves
-/

theorem reclose_closes (closes : switch.Closes) : (machine.reclose switch).2.Closes := by
  rw [reclose_switch]
  exact closes.turnOn

theorem releaseSwitch_expects (on : switch.on = true → switch.Opens)
    (off : switch.on = false → switch.Closes) :
    (machine.releaseSwitch switch).1.Expects (machine.releaseSwitch switch).2 := by
  rcases Bool.eq_false_or_eq_true switch.on with position | position
  · have isOn : SwitchDriver.isOn switch = true := position
    unfold releaseSwitch
    rw [if_pos isOn, expects_of_openWait rfl]
    dsimp only
    split
    · exact on position
    · exact (on position).turnOff
  · rw [releaseSwitch_of_off machine switch position, expects_of_opened rfl]
    exact off position

theorem leaveMode_expects (closed : machine.phase = .closed) (closes : switch.Closes) :
    (machine.leaveMode switch).1.Expects (machine.leaveMode switch).2 := by
  rcases Bool.eq_false_or_eq_true switch.on with position | position
  · have isOn : SwitchDriver.isOn switch = true := position
    unfold leaveMode
    dsimp only
    rw [if_pos isOn]
    refine (@expects_of_closed { machine with modulation := machine.modulation.cleanUp } switch
      closed).mpr ?_
    unfold cyclePhase
    dsimp only [Modulation.cleanUp]
    rw [ite_self]
    exact closes.conducts position
  · have isOff : ¬ SwitchDriver.isOn switch = true := by
      intro on
      cases position.symm.trans on
    unfold leaveMode
    dsimp only
    rw [if_neg isOff]
    split
    · exact (expects_of_closeWait rfl).mpr closes
    · exact (expects_of_closeWait (phase_reclose _ switch)).mpr (reclose_closes closes)

/-- What the closed-state mode does to a machine that stays closed until it is asked. -/
theorem modeEvent_expects (closed : machine.phase = .closed) (held : machine.Expects switch)
    (unopened : event ≠ .switchOpened)
    (reported : event = .switchClosed → machine.cyclePhase = .opened → switch.Conducts)
    (kept : (machine.modeEvent event switch).1.activeMode ≠ machine.activeMode →
      ¬ switch.Unreported) :
    (machine.modeEvent event switch).1.Expects (machine.modeEvent event switch).2 := by
  rw [expects_of_closed closed] at held
  unfold modeEvent at kept ⊢
  rw [if_neg (not_not_intro closed)] at kept ⊢
  by_cases changed : machine.activeMode = machine.recovery.mode
  · rw [if_neg (not_not_intro changed)] at kept ⊢
    by_cases cycling : machine.activeMode = .modulated ∧ machine.acSupply = true
    · rw [if_pos cycling]
      have phase : machine.cyclePhase = machine.modulation.phase := if_pos cycling
      rw [phase] at held reported
      have after := Modulation.handle_expects held unopened reported
      let moved := { machine with modulation := (machine.modulation.handle event switch).1 }
      have still : moved.cyclePhase = (machine.modulation.handle event switch).1.phase :=
        if_pos cycling
      rw [← still] at after
      exact (@expects_of_closed moved _ closed).mpr after
    · rw [if_neg cycling, expects_of_closed closed]
      exact held
  · rw [if_pos changed] at kept ⊢
    refine leaveMode_expects closed (held.closes (kept ?_))
    obtain ⟨phase, reason, modulation, same, _⟩ :=
      leaveMode_machine { machine with activeMode := machine.recovery.mode } switch
    rw [same]
    exact fun equal => changed equal.symm

/-!
## Events
-/

private theorem release_of_closed (closed : machine.phase = .closed)
    (held : machine.Expects switch) (released : Lifecycle)
    (kept : (released.releaseSwitch switch).1.phase = .opened → ¬ switch.Unreported) :
    (released.releaseSwitch switch).1.Expects (released.releaseSwitch switch).2 := by
  rw [expects_of_closed closed] at held
  refine releaseSwitch_expects held.opens fun off => held.closes (kept ?_)
  rw [releaseSwitch_of_off released switch off]
  rfl

private theorem transition_expects_of_closed (closed : machine.phase = .closed)
    (held : machine.Expects switch) (unopened : event ≠ .switchOpened)
    (reported : event = .switchClosed → machine.cyclePhase = .opened → switch.Conducts)
    (kept : machine.Leaves event (machine.transition clock event switch now).1 →
      ¬ switch.Unreported) :
    (machine.transition clock event switch now).1.Expects
      (machine.transition clock event switch now).2 := by
  have moded (after : Lifecycle) (still : after.phase = .closed)
      (activeMode : after.activeMode = machine.activeMode)
      (cycle : after.cyclePhase = machine.cyclePhase)
      (moves : machine.transition clock event switch now = after.modeEvent event switch) :
      (machine.transition clock event switch now).1.Expects
        (machine.transition clock event switch now).2 := by
    rw [moves] at kept ⊢
    refine modeEvent_expects still ?_ unopened (cycle ▸ reported) fun left =>
      kept ⟨closed, .inl (activeMode ▸ left)⟩
    rw [expects_of_closed still, cycle, ← expects_of_closed closed]
    exact held
  have moves := transition_of_closed machine clock event switch now closed
  cases event with
  | switchOpened => exact absurd rfl unopened
  | openCommand =>
      have left : (machine.closedTransition clock .openCommand switch now).1.phase ≠ .closed :=
        (openOnCommand_isOpening machine switch).ne_closed
      rw [transition_of_closed_left machine clock _ switch now closed left] at kept ⊢
      exact release_of_closed closed held _ fun opened => kept ⟨closed, .inr ⟨opened, by simp⟩⟩
  | overCurrentDuration =>
      have left : (machine.closedTransition clock .overCurrentDuration switch now).1.phase ≠
          .closed := (openOnDuration_isOpening machine switch).ne_closed
      rw [transition_of_closed_left machine clock _ switch now closed left] at kept ⊢
      exact release_of_closed closed held _ fun opened => kept ⟨closed, .inr ⟨opened, by simp⟩⟩
  | recoveryResetTimerExpired => exact moded machine.replenish closed rfl rfl moves
  | _ => exact moded machine closed rfl rfl moves

/-- An event other than a reported opening leaves the switch as the machine after it expects. -/
theorem Expects.transition (held : machine.Expects switch) (unopened : event ≠ .switchOpened)
    (reported : event = .switchClosed →
      machine.phase = .closeWait ∨ machine.phase = .closed ∧ machine.cyclePhase = .opened →
      switch.Conducts)
    (kept : machine.Leaves event (machine.transition clock event switch now).1 →
      ¬ switch.Unreported) :
    (machine.transition clock event switch now).1.Expects
      (machine.transition clock event switch now).2 := by
  cases phase : machine.phase with
  | undefined => simpa [Lifecycle.transition_of_undefined, phase] using held
  | opened =>
      have closes := (expects_of_opened phase).mp held
      cases event with
      | closeCommand =>
          simp only [Lifecycle.transition, phase]
          exact (expects_of_supplyWait rfl).mpr closes
      | _ => simpa [Lifecycle.transition, phase] using held
  | supplyWait =>
      have closes := (expects_of_supplyWait phase).mp held
      cases event with
      | openCommand =>
          simp only [Lifecycle.transition, phase]
          exact (expects_of_opened rfl).mpr closes
      | zeroCrossing =>
          simp only [Lifecycle.transition, phase]
          exact (@expects_of_supplyWait machine.countCrossing _ phase).mpr closes
      | supplyTimerExpired =>
          simp only [Lifecycle.transition, phase]
          unfold classifySupply
          dsimp only
          split
          · exact (expects_of_closeWait rfl).mpr closes
          · exact (expects_of_closeWait (phase_reclose _ switch)).mpr (reclose_closes closes)
      | _ => simpa [Lifecycle.transition, phase] using held
  | closeWait =>
      have closes := (expects_of_closeWait phase).mp held
      have recloses (cancelled : Lifecycle) (still : cancelled.phase = .closeWait) :
          (cancelled.reclose switch).1.Expects (cancelled.reclose switch).2 :=
        (expects_of_closeWait ((phase_reclose cancelled switch).trans still)).mpr
          (reclose_closes closes)
      cases event with
      | openCommand =>
          simp only [Lifecycle.transition, phase]
          exact releaseSwitch_expects (fun on => (closes.conducts on).opens) fun _ => closes
      | recoveryTimerExpired =>
          simp only [Lifecycle.transition, phase]
          exact recloses _ rfl
      | zeroCrossing =>
          simp only [Lifecycle.transition, phase]
          exact recloses _ rfl
      | switchClosed =>
          simp only [Lifecycle.transition, phase]
          exact (expects_of_closed rfl).mpr ((reported rfl (.inl phase)).expects _)
      | _ => simpa [Lifecycle.transition, phase] using held
  | closed =>
      exact transition_expects_of_closed clock now phase held unopened
        (fun reports opened => reported reports (.inr ⟨phase, opened⟩)) kept
  | openWait =>
      have opens := (expects_of_openWait phase).mp held
      cases event with
      | zeroCrossing =>
          simp only [Lifecycle.transition, phase]
          exact (expects_of_openWait phase).mpr opens.turnOff
      | switchOpened => exact absurd rfl unopened
      | _ => simpa [Lifecycle.transition, phase] using held

private theorem modeEvent_switchOpened_expects (closed : machine.phase = .closed)
    (cycle : machine.cyclePhase = .closed) (closes : switch.Closes) :
    (machine.modeEvent .switchOpened switch).1.Expects
      (machine.modeEvent .switchOpened switch).2 := by
  have cycling : machine.activeMode = .modulated ∧ machine.acSupply = true := by
    by_contra idle
    rw [cyclePhase, if_neg idle] at cycle
    cases cycle
  rw [cyclePhase, if_pos cycling] at cycle
  unfold modeEvent
  rw [if_neg (not_not_intro closed)]
  by_cases changed : machine.activeMode = machine.recovery.mode
  · rw [if_neg (not_not_intro changed), if_pos cycling]
    simp only [Modulation.handle, cycle]
    refine (@expects_of_closed
      { machine with modulation := { machine.modulation with phase := .opened } } _ closed).mpr ?_
    rw [cyclePhase, if_pos cycling]
    exact closes
  · rw [if_pos changed]
    exact leaveMode_expects closed closes

/-- A reported opening leaves the switch at rest, as every machine that waited for it expects. -/
theorem transition_switchOpened_expects (rests : switch.Rests)
    (awaited : machine.phase = .openWait ∨
      machine.phase = .closed ∧ machine.cyclePhase = .closed) :
    (machine.transition clock .switchOpened switch now).1.Expects
      (machine.transition clock .switchOpened switch now).2 := by
  have closes := rests.closes
  rcases awaited with opening | ⟨closed, cycle⟩
  · simp only [Lifecycle.transition, opening]
    exact (expects_of_opened rfl).mpr closes
  · obtain ⟨phase, reason, filter, attemptsLeft, timers, noticePending, same⟩ :=
      handleOpening_machine machine switch clock now
    have left := handleOpening_phase machine switch clock now
    have moves : machine.closedTransition clock .switchOpened switch now =
        (machine.handleOpening clock switch now, switch) := rfl
    by_cases still : (machine.handleOpening clock switch now).phase = .closed
    · rw [transition_of_closed machine clock _ switch now closed, moves]
      refine modeEvent_switchOpened_expects still ?_ closes
      rw [same]
      exact cycle
    · rw [transition_of_closed_left machine clock _ switch now closed (by rw [moves]; exact still),
        moves]
      rcases left with kept | waiting | opened
      · exact absurd (kept.trans closed) still
      · exact (expects_of_closeWait waiting).mpr closes
      · exact (expects_of_opened opened).mpr closes

/-!
## The switch on its own
-/

/-- What keeps every expectation of a switch keeps that of a machine. -/
theorem Expects.map {next : TardySwitch} (held : machine.Expects switch)
    (conducts : switch.Conducts → next.Conducts) (opens : switch.Opens → next.Opens)
    (closes : switch.Closes → next.Closes) : machine.Expects next := by
  unfold Expects at held ⊢
  split at held
  · exact opens held
  · cases cycle : machine.cyclePhase with
    | disabled =>
        rw [cycle] at held
        exact conducts held
    | closed =>
        rw [cycle] at held
        exact opens held
    | opened =>
        rw [cycle] at held
        exact closes held
  · exact closes held

/-- What a change of position that is reported next tells a machine. -/
theorem Expects.report {closed : Bool} {rest : List Bool} (held : machine.Expects switch)
    (edges : switch.edges = closed :: rest) :
    closed = true ∧ machine.Expects { switch with edges := rest } ∧
        (machine.phase = .closeWait ∨ machine.phase = .closed ∧ machine.cyclePhase = .opened →
          { switch with edges := rest }.Conducts) ∨
      closed = false ∧ { switch with edges := rest }.Rests ∧
        (machine.phase = .openWait ∨ machine.phase = .closed ∧ machine.cyclePhase = .closed) := by
  have conducting (conducts : { switch with edges := rest }.Conducts)
      (expects : machine.Expects { switch with edges := rest }) (on : closed = true) :
      closed = true ∧ machine.Expects { switch with edges := rest } ∧
        (machine.phase = .closeWait ∨ machine.phase = .closed ∧ machine.cyclePhase = .opened →
          { switch with edges := rest }.Conducts) :=
    ⟨on, expects, fun _ => conducts⟩
  unfold Expects at held ⊢
  split at held
  · next opening =>
    rcases held.report edges with ⟨on, opens⟩ | ⟨off, rests⟩
    · exact .inl ⟨on, opens, by simp [opening]⟩
    · exact .inr ⟨off, rests, .inl opening⟩
  · next shut =>
    cases cycle : machine.cyclePhase with
    | disabled =>
        rw [cycle] at held
        obtain ⟨on, conducts⟩ := TardySwitch.Conducts.report held edges
        exact .inl ⟨on, conducts, fun _ => conducts⟩
    | closed =>
        rw [cycle] at held
        rcases TardySwitch.Opens.report held edges with ⟨on, opens⟩ | ⟨off, rests⟩
        · exact .inl ⟨on, opens, by simp [shut]⟩
        · exact .inr ⟨off, rests, .inr ⟨shut, rfl⟩⟩
    | opened =>
        rw [cycle] at held
        obtain ⟨on, conducts⟩ := TardySwitch.Closes.report held edges
        exact .inl ⟨on, conducts.closes, fun _ => conducts⟩
  · obtain ⟨on, conducts⟩ := TardySwitch.Closes.report held edges
    exact .inl ⟨on, conducts.closes, fun _ => conducts⟩

/-- A closed machine with a steady mode stays as it is, its timers apart, whatever position the
switch reports. -/
theorem transition_steady (closed : machine.phase = .closed)
    (mode : machine.recovery.mode = .steady) (activeMode : machine.activeMode = .steady)
    (external : switch.cause = .external) (position : Bool) :
    ∃ timers, machine.transition clock (Input.switchChanged position).event switch now =
      ({ machine with timers }, switch) := by
  have unmoded (timers : TimerBank) (event : Event) :
      Lifecycle.modeEvent { machine with timers } event switch =
        ({ machine with timers }, switch) := by
    simp [modeEvent, closed, mode, activeMode]
  rw [transition_of_closed machine clock _ switch now closed]
  cases position with
  | true => exact ⟨machine.timers, unmoded machine.timers _⟩
  | false =>
      have commanded : SwitchDriver.cause switch = .external := external
      refine ⟨machine.timers.cancel .recoveryReset, ?_⟩
      simp only [Input.event, closedTransition, handleOpening, commanded]
      exact unmoded _ _

end Lifecycle

namespace Application

variable {ζ μ κ : Type}

/-- A closed breaker leaves its mode or comes to rest, while an opening is under way or has not
been reported. -/
def LeavesUnreported (application : Application TardySwitch ζ μ κ) : Prop :=
  application.before.lifecycle.Leaves application.event application.after.lifecycle ∧
    application.before.switch.Unreported

instance (application : Application TardySwitch ζ μ κ) : Decidable application.LeavesUnreported :=
  inferInstanceAs (Decidable (_ ∧ _))

end Application

namespace Breaker

variable {ζ μ κ : Type}

/-- Closed with a steady mode over a switch that is off, and nothing left to happen to it. -/
structure Stranded (breaker : Breaker TardySwitch ζ μ κ) : Prop where
  quiescent : breaker.switch.Quiescent
  phase : breaker.lifecycle.phase = .closed
  mode : breaker.lifecycle.recovery.mode = .steady
  activeMode : breaker.lifecycle.activeMode = .steady
  off : breaker.switch.on = false

/-!
## Along the events of a session
-/

private theorem expects_apply {application : Application TardySwitch ζ μ κ}
    (session : application.before.InSession)
    (applied : application.before.apply application.event application.now = .ok application.after)
    (held : application.before.lifecycle.Expects application.before.switch)
    (unopened : application.event ≠ .switchOpened)
    (reported : application.event = .switchClosed →
      application.before.lifecycle.phase = .closeWait ∨
        application.before.lifecycle.phase = .closed ∧
          application.before.lifecycle.cyclePhase = .opened →
      application.before.switch.Conducts)
    (kept : ¬ application.LeavesUnreported) :
    application.after.lifecycle.Expects application.after.switch := by
  obtain ⟨before, event, now, after⟩ := application
  dsimp only at session applied held unopened reported
  have reacts := session.reacts applied
  have leaves : ¬ (before.lifecycle.Leaves event
      (before.lifecycle.respond before.clock event before.switch now).1 ∧
        before.switch.Unreported) := by
    intro left
    apply kept
    refine ⟨?_, left.2⟩
    dsimp only
    rw [reacts.lifecycle]
    exact left.1
  have answered : (before.lifecycle.respond before.clock event before.switch now).1.Expects
      (before.lifecycle.respond before.clock event before.switch now).2 := by
    unfold Lifecycle.respond at leaves ⊢
    split
    · exact held
    · next heard =>
      rw [if_neg heard] at leaves
      exact held.transition before.clock now unopened reported (not_and.mp leaves)
  dsimp only
  rw [reacts.lifecycle, reacts.switch]
  exact answered

private theorem expects_course {action : Action TardySwitch ζ μ κ} {now : Nat}
    {breaker final : Breaker TardySwitch ζ μ κ} {trail : List (Application TardySwitch ζ μ κ)}
    (course : Course action now breaker trail final) (session : breaker.InSession)
    (held : breaker.lifecycle.Expects breaker.switch)
    (silent : ∀ application ∈ trail,
      application.event ≠ .switchOpened ∧ application.event ≠ .switchClosed)
    (kept : ∀ application ∈ trail, ¬ application.LeavesUnreported) :
    final.lifecycle.Expects final.switch := by
  induction course with
  | rest breaker => exact held
  | aside monitor lastSeen later ih =>
      exact ih ⟨session.initialized, session.ready⟩ held silent kept
  | raise raised applied later ih =>
      obtain ⟨still, silent⟩ := List.forall_mem_cons.mp silent
      obtain ⟨first, kept⟩ := List.forall_mem_cons.mp kept
      exact ih (session.applied applied)
        (expects_apply session applied held still.1 (fun reports => absurd reports still.2) first)
        silent kept
  | expire timer polling due applied later ih =>
      obtain ⟨still, silent⟩ := List.forall_mem_cons.mp silent
      obtain ⟨first, kept⟩ := List.forall_mem_cons.mp kept
      have inside := session.disarm timer
      exact ih (inside.applied applied)
        (expects_apply inside applied held still.1 (fun reports => absurd reports still.2) first)
        silent kept

variable [Mains ζ] [Meter μ] [RecordStore κ]

section Happenings

variable {breaker : Breaker TardySwitch ζ μ κ} (session : breaker.InSession)
  (held : breaker.lifecycle.Expects breaker.switch)
include session held

private theorem expects_act {action : Action TardySwitch ζ μ κ}
    (unadjusted : ∀ adjustment, action ≠ .adjust adjustment)
    (unreported : ∀ closed now, action ≠ .input (.switchChanged closed) now)
    (kept : ∀ application ∈ breaker.appliedAlong ([action].map .act),
      ¬ application.LeavesUnreported) :
    (breaker.run [action]).lifecycle.Expects (breaker.run [action]).switch := by
  rw [List.map_singleton, appliedAlong, appliedAlong, List.append_nil] at kept
  rcases session.course action with ⟨adjustment, adjusts⟩ | ⟨now, course⟩
  · exact absurd adjusts (unadjusted adjustment)
  · refine expects_course course session held (fun application member => ?_) kept
    rcases course.raised application member with ⟨phase, raised⟩ | ⟨timer, expired⟩
    · cases action with
      | input input instant =>
          cases input with
          | switchChanged closed => exact absurd rfl (unreported closed instant)
          | _ =>
              rw [show application.event = _ from raised]
              simp [Input.event]
      | poll instant => simp [raised.2]
      | adjust adjustment => exact absurd rfl (unadjusted adjustment)
    · rw [expired]
      cases timer <;> simp [TimerId.event]

omit [Mains ζ] session in
private theorem expects_adjust (adjustment : Adjustment Unit ζ μ κ) :
    (breaker.run [.adjust adjustment.tardy]).lifecycle.Expects
      (breaker.run [.adjust adjustment.tardy]).switch := by
  have switch := switch_adjust_tardy breaker adjustment
  rw [Breaker.run, List.foldl_cons, List.foldl_nil, act, switch]
  rcases lifecycle_adjust adjustment.tardy breaker with same | ⟨settings, _, configured⟩ |
    ⟨settings, _, configured⟩
  · rw [same]
    exact held
  · unfold Lifecycle.configure at configured
    split at configured
    · rw [← Except.ok.inj configured]
      exact held
    · cases configured
  · unfold Lifecycle.configureModulation at configured
    split at configured
    · next modulation accepted =>
      rw [← Except.ok.inj configured]
      unfold Lifecycle.Expects Lifecycle.cyclePhase at held ⊢
      dsimp only
      rw [Modulation.phase_configure accepted]
      exact held
    · cases configured

private theorem expects_report (now : Nat)
    (kept : ∀ application ∈ breaker.appliedIn (.report now), ¬ application.LeavesUnreported) :
    (breaker.happen (.report now)).lifecycle.Expects (breaker.happen (.report now)).switch := by
  unfold appliedIn at kept
  unfold happen
  cases edges : breaker.switch.edges with
  | nil =>
      simp only [actionsOf, edges]
      exact held
  | cons closed rest =>
      simp only [actionsOf, edges] at kept ⊢
      let told : Breaker TardySwitch ζ μ κ :=
        { breaker with switch := { breaker.switch with edges := rest } }
      have inside : told.InSession := ⟨session.initialized, session.ready⟩
      have run : breaker.run [.adjust (.surroundings ({ · with edges := rest }) id id id),
          .input (.switchChanged closed) now] = told.act (.input (.switchChanged closed) now) := rfl
      have trail : breaker.appliedAlong
          ([.adjust (.surroundings ({ · with edges := rest }) id id id),
            .input (.switchChanged closed) now].map .act) =
            told.applied (.act (.input (.switchChanged closed) now)) := by
        simp only [List.map_cons, List.map_nil, appliedAlong, List.append_nil]
        rfl
      rw [trail] at kept
      rw [run]
      rcases held.report edges with ⟨rfl, expects, conducts⟩ | ⟨rfl, rests, awaited⟩
      · obtain ⟨after, applied, _⟩ := inside.apply .switchClosed now
        have acted : told.act (.input (.switchChanged true) now) = after := by
          have handled : told.handleInput (.switchChanged true) now = .ok after := applied
          rw [act, handled, afterCall]
        have single : told.applied (.act (.input (.switchChanged true) now)) =
            [⟨told, .switchClosed, now, after⟩] := by
          simp [Breaker.applied, appliedInput, appliedEvent, Input.event, applied]
        rw [acted]
        exact @expects_apply _ _ _ ⟨told, .switchClosed, now, after⟩ inside applied expects
          (by simp) (fun _ => conducts) (kept _ (by simp [single]))
      · obtain ⟨after, applied, reacts, _⟩ := inside.apply .switchOpened now
        have acted : told.act (.input (.switchChanged false) now) = after := by
          have handled : told.handleInput (.switchChanged false) now = .ok after := applied
          rw [act, handled, afterCall]
        have answered := Lifecycle.transition_switchOpened_expects told.clock now rests awaited
        rw [acted, reacts.lifecycle, reacts.switch,
          inside.ready.respond_of_ne _ _ _ _ (by simp)]
        exact answered

/-- Whatever happens leaves the switch as the breaker expects it, unless the breaker leaves its
mode over an opening that it has not been told of. -/
private theorem expects_happen (happening : Happening ζ μ κ)
    (kept : ∀ application ∈ breaker.appliedIn happening, ¬ application.LeavesUnreported) :
    (breaker.happen happening).lifecycle.Expects (breaker.happen happening).switch := by
  cases happening with
  | follow =>
      exact held.map TardySwitch.Conducts.follow TardySwitch.Opens.follow TardySwitch.Closes.follow
  | report now => exact expects_report session held now kept
  | refuse refusal =>
      exact held.map (fun conducts => ⟨conducts.on, conducts.edges, conducts.underway⟩)
        (fun opens => ⟨opens.edges, opens.unreported, opens.underway, opens.ordered⟩)
        (fun closes => ⟨closes.edges, closes.reported, closes.underway, closes.ordered⟩)
  | crossing now => exact expects_act session held (by simp) (by simp) kept
  | openRequest now => exact expects_act session held (by simp) (by simp) kept
  | closeRequest now => exact expects_act session held (by simp) (by simp) kept
  | poll now => exact expects_act session held (by simp) (by simp) kept
  | adjust adjustment => exact expects_adjust held adjustment

end Happenings

omit [Meter μ] in
/-- A session over a switch at rest starts with the switch as the breaker expects it. -/
private theorem expects_init {breaker : Breaker TardySwitch ζ μ κ}
    (fresh : breaker.initialized = false) (quiescent : breaker.switch.Quiescent) (now : Nat) :
    (breaker.init now).lifecycle.Expects (breaker.init now).switch := by
  have switch : (breaker.init now).switch = breaker.switch := by
    obtain ⟨limited, rfl | ⟨limit, accepted⟩, switch⟩ := init_switch fresh now
    · exact switch
    · rw [switch]
      exact (Except.ok.inj accepted).symm
  obtain ⟨_, recovery, settings, lifecycle⟩ := init_fresh fresh now
  rw [lifecycle, switch]
  rcases Bool.eq_false_or_eq_true breaker.switch.on with on | off
  · have isOn : SwitchDriver.isOn breaker.switch = true := on
    refine (Lifecycle.expects_of_closed (if_pos isOn)).mpr ?_
    exact ⟨on, by simp [quiescent.2], by simp [quiescent.1]⟩
  · have isOff : ¬ SwitchDriver.isOn breaker.switch = true := by
      intro on
      cases off.symm.trans on
    refine (Lifecycle.expects_of_opened (if_neg isOff)).mpr ?_
    exact ⟨by simp [quiescent.2], fun _ => quiescent.2, by simp [quiescent.1],
      by simp [quiescent.1]⟩

private theorem expects_undergo {start : Breaker TardySwitch ζ μ κ} (session : start.InSession)
    (held : start.lifecycle.Expects start.switch) (happenings : List (Happening ζ μ κ))
    (kept : Throughout happen (fun breaker happening =>
      ∀ application ∈ breaker.appliedIn happening, ¬ application.LeavesUnreported)
      start happenings) :
    (start.undergo happenings).lifecycle.Expects (start.undergo happenings).switch := by
  induction happenings generalizing start with
  | nil => exact held
  | cons happening rest ih =>
      exact ih (session.happen happening) (expects_happen session held happening kept.1) kept.2

/-!
## How a breaker is stranded
-/

omit [Mains ζ] in
theorem undergo_append (start : Breaker TardySwitch ζ μ κ) (first second : List (Happening ζ μ κ)) :
    start.undergo (first ++ second) = (start.undergo first).undergo second :=
  List.foldl_append

omit [Mains ζ] in
/-- A switch that follows every command under way ends where the last one sends it. -/
private theorem undergo_follow (commands : List Bool) (breaker : Breaker TardySwitch ζ μ κ)
    (underway : breaker.switch.underway = commands) :
    ∃ switch : TardySwitch,
      breaker.undergo (List.replicate commands.length .follow) = { breaker with switch } ∧
        switch.underway = [] ∧ switch.cause = breaker.switch.cause ∧
        switch.on = commands.getLast?.getD breaker.switch.on := by
  induction commands generalizing breaker with
  | nil => exact ⟨breaker.switch, rfl, underway, rfl, rfl⟩
  | cons command rest ih =>
      have followed : breaker.happen .follow =
          { breaker with switch := breaker.switch.follow } := rfl
      obtain ⟨switch, undergone, none, cause, on⟩ := ih (breaker.happen .follow) (by
        rw [followed]
        simp only [TardySwitch.follow, underway])
      refine ⟨switch, ?_, none, ?_, ?_⟩
      · exact undergone
      · rw [cause, followed]
        simp only [TardySwitch.follow, underway]
      · rw [on, followed, List.getLast?_cons]
        simp only [TardySwitch.follow, underway, Option.getD_some]

omit [Mains ζ] in
private theorem undergo_report (now : Nat) (edges : List Bool)
    {breaker : Breaker TardySwitch ζ μ κ} (session : breaker.InSession)
    (unreported : breaker.switch.edges = edges)
    (closed : breaker.lifecycle.phase = .closed)
    (mode : breaker.lifecycle.recovery.mode = .steady)
    (activeMode : breaker.lifecycle.activeMode = .steady)
    (external : breaker.switch.cause = .external) (idle : breaker.switch.underway = [])
    (off : breaker.switch.on = false) :
    (breaker.undergo (List.replicate edges.length (.report now))).Stranded := by
  induction edges generalizing breaker with
  | nil => exact ⟨⟨idle, unreported⟩, closed, mode, activeMode, off⟩
  | cons position rest ih =>
      let told : Breaker TardySwitch ζ μ κ :=
        { breaker with switch := { breaker.switch with edges := rest } }
      have inside : told.InSession := ⟨session.initialized, session.ready⟩
      obtain ⟨after, accepted, ⟨_, other, _⟩ | ⟨reacts, _⟩⟩ :=
        inside.handleInput (.switchChanged position) now
      · cases other
      · have happened : breaker.happen (.report now) = after := by
          simp only [happen, actionsOf, unreported]
          have acted : told.act (.input (.switchChanged position) now) = after := by
            rw [act, accepted, afterCall]
          exact acted
        obtain ⟨timers, answered⟩ := @Lifecycle.transition_steady told.lifecycle told.switch
          told.clock now closed mode activeMode external position
        have moved : told.lifecycle.respond told.clock (Input.switchChanged position).event
            told.switch now = ({ told.lifecycle with timers }, told.switch) := by
          rw [inside.ready.respond_of_ne _ _ _ _ (by cases position <;> simp [Input.event])]
          exact answered
        have lifecycle := reacts.lifecycle
        have switch := reacts.switch
        rw [moved] at lifecycle switch
        have later := session.happen (.report now)
        rw [happened] at later
        have stranded := ih later (by rw [switch]) (by rw [lifecycle]; exact closed)
          (by rw [lifecycle]; exact mode) (by rw [lifecycle]; exact activeMode)
          (by rw [switch]; exact external) (by rw [switch]; exact idle) (by rw [switch]; exact off)
        rw [← happened] at stranded
        exact stranded

omit [Mains ζ] in
private theorem undergo_strands (now : Nat) {left : Breaker TardySwitch ζ μ κ}
    (session : left.InSession) (closed : left.lifecycle.phase = .closed)
    (mode : left.lifecycle.recovery.mode = .steady)
    (activeMode : left.lifecycle.activeMode = .steady) (external : left.switch.cause = .external)
    (last : left.switch.underway.getLast? = some false) :
    ∃ rest : List (Happening ζ μ κ),
      (∀ happening ∈ rest, happening = .follow ∨ happening = .report now) ∧
        (left.undergo rest).Stranded := by
  obtain ⟨switch, followed, idle, cause, on⟩ := undergo_follow left.switch.underway left rfl
  have settled := session.undergo (List.replicate left.switch.underway.length .follow)
  rw [followed] at settled
  rw [last] at on
  refine ⟨List.replicate left.switch.underway.length .follow ++
    List.replicate switch.edges.length (.report now), ?_, ?_⟩
  · intro happening member
    rcases List.mem_append.mp member with follows | reports
    · exact .inl (List.eq_of_mem_replicate follows)
    · exact .inr (List.eq_of_mem_replicate reports)
  · rw [undergo_append, followed]
    exact undergo_report now switch.edges settled rfl closed mode activeMode
      (cause.trans external) idle on

/-- No closed breaker with a steady mode is stranded, unless it has left its mode, or come to rest,
over an opening that is under way or unreported. One that has left it while the last command
under way is to open is stranded by no more than what its switch does. -/
theorem stranded_through_unreported {breaker : Breaker TardySwitch ζ μ κ}
    (fresh : breaker.initialized = false) (quiescent : breaker.switch.Quiescent) (now : Nat)
    (happenings : List (Happening ζ μ κ)) :
    (Throughout happen (fun breaker happening =>
        ∀ application ∈ breaker.appliedIn happening, ¬ application.LeavesUnreported)
        (breaker.init now) happenings →
      ¬ ((breaker.init now).undergo happenings).Stranded) ∧
    ∀ instant, ((breaker.init now).undergo happenings).lifecycle.phase = .closed →
      ((breaker.init now).undergo happenings).lifecycle.recovery.mode = .steady →
      ((breaker.init now).undergo happenings).lifecycle.activeMode = .steady →
      ((breaker.init now).undergo happenings).switch.cause = .external →
      ((breaker.init now).undergo happenings).switch.underway.getLast? = some false →
      ∃ rest, (∀ happening ∈ rest, happening = .follow ∨ happening = .report instant) ∧
        ((breaker.init now).undergo (happenings ++ rest)).Stranded := by
  have session := (init_of_fresh fresh now).1
  constructor
  · intro kept stranded
    have held := expects_init fresh quiescent now
    have expects := expects_undergo session held happenings kept
    rw [Lifecycle.expects_of_closed stranded.phase, Lifecycle.cyclePhase,
      if_neg (by simp [stranded.activeMode])] at expects
    have conducts : ((breaker.init now).undergo happenings).switch.Conducts := expects
    cases conducts.on.symm.trans stranded.off
  · intro instant closed mode activeMode external last
    have inside := session.undergo happenings
    obtain ⟨rest, own, stranded⟩ :=
      undergo_strands instant inside closed mode activeMode external last
    refine ⟨rest, own, ?_⟩
    rw [undergo_append]
    exact stranded

open Bench

abbrev BenchHappening := Happening ScriptedMains ScriptedMeter (FramedStore FaultyMemory)

def tardyBench : Breaker TardySwitch ScriptedMains ScriptedMeter (FramedStore FaultyMemory) :=
  .ofParts .micros {} {} {} { storage := .erased 0 0 }

def cycling : List BenchHappening :=
  [.adjust (.recovery { mode := .modulated }),
    .adjust (.modulation { whileClosed := 1, period := 2 }), .closeRequest 0, .crossing 20000,
    .crossing 30000, .crossing 40000, .crossing 50000, .poll 200000, .crossing 210000, .follow,
    .report 210000, .crossing 220000, .crossing 230000, .crossing 240000]

/-- The opening is reported before the mode is left, and the switch is closed again. -/
def leftAfterReport : List BenchHappening :=
  cycling ++ [.follow, .report 240000, .adjust (.recovery {}), .crossing 250000, .crossing 260000,
    .follow, .report 260000]

/-- The mode is left while the command to open is under way. -/
def leftUnderway : List BenchHappening :=
  cycling ++ [.adjust (.recovery {}), .crossing 250000]

/-- A breaker that has left the mode after the report ends closed, with a steady mode, and is not
stranded; one that has left it before has nothing but its switch to wait for. -/
theorem stranded_without_report :
    (((tardyBench.init 0).undergo leftAfterReport).lifecycle.phase = .closed ∧
      ((tardyBench.init 0).undergo leftAfterReport).lifecycle.activeMode = .steady ∧
      ((tardyBench.init 0).undergo leftAfterReport).switch.Quiescent ∧
      ¬ ((tardyBench.init 0).undergo leftAfterReport).Stranded) ∧
    ∃ rest, (∀ happening ∈ rest, happening = .follow ∨ happening = .report 250000) ∧
      ((tardyBench.init 0).undergo (leftUnderway ++ rest)).Stranded := by
  refine ⟨⟨by decide +kernel, by decide +kernel, by decide +kernel, ?_⟩, ?_⟩
  · exact (stranded_through_unreported rfl ⟨rfl, rfl⟩ 0 leftAfterReport).1 (by decide +kernel)
  · exact (stranded_through_unreported rfl ⟨rfl, rfl⟩ 0 leftUnderway).2 250000 (by decide +kernel)
      (by decide +kernel) (by decide +kernel) (by decide +kernel) (by decide +kernel)

/-- The switch follows, its report is ignored, and the breaker is stranded. -/
theorem stranded_underway :
    ((tardyBench.init 0).undergo (leftUnderway ++ [.follow, .report 250000])).Stranded :=
  ⟨by decide +kernel, by decide +kernel, by decide +kernel, by decide +kernel, by decide +kernel⟩

end Breaker

end CircuitBreaker
