import CircuitBreaker.Proofs.Run

/-!
# Applied events

The events that a step of a run applies to a breaker, each with the breaker that meets it
and the breaker after it. Between two events a step only tells an instant, disarms the
timer whose event comes next and changes the monitor.
-/

set_option autoImplicit false

namespace CircuitBreaker

structure Application (σ ζ μ κ : Type) where
  before : Breaker σ ζ μ κ
  event : Event
  now : Nat
  after : Breaker σ ζ μ κ

namespace Breaker

variable {σ ζ μ κ : Type} [SwitchDriver σ]

/-!
## The events of a step
-/

def appliedEvent (breaker : Breaker σ ζ μ κ) (event : Event) (now : Nat) :
    List (Application σ ζ μ κ) :=
  match breaker.apply event now with
  | .ok after => [⟨breaker, event, now, after⟩]
  | .error _ => []

def appliedInput (breaker : Breaker σ ζ μ κ) (input : Input) (now : Nat) :
    List (Application σ ζ μ κ) :=
  match input with
  | .closeRequest =>
      if breaker.lifecycle.phase = .closed then []
      else { breaker with monitor := breaker.monitor.reset }.appliedEvent .closeCommand now
  | input => breaker.appliedEvent input.event now

def appliedTimers (now : Nat) : Nat → Breaker σ ζ μ κ → List (Application σ ζ μ κ)
  | 0, _ => []
  | rounds + 1, breaker =>
      match breaker.lifecycle.takeExpired now with
      | (none, _) => []
      | (some event, lifecycle) =>
          match { breaker with lifecycle }.apply event now with
          | .ok after =>
              ⟨{ breaker with lifecycle }, event, now, after⟩ :: appliedTimers now rounds after
          | .error _ => []

section Steps

variable [Meter μ]

def appliedTick (breaker : Breaker σ ζ μ κ) (now : Nat) : List (Application σ ζ μ κ) :=
  match breaker.dueTicks now with
  | (none, _) => []
  | (some _, monitor) => { breaker with monitor }.appliedEvent .overCurrentDuration now

def appliedPoll (breaker : Breaker σ ζ μ κ) (now : Nat) : List (Application σ ζ μ κ) :=
  (breaker.told now).appliedTimers now TimerId.all.length ++
    match (breaker.told now).fireTimers now TimerId.all.length with
    | .ok fired => fired.appliedTick now
    | .error _ => []

def applied (breaker : Breaker σ ζ μ κ) : Step σ ζ μ κ → List (Application σ ζ μ κ)
  | .act (.input input now) => breaker.appliedInput input now
  | .act (.poll now) => breaker.appliedPoll now
  | .act (.adjust _) | .init _ | .shutdown => []

/-- The events that are applied in the course of some steps, in order. -/
def appliedAlong [Mains ζ] [RecordStore κ] (breaker : Breaker σ ζ μ κ) :
    List (Step σ ζ μ κ) → List (Application σ ζ μ κ)
  | [] => []
  | step :: rest => breaker.applied step ++ (breaker.step step).appliedAlong rest

end Steps

/-- An event that an action raises in a phase: the one of the input, or the trip of a tick
that finds the breaker closed. -/
def Raises (phase : Phase) (event : Event) : Action σ ζ μ κ → Prop
  | .input input _ => event = input.event
  | .poll _ => phase = .closed ∧ event = .overCurrentDuration
  | .adjust _ => False

inductive Course (action : Action σ ζ μ κ) (now : Nat) :
    Breaker σ ζ μ κ → List (Application σ ζ μ κ) → Breaker σ ζ μ κ → Prop where
  | rest (breaker : Breaker σ ζ μ κ) : Course action now breaker [] breaker
  | aside {before final : Breaker σ ζ μ κ} {trail : List (Application σ ζ μ κ)}
      (monitor : Monitor) (lastSeen : Option Nat)
      (later : Course action now { before with monitor, lastSeen } trail final) :
      Course action now before trail final
  | raise {before after final : Breaker σ ζ μ κ} {trail : List (Application σ ζ μ κ)}
      {event : Event} (raised : Raises before.lifecycle.phase event action)
      (applied : before.apply event now = .ok after) (later : Course action now after trail final) :
      Course action now before (⟨before, event, now, after⟩ :: trail) final
  | expire {before after final : Breaker σ ζ μ κ} {trail : List (Application σ ζ μ κ)}
      (timer : TimerId) (polling : action = .poll now)
      (due : before.lifecycle.timers.firstDue now = some timer)
      (applied : (before.disarm timer).apply timer.event now = .ok after)
      (later : Course action now after trail final) :
      Course action now before (⟨before.disarm timer, timer.event, now, after⟩ :: trail) final

omit [SwitchDriver σ] in
theorem opening_of_raises {phase : Phase} {action : Action σ ζ μ κ}
    (raised : Raises phase .switchOpened action) :
    ∃ now, action = .input (.switchChanged false) now := by
  cases action with
  | input input now =>
      cases input with
      | switchChanged closed =>
          cases closed with
          | false => exact ⟨now, rfl⟩
          | true => cases raised
      | _ => cases raised
  | poll now => cases raised.2
  | adjust adjustment => cases raised

/-- The events of an action are the ones that it raises and those of the timers. -/
theorem Course.raised {action : Action σ ζ μ κ} {now : Nat} {breaker final : Breaker σ ζ μ κ}
    {trail : List (Application σ ζ μ κ)} (course : Course action now breaker trail final) :
    ∀ application ∈ trail, (∃ phase, Raises phase application.event action) ∨
      ∃ timer : TimerId, application.event = timer.event := by
  induction course with
  | rest breaker => exact List.forall_mem_nil _
  | aside monitor lastSeen later ih => exact ih
  | raise raised applied later ih => exact List.forall_mem_cons.mpr ⟨.inl ⟨_, raised⟩, ih⟩
  | expire timer polling due applied later ih =>
      exact List.forall_mem_cons.mpr ⟨.inr ⟨timer, rfl⟩, ih⟩

section Sessions

omit [SwitchDriver σ] in
theorem InSession.watch {breaker : Breaker σ ζ μ κ} (session : breaker.InSession)
    (monitor : Monitor) : ({ breaker with monitor } : Breaker σ ζ μ κ).InSession :=
  ⟨session.initialized, session.ready⟩

variable {breaker : Breaker σ ζ μ κ} (session : breaker.InSession)
include session

theorem InSession.reacts {event : Event} {now : Nat} {after : Breaker σ ζ μ κ}
    (applied : breaker.apply event now = .ok after) : breaker.Reacts event now after := by
  obtain ⟨same, accepted, reacts, _⟩ := session.apply event now
  rw [applied] at accepted
  cases accepted
  exact reacts

theorem InSession.applied {event : Event} {now : Nat} {after : Breaker σ ζ μ κ}
    (applied : breaker.apply event now = .ok after) : after.InSession :=
  (session.reacts applied).inSession session

/-- A round finds no timer due, or hands over the event of the one that is due first. -/
theorem InSession.fireTimers_succ (now rounds : Nat) :
    (breaker.lifecycle.timers.firstDue now = none ∧
        breaker.fireTimers now (rounds + 1) = .ok breaker ∧
        breaker.appliedTimers now (rounds + 1) = []) ∨
      ∃ timer after, breaker.lifecycle.timers.firstDue now = some timer ∧
        (breaker.disarm timer).apply timer.event now = .ok after ∧
        breaker.fireTimers now (rounds + 1) = after.fireTimers now rounds ∧
        breaker.appliedTimers now (rounds + 1) =
          ⟨breaker.disarm timer, timer.event, now, after⟩ :: after.appliedTimers now rounds := by
  cases due : breaker.lifecycle.timers.firstDue now with
  | none =>
      have expired := takeExpired_of_none due
      exact .inl ⟨rfl, by rw [Breaker.fireTimers, expired], by rw [appliedTimers, expired]⟩
  | some timer =>
      have expired := takeExpired_of_some due
      have disarmed : { breaker with lifecycle := (breaker.disarm timer).lifecycle } =
          breaker.disarm timer := rfl
      obtain ⟨after, applied, _⟩ := (session.disarm timer).apply timer.event now
      refine .inr ⟨timer, after, rfl, applied, ?_, ?_⟩
      · rw [Breaker.fireTimers, expired]
        dsimp only
        rw [disarmed, applied]
        rfl
      · rw [appliedTimers, expired]
        dsimp only
        rw [disarmed, applied]

private theorem appliedTimers_course (now rounds : Nat) :
    ∃ fired, breaker.fireTimers now rounds = .ok fired ∧ fired.InSession ∧
      ∀ trail final, Course (.poll now) now fired trail final →
        Course (.poll now) now breaker (breaker.appliedTimers now rounds ++ trail) final := by
  induction rounds generalizing breaker with
  | zero => exact ⟨breaker, rfl, session, fun _ _ later => later⟩
  | succ rounds ih =>
      rcases session.fireTimers_succ now rounds with
        ⟨_, firing, trail⟩ | ⟨timer, after, due, applied, firing, trail⟩
      · rw [firing, trail]
        exact ⟨breaker, rfl, session, fun _ _ later => later⟩
      · obtain ⟨fired, fires, kept, joined⟩ := ih ((session.disarm timer).applied applied)
        rw [firing, trail]
        exact ⟨fired, fires, kept, fun rest final later =>
          .expire timer rfl due applied (joined rest final later)⟩

private theorem appliedPoll_course [Meter μ] (now : Nat) :
    ∃ after, breaker.poll now = .ok after ∧
      Course (.poll now) now breaker (breaker.appliedPoll now) after := by
  obtain ⟨fired, firing, kept, joined⟩ :=
    appliedTimers_course (session.told now) now TimerId.all.length
  have polled := session.poll_of_fired firing
  have trail : breaker.appliedPoll now =
      (breaker.told now).appliedTimers now TimerId.all.length ++ fired.appliedTick now := by
    rw [appliedPoll, firing]
  rw [trail, polled]
  cases ticks : fired.dueTicks now with
  | mk found monitor =>
      have runDue := ticks
      unfold dueTicks at runDue
      cases found with
      | none =>
          refine ⟨{ fired with monitor }, by rw [runMonitor, runDue], ?_⟩
          rw [appliedTick, ticks]
          exact .aside breaker.monitor (some now)
            (joined _ _ (.aside monitor fired.lastSeen (.rest { fired with monitor })))
      | some point =>
          obtain ⟨after, applied, _⟩ := (kept.watch monitor).apply .overCurrentDuration now
          refine ⟨after, by rw [runMonitor, runDue]; exact applied, ?_⟩
          rw [appliedTick, ticks]
          dsimp only
          rw [appliedEvent, applied]
          have closed : fired.lifecycle.phase = .closed := closed_of_dueTicks (by rw [ticks])
          exact .aside breaker.monitor (some now)
            (joined _ _
              (.aside monitor fired.lastSeen (.raise ⟨closed, rfl⟩ applied (.rest after))))

private theorem appliedInput_course (input : Input) (now : Nat) :
    ∃ after, breaker.handleInput input now = .ok after ∧
      Course (.input input now) now breaker (breaker.appliedInput input now) after := by
  have plain {event : Event} (raised : event = input.event)
      (trail : breaker.appliedInput input now = breaker.appliedEvent event now) :
      ∃ answered, breaker.apply event now = .ok answered ∧
        ∀ monitor, Course (.input input now) now breaker (breaker.appliedInput input now)
          { answered with monitor } := by
    obtain ⟨answered, applied, _⟩ := session.apply event now
    refine ⟨answered, applied, fun monitor => ?_⟩
    rw [trail, appliedEvent, applied]
    exact .raise raised applied (.aside monitor answered.lastSeen (.rest _))
  cases input with
  | zeroCrossing =>
      obtain ⟨answered, applied, course⟩ := plain rfl rfl
      exact ⟨answered, applied, course answered.monitor⟩
  | switchChanged closed =>
      cases closed with
      | false =>
          obtain ⟨answered, applied, course⟩ := plain rfl rfl
          exact ⟨answered, applied, course answered.monitor⟩
      | true =>
          obtain ⟨answered, applied, course⟩ := plain rfl rfl
          exact ⟨answered, applied, course answered.monitor⟩
  | openRequest =>
      obtain ⟨answered, applied, course⟩ := @plain .openCommand rfl rfl
      refine ⟨{ answered with monitor := answered.monitor.stop }, ?_, course _⟩
      simp only [Breaker.handleInput, requestOpen, bind, Except.bind]
      rw [applied]
  | closeRequest =>
      by_cases closed : breaker.lifecycle.phase = .closed
      · refine ⟨breaker, ?_, ?_⟩
        · simp [Breaker.handleInput, requestClose, ensureInitialized, session.initialized, closed,
            bind, Except.bind]
        · rw [appliedInput, if_pos closed]
          exact .rest breaker
      · obtain ⟨answered, applied, _⟩ :=
          (session.watch breaker.monitor.reset).apply .closeCommand now
        refine ⟨{ answered with monitor := answered.monitor.start answered.clock now }, ?_, ?_⟩
        · simp only [Breaker.handleInput, requestClose, ensureInitialized,
            if_pos session.initialized, if_neg closed, bind, Except.bind]
          rw [applied]
        · rw [appliedInput, if_neg closed, appliedEvent, applied]
          exact .aside breaker.monitor.reset breaker.lastSeen
            (.raise rfl applied (.aside _ answered.lastSeen (.rest _)))

/-- What an action of a session does to the breaker is what its events do. -/
theorem InSession.course [Meter μ] [RecordStore κ] (action : Action σ ζ μ κ) :
    (∃ adjustment, action = .adjust adjustment) ∨
      ∃ now, Course action now breaker (breaker.applied (.act action)) (breaker.act action) := by
  cases action with
  | input input now =>
      obtain ⟨after, accepted, course⟩ := appliedInput_course session input now
      right
      refine ⟨now, ?_⟩
      rw [Breaker.act, accepted]
      exact course
  | poll now =>
      obtain ⟨after, accepted, course⟩ := appliedPoll_course session now
      right
      refine ⟨now, ?_⟩
      rw [Breaker.act, accepted]
      exact course
  | adjust adjustment => exact .inl ⟨adjustment, rfl⟩

/-- An input applies one event at most, its own, and leaves the lifecycle as that event does. -/
theorem InSession.applied_input [Meter μ] [RecordStore κ] {input : Input} {now : Nat}
    {application : Application σ ζ μ κ}
    (member : application ∈ breaker.applied (.act (.input input now))) :
    ∃ monitor, application.before = { breaker with monitor } ∧
      application.before.apply application.event application.now = .ok application.after ∧
      (breaker.act (.input input now)).lifecycle = application.after.lifecycle := by
  have plain {event : Event}
      (trail : breaker.applied (.act (.input input now)) = breaker.appliedEvent event now)
      (handled : ∀ after, breaker.apply event now = .ok after →
        ∃ answered, breaker.handleInput input now = .ok answered ∧
          answered.lifecycle = after.lifecycle) :
      ∃ monitor, application.before = { breaker with monitor } ∧
        application.before.apply application.event application.now = .ok application.after ∧
        (breaker.act (.input input now)).lifecycle = application.after.lifecycle := by
    obtain ⟨after, applied, _⟩ := session.apply event now
    obtain ⟨answered, accepted, same⟩ := handled after applied
    rw [trail, appliedEvent, applied, List.mem_singleton] at member
    cases member
    refine ⟨breaker.monitor, rfl, applied, ?_⟩
    rw [Breaker.act, accepted]
    exact same
  cases input with
  | zeroCrossing => exact plain rfl (fun after applied => ⟨after, applied, rfl⟩)
  | switchChanged closed =>
      cases closed with
      | false => exact plain rfl (fun after applied => ⟨after, applied, rfl⟩)
      | true => exact plain rfl (fun after applied => ⟨after, applied, rfl⟩)
  | openRequest =>
      refine @plain .openCommand rfl (fun after applied =>
        ⟨{ after with monitor := after.monitor.stop }, ?_, rfl⟩)
      simp only [Breaker.handleInput, requestOpen, bind, Except.bind]
      rw [applied]
  | closeRequest =>
      simp only [Breaker.applied, appliedInput] at member
      split at member
      · cases member
      · next unclosed =>
        obtain ⟨after, applied, _⟩ :=
          (session.watch breaker.monitor.reset).apply .closeCommand now
        rw [appliedEvent, applied, List.mem_singleton] at member
        cases member
        refine ⟨breaker.monitor.reset, rfl, applied, ?_⟩
        have accepted : breaker.handleInput .closeRequest now =
            .ok { after with monitor := after.monitor.start after.clock now } := by
          simp only [Breaker.handleInput, requestClose, ensureInitialized,
            if_pos session.initialized, if_neg unclosed, bind, Except.bind]
          rw [applied]
        rw [Breaker.act, accepted]
        rfl

/-- An opening that is applied in a session is reported by the action, and all that the action
does. -/
theorem InSession.applied_opening [Meter μ] [RecordStore κ] {action : Action σ ζ μ κ}
    {application : Application σ ζ μ κ} (member : application ∈ breaker.applied (.act action))
    (opening : application.event = .switchOpened) :
    ∃ now, action = .input (.switchChanged false) now ∧
      application = ⟨breaker, .switchOpened, now, breaker.act action⟩ ∧
      breaker.apply .switchOpened now = .ok (breaker.act action) := by
  have reported : ∃ now, action = .input (.switchChanged false) now := by
    rcases session.course action with ⟨adjustment, rfl⟩ | ⟨instant, course⟩
    · cases member
    · rcases course.raised application member with ⟨phase, raised⟩ | ⟨timer, expired⟩
      · rw [opening] at raised
        exact opening_of_raises raised
      · rw [opening] at expired
        cases timer <;> cases expired
  obtain ⟨now, rfl⟩ := reported
  obtain ⟨after, applied, _⟩ := session.apply .switchOpened now
  have handled : breaker.handleInput (.switchChanged false) now = .ok after := applied
  have acted : breaker.act (.input (.switchChanged false) now) = after := by
    rw [Breaker.act, handled, afterCall]
  have trail : breaker.applied (.act (.input (.switchChanged false) now)) =
      [⟨breaker, .switchOpened, now, after⟩] := by
    simp [Breaker.applied, appliedInput, appliedEvent, Input.event, applied]
  rw [trail, List.mem_singleton] at member
  rw [acted]
  exact ⟨now, rfl, member, applied⟩

end Sessions

/-!
## What a step comes to
-/

section Fresh

variable {breaker : Breaker σ ζ μ κ} (fresh : breaker.initialized = false)
include fresh

theorem apply_of_fresh (event : Event) (now : Nat) :
    breaker.apply event now = .error .notSupported := by
  simp [apply, ensureInitialized, fresh, bind, Except.bind]

/-- Outside a session no event is accepted. -/
theorem applied_of_fresh [Meter μ] (step : Step σ ζ μ κ) : breaker.applied step = [] := by
  have refused (monitor : Monitor) (event : Event) (now : Nat) :
      { breaker with monitor }.appliedEvent event now = [] := by
    have outside : ({ breaker with monitor } : Breaker σ ζ μ κ).initialized = false := fresh
    rw [appliedEvent, apply_of_fresh outside]
  cases step with
  | act action =>
      cases action with
      | input input now =>
          have plain (event : Event) : breaker.appliedEvent event now = [] :=
            refused breaker.monitor event now
          cases input with
          | closeRequest =>
              simp only [applied, appliedInput]
              split
              · rfl
              · exact refused _ _ now
          | _ => exact plain _
      | poll now =>
          have told : (breaker.told now).initialized = false := fresh
          simp only [applied, appliedPoll]
          cases expired : (breaker.told now).lifecycle.takeExpired now with
          | mk event lifecycle =>
              have outside : { breaker.told now with lifecycle }.initialized = false := fresh
              cases event with
              | none =>
                  simp only [TimerId.all, List.length_cons, appliedTimers, Breaker.fireTimers,
                    expired, List.nil_append]
                  unfold appliedTick
                  split
                  · rfl
                  · next monitor _ =>
                    have ticked : { breaker.told now with monitor }.initialized = false := fresh
                    rw [appliedEvent, apply_of_fresh ticked]
              | some event =>
                  simp [TimerId.all, appliedTimers, Breaker.fireTimers, expired,
                    apply_of_fresh outside, bind, Except.bind]
      | adjust adjustment => rfl
  | init now => rfl
  | shutdown => rfl

end Fresh

variable [Mains ζ] [Meter μ] [RecordStore κ]

def ended (breaker : Breaker σ ζ μ κ) : Breaker σ ζ μ κ :=
  { breaker with
    switch := SwitchDriver.disableEvents breaker.switch
    mains := Mains.disableEvents breaker.mains
    lifecycle := breaker.lifecycle.stop
    monitor := breaker.monitor.stop.reset
    pending := none
    initialized := false }

theorem InSession.step_shutdown {breaker : Breaker σ ζ μ κ} (session : breaker.InSession) :
    breaker.step .shutdown = breaker.ended := by
  simp [Breaker.step, Breaker.shutdown, Breaker.ended, ensureInitialized, session.initialized,
    afterCall, bind, Except.bind]

/-- What a step comes to: nothing, a change of settings, the begin or the end of a session,
or the events of an action. -/
inductive Taken (breaker : Breaker σ ζ μ κ) :
    Step σ ζ μ κ → List (Application σ ζ μ κ) → Breaker σ ζ μ κ → Prop where
  | idle (step : Step σ ζ μ κ) : Taken breaker step [] breaker
  | adjust (adjustment : Adjustment σ ζ μ κ) :
      Taken breaker (.act (.adjust adjustment)) [] (breaker.adjust adjustment)
  | begun (now : Nat) (fresh : breaker.initialized = false) :
      Taken breaker (.init now) [] (breaker.init now)
  | ended (session : breaker.InSession) : Taken breaker .shutdown [] breaker.ended
  | course {trail : List (Application σ ζ μ κ)} {after : Breaker σ ζ μ κ}
      (session : breaker.InSession) (action : Action σ ζ μ κ) (now : Nat)
      (events : Course action now breaker trail after) : Taken breaker (.act action) trail after

theorem step_taken {breaker : Breaker σ ζ μ κ}
    (known : breaker.initialized = true → breaker.InSession) (step : Step σ ζ μ κ) :
    Taken breaker step (breaker.applied step) (breaker.step step) := by
  cases inside : breaker.initialized with
  | false =>
      rw [applied_of_fresh inside]
      cases step with
      | act action =>
          rcases act_of_fresh inside action with same | ⟨adjustment, rfl⟩
          · rw [Breaker.step, same]
            exact .idle _
          · exact .adjust adjustment
      | init now => exact .begun now inside
      | shutdown =>
          rw [Breaker.step, shutdown_of_fresh inside]
          exact .idle _
  | true =>
      have session := known inside
      cases step with
      | act action =>
          rcases session.course action with ⟨adjustment, rfl⟩ | ⟨now, events⟩
          · exact .adjust adjustment
          · exact .course session action now events
      | init now =>
          have same : breaker.init now = breaker := by simp [Breaker.init, inside]
          rw [Breaker.step, same]
          exact .idle _
      | shutdown =>
          rw [session.step_shutdown]
          exact .ended session

/-!
## Events along a run
-/

theorem appliedAlong_append (breaker : Breaker σ ζ μ κ) (first second : List (Step σ ζ μ κ)) :
    breaker.appliedAlong (first ++ second) =
      breaker.appliedAlong first ++ (breaker.history first).appliedAlong second := by
  induction first generalizing breaker with
  | nil => rfl
  | cons step rest ih =>
      rw [List.cons_append, appliedAlong, appliedAlong, ih, List.append_assoc]
      rfl

theorem appliedAlong_concat (breaker : Breaker σ ζ μ κ) (steps : List (Step σ ζ μ κ))
    (step : Step σ ζ μ κ) :
    breaker.appliedAlong (steps ++ [step]) =
      breaker.appliedAlong steps ++ (breaker.history steps).applied step := by
  rw [appliedAlong_append, appliedAlong, appliedAlong, List.append_nil]

theorem history_act (breaker : Breaker σ ζ μ κ) (actions : List (Action σ ζ μ κ)) :
    breaker.history (actions.map .act) = breaker.run actions := by
  rw [history, run, List.foldl_map]
  rfl

/-- What some steps apply is what one of them applies. -/
theorem mem_appliedAlong {breaker : Breaker σ ζ μ κ} {steps : List (Step σ ζ μ κ)}
    {application : Application σ ζ μ κ} :
    application ∈ breaker.appliedAlong steps ↔
      ∃ earlier step, earlier ++ [step] <+: steps ∧
        application ∈ (breaker.history earlier).applied step := by
  induction steps using List.reverseRecOn with
  | nil =>
      constructor
      · intro member
        cases member
      · rintro ⟨earlier, step, before, _⟩
        simp at before
  | append_singleton steps last ih =>
      rw [appliedAlong_concat, List.mem_append, ih]
      constructor
      · rintro (⟨earlier, step, before, member⟩ | member)
        · exact ⟨earlier, step, before.trans (List.prefix_append steps [last]), member⟩
        · exact ⟨steps, last, List.prefix_refl _, member⟩
      · rintro ⟨earlier, step, before, member⟩
        rcases List.prefix_concat_iff.mp before with same | before
        · obtain ⟨rfl, ended⟩ := List.append_inj' same rfl
          cases ended
          exact .inr member
        · exact .inl ⟨earlier, step, before, member⟩

/-- What a part of a session applies is what one of its actions applies. -/
theorem mem_appliedAlong_act {breaker : Breaker σ ζ μ κ} {actions : List (Action σ ζ μ κ)}
    {application : Application σ ζ μ κ} :
    application ∈ breaker.appliedAlong (actions.map .act) ↔
      ∃ run action, run ++ [action] <+: actions ∧
        application ∈ (breaker.run run).applied (.act action) := by
  rw [mem_appliedAlong]
  constructor
  · rintro ⟨earlier, step, before, member⟩
    obtain ⟨run, within, same⟩ := List.prefix_map_iff.mp before
    obtain ⟨run, last, rfl, rfl, ended⟩ := List.map_eq_append_iff.mp same.symm
    obtain ⟨action, rfl, rfl⟩ := List.map_eq_singleton_iff.mp ended
    rw [history_act] at member
    exact ⟨run, action, within, member⟩
  · rintro ⟨run, action, before, member⟩
    refine ⟨run.map .act, .act action, ?_, ?_⟩
    · rw [← List.map_singleton, ← List.map_append]
      exact before.map Step.act
    · rw [history_act]
      exact member

end Breaker

end CircuitBreaker
