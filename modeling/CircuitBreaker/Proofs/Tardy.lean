import CircuitBreaker.Proofs.Applied

/-!
# A tardy switch

A switch that follows its commands one after the other, each as late as it likes, and reports every
change of its position once, in order and as late as it likes. It never moves on its own.
-/

set_option autoImplicit false

namespace CircuitBreaker

structure TardySwitch where
  on : Bool := false
  /-- The commands that the switch has not followed, the oldest first. -/
  underway : List Bool := []
  /-- The changes of position that it has not reported, the oldest first. -/
  edges : List Bool := []
  cause : SwitchCause := .none
  /-- The cause that every closing is refused for. -/
  refusal : Option SwitchCause := none
deriving DecidableEq, Repr

namespace TardySwitch

def turnOn (switch : TardySwitch) : Option SwitchCause × TardySwitch :=
  match switch.refusal with
  | some cause => (some cause, { switch with cause })
  | none => (none, { switch with underway := switch.underway ++ [true], cause := .external })

def turnOff (switch : TardySwitch) : TardySwitch :=
  { switch with underway := switch.underway ++ [false], cause := .external }

instance : SwitchDriver TardySwitch where
  turnOn := turnOn
  turnOff := turnOff
  isOn := TardySwitch.on
  cause := TardySwitch.cause
  setLimit switch _ := .ok switch

def follow (switch : TardySwitch) : TardySwitch :=
  match switch.underway with
  | [] => switch
  | command :: rest =>
      { switch with
        on := command
        underway := rest
        edges := if command = switch.on then switch.edges else switch.edges ++ [command] }

def Quiescent (switch : TardySwitch) : Prop := switch.underway = [] ∧ switch.edges = []

def Unreported (switch : TardySwitch) : Prop :=
  false ∈ switch.edges ∨ switch.on = true ∧ false ∈ switch.underway

instance (switch : TardySwitch) : Decidable switch.Quiescent := inferInstanceAs (Decidable (_ ∧ _))

instance (switch : TardySwitch) : Decidable switch.Unreported := inferInstanceAs (Decidable (_ ∨ _))

/-!
## What the breaker may rely on
-/

/-- The switch is on and stays on. -/
structure Conducts (switch : TardySwitch) : Prop where
  on : switch.on = true
  edges : false ∉ switch.edges
  underway : false ∉ switch.underway

/-- The switch is off and stays off, and has reported it. -/
structure Rests (switch : TardySwitch) : Prop where
  off : switch.on = false
  edges : switch.edges = []
  underway : true ∉ switch.underway

/-- The switch does not open any more; it may still close. -/
structure Closes (switch : TardySwitch) : Prop where
  edges : false ∉ switch.edges
  reported : switch.on = false → switch.edges = []
  underway : switch.on = true → false ∉ switch.underway
  ordered : switch.underway.Pairwise fun earlier later => earlier = true → later = true

/-- The switch does not close any more; it may still open, or has yet to report that it did. -/
structure Opens (switch : TardySwitch) : Prop where
  edges : switch.on = true → false ∉ switch.edges
  unreported : switch.on = false →
    ∃ closings, switch.edges = closings ++ [false] ∧ false ∉ closings
  underway : switch.on = false → true ∉ switch.underway
  ordered : switch.underway.Pairwise fun earlier later => later = true → earlier = true

variable {switch : TardySwitch}

private theorem pairwise_of_not_mem {commands : List Bool} {command : Bool}
    {order : Bool → Bool → Prop} (absent : command ∉ commands)
    (same : order (!command) (!command)) :
    commands.Pairwise order := by
  refine List.Pairwise.imp_of_mem ?_ (List.pairwise_of_forall fun _ _ => trivial)
  intro earlier later first second _
  have left : earlier = !command := Bool.eq_not.mpr fun equal => absent (equal ▸ first)
  have right : later = !command := Bool.eq_not.mpr fun equal => absent (equal ▸ second)
  rw [left, right]
  exact same

theorem Conducts.closes (conducts : switch.Conducts) : switch.Closes where
  edges := conducts.edges
  reported off := by cases conducts.on.symm.trans off
  underway _ := conducts.underway
  ordered := pairwise_of_not_mem conducts.underway id

theorem Conducts.opens (conducts : switch.Conducts) : switch.Opens where
  edges _ := conducts.edges
  unreported off := by cases conducts.on.symm.trans off
  underway off := by cases conducts.on.symm.trans off
  ordered := pairwise_of_not_mem conducts.underway id

theorem Closes.conducts (closes : switch.Closes) (on : switch.on = true) : switch.Conducts :=
  ⟨on, closes.edges, closes.underway on⟩

theorem Rests.closes (rests : switch.Rests) : switch.Closes where
  edges := by simp [rests.edges]
  reported _ := rests.edges
  underway on := by cases rests.off.symm.trans on
  ordered := pairwise_of_not_mem rests.underway id

theorem Opens.conducts (opens : switch.Opens) (reported : ¬ switch.Unreported) :
    switch.Conducts := by
  cases on : switch.on with
  | true =>
      exact ⟨on, opens.edges on, fun opening => reported (.inr ⟨on, opening⟩)⟩
  | false =>
      obtain ⟨closings, edges, _⟩ := opens.unreported on
      exact absurd (.inl (by simp [edges])) reported

/-!
## Commands
-/

theorem turnOn_cases (switch : TardySwitch) :
    (∃ cause, (SwitchDriver.turnOn switch).2 = { switch with cause }) ∨
      (SwitchDriver.turnOn switch).2 =
        { switch with underway := switch.underway ++ [true], cause := .external } := by
  simp only [SwitchDriver.turnOn, turnOn]
  split
  · exact .inl ⟨_, rfl⟩
  · exact .inr rfl

theorem Closes.turnOn (closes : switch.Closes) : (SwitchDriver.turnOn switch).2.Closes := by
  rcases turnOn_cases switch with ⟨cause, same⟩ | same
  · rw [same]
    exact ⟨closes.edges, closes.reported, closes.underway, closes.ordered⟩
  · rw [same]
    refine ⟨closes.edges, closes.reported, fun on => ?_, ?_⟩
    · simp [closes.underway on]
    · simp [List.pairwise_append, closes.ordered]

theorem Opens.turnOff (opens : switch.Opens) : (SwitchDriver.turnOff switch).Opens where
  edges := opens.edges
  unreported := opens.unreported
  underway off := by simp [SwitchDriver.turnOff, TardySwitch.turnOff, opens.underway off]
  ordered := by
    simp [SwitchDriver.turnOff, TardySwitch.turnOff, List.pairwise_append, opens.ordered]

/-!
## Following and reporting
-/

theorem Conducts.follow (conducts : switch.Conducts) : switch.follow.Conducts := by
  unfold TardySwitch.follow
  split
  · exact conducts
  · next command rest found =>
    have underway := conducts.underway
    rw [found, List.mem_cons, not_or] at underway
    have on : command = true := by simpa using Ne.symm underway.1
    simp only [on, conducts.on, ↓reduceIte]
    exact ⟨rfl, conducts.edges, underway.2⟩

theorem Closes.follow (closes : switch.Closes) : switch.follow.Closes := by
  cases on : switch.on with
  | true => exact (closes.conducts on).follow.closes
  | false =>
      unfold TardySwitch.follow
      split
      · exact closes
      · next command rest found =>
        have ordered := closes.ordered
        rw [found, List.pairwise_cons] at ordered
        cases command with
        | false =>
            simp only [on, ↓reduceIte]
            exact ⟨closes.edges, fun _ => closes.reported on, by simp, ordered.2⟩
        | true =>
            have closings : false ∉ rest := fun member => by
              cases ordered.1 false member rfl
            simp only [on, closes.reported on]
            exact ⟨by simp, by simp, fun _ => closings, ordered.2⟩

theorem Opens.follow (opens : switch.Opens) : switch.follow.Opens := by
  unfold TardySwitch.follow
  split
  · exact opens
  · next command rest found =>
    have ordered := opens.ordered
    rw [found, List.pairwise_cons] at ordered
    cases on : switch.on with
    | true =>
        cases command with
        | true => exact ⟨fun _ => opens.edges on, by simp, by simp, ordered.2⟩
        | false =>
            have openings : true ∉ rest := fun member => by
              cases ordered.1 true member rfl
            exact ⟨by simp, fun _ => ⟨switch.edges, by simp, opens.edges on⟩, fun _ => openings,
              ordered.2⟩
    | false =>
        have off := opens.underway on
        rw [found, List.mem_cons, not_or] at off
        cases command with
        | true => exact absurd rfl off.1
        | false =>
            exact ⟨by simp, fun _ => opens.unreported on, fun _ => off.2, ordered.2⟩

variable {closed : Bool} {rest : List Bool}

theorem Conducts.report (conducts : switch.Conducts) (edges : switch.edges = closed :: rest) :
    closed = true ∧ { switch with edges := rest }.Conducts := by
  have closings := conducts.edges
  rw [edges, List.mem_cons, not_or] at closings
  exact ⟨by simpa using Ne.symm closings.1, conducts.on, closings.2, conducts.underway⟩

theorem Closes.report (closes : switch.Closes) (edges : switch.edges = closed :: rest) :
    closed = true ∧ { switch with edges := rest }.Conducts := by
  refine (closes.conducts ?_).report edges
  cases on : switch.on with
  | true => rfl
  | false => cases edges.symm.trans (closes.reported on)

/-- A switch that does not close any more reports its opening last. -/
theorem Opens.report (opens : switch.Opens) (edges : switch.edges = closed :: rest) :
    closed = true ∧ { switch with edges := rest }.Opens ∨
      closed = false ∧ { switch with edges := rest }.Rests := by
  rcases Bool.eq_false_or_eq_true switch.on with on | off
  · have closings := opens.edges on
    rw [edges, List.mem_cons, not_or] at closings
    refine .inl ⟨by simpa using Ne.symm closings.1, fun _ => closings.2, ?_, ?_, opens.ordered⟩
    · exact fun off => by cases on.symm.trans off
    · exact fun off => by cases on.symm.trans off
  · obtain ⟨closings, found, none⟩ := opens.unreported off
    rw [edges] at found
    cases closings with
    | nil =>
        cases found
        exact .inr ⟨rfl, off, rfl, opens.underway off⟩
    | cons first closings =>
        cases found
        rw [List.mem_cons, not_or] at none
        refine .inl ⟨by simpa using Ne.symm none.1, ?_, ?_, opens.underway, opens.ordered⟩
        · exact fun on => by cases on.symm.trans off
        · exact fun _ => ⟨closings, rfl, none.2⟩

end TardySwitch

/-!
## What happens around a breaker
-/

/-- The adjustment, which leaves a tardy switch alone. -/
def Adjustment.tardy {ζ μ κ : Type} : Adjustment Unit ζ μ κ → Adjustment TardySwitch ζ μ κ
  | .hardwareLimit limit => .hardwareLimit limit
  | .points curve => .points curve
  | .recovery settings => .recovery settings
  | .modulation settings => .modulation settings
  | .observed known => .observed known
  | .dispatch => .dispatch
  | .surroundings _ mains meter store => .surroundings id mains meter store

inductive Happening (ζ μ κ : Type) where
  /-- The switch follows the oldest command under way. -/
  | follow
  /-- The oldest change of position is reported, if there is one. -/
  | report (now : Nat)
  /-- From here on the switch refuses to close, or no longer does. -/
  | refuse (refusal : Option SwitchCause)
  | crossing (now : Nat)
  | openRequest (now : Nat)
  | closeRequest (now : Nat)
  | poll (now : Nat)
  | adjust (adjustment : Adjustment Unit ζ μ κ)

namespace Breaker

variable {ζ μ κ : Type}

def actionsOf (breaker : Breaker TardySwitch ζ μ κ) :
    Happening ζ μ κ → List (Action TardySwitch ζ μ κ)
  | .follow => [.adjust (.surroundings TardySwitch.follow id id id)]
  | .report now =>
      match breaker.switch.edges with
      | [] => []
      | closed :: rest =>
          [.adjust (.surroundings ({ · with edges := rest }) id id id),
            .input (.switchChanged closed) now]
  | .refuse refusal => [.adjust (.surroundings ({ · with refusal }) id id id)]
  | .crossing now => [.input .zeroCrossing now]
  | .openRequest now => [.input .openRequest now]
  | .closeRequest now => [.input .closeRequest now]
  | .poll now => [.poll now]
  | .adjust adjustment => [.adjust adjustment.tardy]

variable [Meter μ] [RecordStore κ]

def happen (breaker : Breaker TardySwitch ζ μ κ) (happening : Happening ζ μ κ) :
    Breaker TardySwitch ζ μ κ :=
  breaker.run (breaker.actionsOf happening)

def undergo (breaker : Breaker TardySwitch ζ μ κ) (happenings : List (Happening ζ μ κ)) :
    Breaker TardySwitch ζ μ κ :=
  happenings.foldl happen breaker

def appliedIn [Mains ζ] (breaker : Breaker TardySwitch ζ μ κ) (happening : Happening ζ μ κ) :
    List (Application TardySwitch ζ μ κ) :=
  breaker.appliedAlong ((breaker.actionsOf happening).map .act)

theorem InSession.happen {breaker : Breaker TardySwitch ζ μ κ} (session : breaker.InSession)
    (happening : Happening ζ μ κ) : (breaker.happen happening).InSession :=
  session.run (breaker.actionsOf happening)

theorem InSession.undergo {breaker : Breaker TardySwitch ζ μ κ} (session : breaker.InSession)
    (happenings : List (Happening ζ μ κ)) : (breaker.undergo happenings).InSession := by
  induction happenings generalizing breaker with
  | nil => exact session
  | cons happening rest ih => exact ih (session.happen happening)

omit [Meter μ] in
theorem switch_adjust_tardy (breaker : Breaker TardySwitch ζ μ κ)
    (adjustment : Adjustment Unit ζ μ κ) :
    (breaker.adjust adjustment.tardy).switch = breaker.switch := by
  refine @adjust_switch _ _ _ _ breaker _ _ adjustment.tardy (· = breaker.switch) ?_ ?_ rfl
  · intro before limit after accepted same
    rw [← same]
    exact (Except.ok.inj accepted).symm
  · intro switch mains meter store given same
    cases adjustment <;> simp only [Adjustment.tardy, reduceCtorEq] at given
    cases given
    exact same

end Breaker

end CircuitBreaker
