import CircuitBreaker.Proofs.Restart
import CircuitBreaker.Proofs.Turns

/-!
# The intent through losses of power

Over a store that works, the stored intent is the last command that the controller accepted. Trips,
crossings, edges and settings leave it alone, as it leaves alone the records of the settings.
-/

set_option autoImplicit false

namespace CircuitBreaker

/-!
## The record of the intent
-/

section Loads

variable {κ : Type} [RecordStore κ] {store : κ} {intent : Intent}

theorem Intent.load_of_stored
    (stored : RecordStore.load store Intent.offset 1 = .ok [intent.code]) :
    Intent.load store = intent := by
  unfold Intent.load
  rw [stored]
  cases intent <;> rfl

theorem Intent.save_cases (store : κ) (intent : Intent) :
    RecordStore.load store Intent.offset 1 = .ok [intent.code] ∧ intent.save store = .ok store ∨
      intent.save store = RecordStore.save store Intent.offset [intent.code] := by
  unfold Intent.save
  split
  · next code loaded =>
    split
    · next same =>
      rw [same] at loaded
      exact .inl ⟨loaded, rfl⟩
    · exact .inr rfl
  · exact .inr rfl

end Loads

namespace FramedStore

open LawfulStorage

variable {ρ : Type} [Storage ρ] [LawfulStorage ρ] {store after : FramedStore ρ} {intent : Intent}

/-- A store over working storage that has room for all settings and for the intent behind them. -/
structure Ample (store : FramedStore ρ) : Prop where
  works : Works store.storage
  reach : store.base + Intent.offset + Frame.headerSize ≤ 0xffffffff
  room : store.base + Intent.offset + Frame.headerSize + 1 ≤ Storage.capacity store.storage

theorem Ample.save_loads (ample : store.Ample) {offset : Nat} {payload : Bytes}
    (near : offset ≤ Intent.offset) (fits : offset + payload.length ≤ Intent.offset + 1)
    (short : payload.length ≤ Frame.maxPayload) :
    ∃ after, store.save offset payload = .ok after ∧ after.Ample ∧
      after.load offset payload.length = .ok payload ∧
      ∀ other length, other ≤ Intent.offset →
        other + Frame.headerSize + length ≤ offset ∨
          offset + Frame.headerSize + payload.length ≤ other →
        after.load other length = store.load other length := by
  have reach := ample.reach
  have room := ample.room
  have fits : store.Fits offset payload.length := ⟨by omega, by omega⟩
  obtain ⟨after, saved, still, base, capacity, loaded, others⟩ :=
    FramedStore.save_loads ample.works short fits
  refine ⟨after, saved, ⟨still, ?_, ?_⟩, loaded, ?_⟩
  · rw [base]
    exact reach
  · rw [base, capacity]
    exact room
  · intro other length near
    exact others other length (inReach_of_le length (by omega))

structure Keeps (store : FramedStore ρ) (intent : Intent) : Prop where
  ample : store.Ample
  loads : Intent.load store = intent

/-- The frames of the settings end before the frame of the intent. -/
theorem Keeps.persist (keeps : store.Keeps intent) {α : Type} [Record α] [LawfulRecord α]
    {settings : α} (saved : CircuitBreaker.persist store settings = .ok after) :
    after.Keeps intent := by
  have length := LawfulRecord.length_encode settings
  have near := LawfulRecord.offset_le (α := α)
  have frame := LawfulRecord.frameEnd_le (α := α)
  have last : Record.offset ModulationSettings ≤ Intent.offset ∧
      Record.frameEnd ModulationSettings ≤ Intent.offset := by decide
  unfold Record.frameEnd at frame last
  have short : (Record.encode settings).length ≤ Frame.maxPayload := by
    rw [length]
    exact LawfulRecord.size_le
  obtain ⟨written, accepted, ample, _, others⟩ :=
    @Ample.save_loads _ _ _ _ keeps.ample (Record.offset α) (Record.encode settings) (by omega)
      (by omega) short
  have same : written = after := Except.ok.inj (accepted.symm.trans saved)
  subst same
  refine ⟨ample, ?_⟩
  have kept : written.load Intent.offset 1 = store.load Intent.offset 1 :=
    others _ _ (Nat.le_refl _) (.inr (by omega))
  rw [← keeps.loads]
  unfold Intent.load
  rw [show RecordStore.load written Intent.offset 1 = RecordStore.load store Intent.offset 1
    from kept]

/-- An intent is stored, and every record of settings stays as it is. -/
theorem Ample.save_intent (ample : store.Ample) (intent : Intent) :
    ∃ after, intent.save store = .ok after ∧ after.Keeps intent ∧
      ∀ kind, Settings.restore after kind = Settings.restore store kind := by
  rcases Intent.save_cases store intent with ⟨stored, unwritten⟩ | written
  · exact ⟨store, unwritten, ⟨ample, Intent.load_of_stored stored⟩, fun kind => rfl⟩
  · obtain ⟨after, saved, kept, loaded, others⟩ :=
      @Ample.save_loads _ _ _ _ ample Intent.offset [intent.code] (Nat.le_refl _) (Nat.le_refl _)
        (Nat.le_of_ble_eq_true rfl)
    refine ⟨after, written.trans saved, ⟨kept, Intent.load_of_stored loaded⟩, ?_⟩
    intro kind
    cases kind with
    | tripCurve =>
        exact congrArg (Except.map Settings.curve) (restore_congr
          (others _ _ (by decide) (.inl (by decide))))
    | recovery =>
        exact congrArg (Except.map Settings.recovery)
          (restore_congr (others _ _ (by decide) (.inl (by decide))))
    | modulation =>
        exact congrArg (Except.map Settings.modulation)
          (restore_congr (others _ _ (by decide) (.inl (by decide))))

private theorem slice?_of_uniform {bytes : Bytes} {value : UInt8}
    (uniform : ∀ byte ∈ bytes, byte = value) (start length : Nat) :
    bytes.slice? start length = none ∨
      bytes.slice? start length = some (List.replicate length value) := by
  unfold Bytes.slice?
  split
  · next fits =>
    refine .inr (congrArg some (List.eq_replicate_iff.mpr ⟨?_, ?_⟩))
    · rw [List.length_take, List.length_drop]
      omega
    · intro byte member
      exact uniform byte (List.mem_of_mem_drop (List.mem_of_mem_take member))
  · exact .inl rfl

/-- Erased storage holds no intent, which means open. -/
theorem load_of_erased (works : Works store.storage)
    (erased : ∀ byte ∈ contents store.storage, byte = 0xff) : Intent.load store = .opened := by
  have unread : ∃ error, store.readFrame Intent.offset 1 = .error error := by
    unfold readFrame
    rw [if_neg (by decide)]
    cases store.address? Intent.offset 1 with
    | none => exact ⟨_, rfl⟩
    | some address =>
        dsimp only
        rw [read_eq _ _ _ works]
        -- An erased header has no mark.
        rcases slice?_of_uniform erased address Frame.headerSize with outside | blank
        · rw [outside]
          exact ⟨_, rfl⟩
        · rw [blank]
          exact ⟨.badMagic, rfl⟩
  obtain ⟨error, failed⟩ := unread
  have failed : RecordStore.load store Intent.offset 1 = .error error := by
    rw [show RecordStore.load store Intent.offset 1 = store.load Intent.offset 1 from rfl, load,
      failed]
  unfold Intent.load
  rw [failed]

end FramedStore

/-!
## Stores of a breaker
-/

namespace Breaker

variable {σ ζ μ ρ : Type} [Storage ρ] [LawfulStorage ρ]
  {breaker after : Breaker σ ζ μ (FramedStore ρ)} {intent : Intent} {now : Nat}

omit [Storage ρ] [LawfulStorage ρ] in
private theorem store_persist {κ : Type} [RecordStore κ] (set : Breaker σ ζ μ κ) {α : Type}
    [Record α] (settings : α) :
    (set.persist settings).store = set.store ∨
      CircuitBreaker.persist set.store settings = .ok (set.persist settings).store := by
  unfold persist
  split
  · next saved => exact .inr saved
  · split
    · exact .inl rfl
    · exact .inl rfl

theorem keeps_persist (keeps : breaker.store.Keeps intent) {α : Type} [Record α] [LawfulRecord α]
    (settings : α) : (breaker.persist settings).store.Keeps intent := by
  rcases store_persist breaker settings with same | saved
  · rw [same]
    exact keeps
  · exact keeps.persist saved

theorem keeps_restoreOrDefault (keeps : breaker.store.Keeps intent) (α : Type) [Record α]
    [LawfulRecord α] (now : Nat) : (breaker.restoreOrDefault α now).2.store.Keeps intent := by
  unfold restoreOrDefault
  split
  · exact keeps
  · exact @keeps_persist _ _ _ _ _ _ (breaker.record (.configDefaulted (Record.kind α)) now) _
      keeps α _ _ _

variable [SwitchDriver σ]

theorem keeps_init [Mains ζ] (keeps : breaker.store.Keeps intent) (now : Nat) :
    (breaker.init now).store.Keeps intent := by
  unfold init
  split
  · exact keeps
  · have told : ({ breaker with lastSeen := some now } : Breaker σ ζ μ _).store.Keeps intent :=
      keeps
    have curve := keeps_restoreOrDefault told CurveSettings now
    have recovery := keeps_restoreOrDefault curve RecoverySettings now
    have modulation := keeps_restoreOrDefault recovery ModulationSettings now
    dsimp only [record]
    exact modulation

theorem keeps_adjust (keeps : breaker.store.Keeps intent)
    {adjustment : Adjustment σ ζ μ (FramedStore ρ)} (spared : adjustment.SparesStore) :
    (breaker.adjust adjustment).store.Keeps intent := by
  rcases adjust_shape adjustment breaker with
    ⟨_, _, same, _⟩ | ⟨_, _, _, _, rfl⟩ | ⟨α, _, _, settings, _, _, _, _, stored⟩
  · rw [same]
    exact keeps
  · cases spared
    exact keeps
  · rw [stored]
    refine keeps_persist ?_ settings
    exact keeps

theorem InSession.store_handleInput {κ : Type} [Meter μ] [RecordStore κ]
    {breaker after : Breaker σ ζ μ κ} (session : breaker.InSession) {input : Input}
    (accepted : breaker.handleInput input now = .ok after) : after.store = breaker.store := by
  have kept : (breaker.act (.input input now)).store = breaker.store :=
    (session.configuration_act fun adjustment => by simp).1
  rw [Breaker.act, accepted] at kept
  exact kept

theorem keeps_executes [Meter μ] (session : breaker.InSession) (keeps : breaker.store.Keeps intent)
    (executes : breaker.Executes now after) : after.InSession ∧ after.store.Keeps intent := by
  cases executes with
  | shows => exact ⟨session, keeps⟩
  | requests input request accepted =>
      have handled := session.act (.input input now)
      rw [Breaker.act, accepted] at handled
      refine ⟨handled, ?_⟩
      rw [session.store_handleInput accepted]
      exact keeps
  | sets adjustment setting =>
      refine ⟨session.act (.adjust adjustment), keeps_adjust keeps ?_⟩
      cases adjustment with
      | surroundings => exact setting.elim
      | _ => trivial

end Breaker

/-!
## Commands on the console
-/

namespace Console

def lineIntent (line : String) : Option Intent :=
  match Command.parse line with
  | .ok command => intentOf command
  | .error _ => none

private theorem reply_fits (state : BreakerState) :
    (text [s!"ok {state.name}"]).utf8ByteSize ≤ replyCapacity := by
  cases state <;> decide +kernel

end Console

namespace Breaker

variable {σ ζ μ κ : Type} [SwitchDriver σ] [Mains ζ] [Meter μ] [RecordStore κ]
  {breaker : Breaker σ ζ μ κ}

/-- A command to open or to close is never refused, and its reply fits. -/
theorem InSession.execute_of_intent (session : breaker.InSession) {command : Command}
    {intent : Intent} (asks : Console.intentOf command = some intent) (now : Nat) :
    ∃ lines after, breaker.execute command now = .ok (lines, after) ∧
      (Console.text lines).utf8ByteSize ≤ Console.replyCapacity := by
  cases command with
  | openBreaker =>
      obtain ⟨after, accepted, _⟩ := session.handleInput .openRequest now
      rw [Breaker.handleInput] at accepted
      refine ⟨[s!"ok {after.state.name}"], after, ?_, Console.reply_fits after.state⟩
      rw [execute, accepted]
      rfl
  | closeBreaker =>
      obtain ⟨after, accepted, _⟩ := session.handleInput .closeRequest now
      rw [Breaker.handleInput] at accepted
      refine ⟨[s!"ok {after.state.name}"], after, ?_, Console.reply_fits after.state⟩
      rw [execute, accepted]
      rfl
  | _ => cases asks

theorem InSession.intent_respond (session : breaker.InSession) (line : String) (now : Nat) :
    (breaker.respond line now).1.intent = Console.lineIntent line := by
  unfold respond Console.lineIntent
  cases Command.parse line with
  | error error => rfl
  | ok command =>
      dsimp only
      cases asked : Console.intentOf command with
      | none =>
          split <;> rfl
      | some intent =>
          obtain ⟨lines, after, ran, fits⟩ := session.execute_of_intent asked now
          rw [executeWithin, ran]
          dsimp only
          rw [if_pos fits]

end Breaker

/-!
## Duties of the controller
-/

namespace Board

def Wake.commands : Wake → List Intent
  | .inputs taken => taken.filterMap Intent.ofInput
  | .line text => (Console.lineIntent text).toList
  | .selfTest _ | .deadline => []

inductive Duty where
  /-- It wakes and does its work. -/
  | serve (wake : Wake) (now : Nat)
  /-- What the other tasks do to the stage, the mains and the meter. -/
  | surroundings (stage : PowerStage → PowerStage) (mains : PublishedMains → PublishedMains)
      (meter : PublishedMeter → PublishedMeter)
  /-- Power is lost and comes back. Nothing but the store is left. -/
  | reboot (clock : Clock) (stage : PowerStage) (mains : PublishedMains) (meter : PublishedMeter)
      (now : Nat)

def Duty.commands : Duty → List Intent
  | serve wake _ => wake.commands
  | surroundings .. | reboot .. => []

namespace Controller

section Duties

variable {κ : Type} [RecordStore κ]

def acceptedInput (breaker : ControlledBreaker κ) (input : Input) (now : Nat) : Option Intent :=
  match breaker.handleInput input now with
  | .ok _ => Intent.ofInput input
  | .error _ => none

def acceptedInputs : ControlledBreaker κ → List Input → Nat → List Intent
  | _, [], _ => []
  | breaker, input :: rest, now =>
      (acceptedInput breaker input now).toList ++ acceptedInputs (apply breaker input now) rest now

/-- The command that a line is, if it parses and the breaker accepts it. -/
def acceptedLine (breaker : ControlledBreaker κ) (line : String) (now : Nat) : Option Intent :=
  match Command.parse line with
  | .error _ => none
  | .ok command =>
      match breaker.execute command now with
      | .ok _ => Console.intentOf command
      | .error _ => none

def acceptedWork (breaker : ControlledBreaker κ) : Wake → Nat → List Intent
  | .inputs inputs, now => acceptedInputs breaker inputs now
  | .line line, now => (acceptedLine breaker line now).toList
  | .selfTest _, _ | .deadline, _ => []

def accepted (breaker : ControlledBreaker κ) : Duty → List Intent
  | .serve wake now => acceptedWork (poll breaker now) wake now
  | .surroundings .. | .reboot .. => []

def boot (store : κ) (clock : Clock) (stage : PowerStage) (mains : PublishedMains)
    (meter : PublishedMeter) (now : Nat) : ControlledBreaker κ :=
  start (.ofParts clock stage mains meter store) now

def attend (breaker : ControlledBreaker κ) : Duty → ControlledBreaker κ
  | .serve wake now => (serve breaker wake now).2
  | .surroundings stage mains meter => breaker.adjust (.surroundings stage mains meter id)
  | .reboot clock stage mains meter now => boot breaker.store clock stage mains meter now

def attendAll (breaker : ControlledBreaker κ) (duties : List Duty) : ControlledBreaker κ :=
  duties.foldl attend breaker

def acceptedAlong : ControlledBreaker κ → List Duty → List Intent
  | _, [] => []
  | breaker, duty :: rest => accepted breaker duty ++ acceptedAlong (attend breaker duty) rest

end Duties

/-!
## What the controller remembers
-/

variable {ρ : Type} [Storage ρ] [LawfulStorage ρ]
  {breaker : ControlledBreaker (FramedStore ρ)} {intent : Intent}

/-- In a session, over a store that works and that holds the intent. -/
structure Minds (breaker : ControlledBreaker (FramedStore ρ)) (intent : Intent) : Prop where
  session : breaker.InSession
  store : breaker.store.Keeps intent

/-- An intent that is remembered is stored, and the settings stay as they are. -/
theorem remember_spec (breaker : ControlledBreaker (FramedStore ρ)) (ample : breaker.store.Ample)
    (intent : Intent) :
    ∃ store, remember breaker intent = { breaker with store } ∧ store.Keeps intent ∧
      ∀ kind, Settings.restore store kind = Settings.restore breaker.store kind := by
  obtain ⟨store, saved, keeps, settings⟩ := ample.save_intent intent
  refine ⟨store, ?_, keeps, settings⟩
  rw [remember, saved]

theorem Minds.remember (minds : Minds breaker intent) (latest : Intent) :
    Minds (remember breaker latest) latest := by
  obtain ⟨store, remembered, keeps, _⟩ := remember_spec breaker minds.store.ample latest
  rw [remembered]
  exact ⟨⟨minds.session.initialized, minds.session.ready⟩, keeps⟩

theorem Minds.act (minds : Minds breaker intent)
    {action : Action PowerStage PublishedMains PublishedMeter (FramedStore ρ)}
    (other : ∀ adjustment, action ≠ .adjust adjustment) : Minds (breaker.act action) intent := by
  refine ⟨minds.session.act action, ?_⟩
  rw [(minds.session.configuration_act other).1]
  exact minds.store

theorem Minds.poll (minds : Minds breaker intent) (now : Nat) :
    Minds (poll breaker now) intent := by
  rw [poll_eq_act]
  exact minds.act fun adjustment => by simp

/-- No input is refused, and only commands are remembered. -/
theorem Minds.apply (minds : Minds breaker intent) (input : Input) (now : Nat) :
    acceptedInput breaker input now = Intent.ofInput input ∧
      Minds (apply breaker input now) ((Intent.ofInput input).getD intent) := by
  obtain ⟨after, accepted, _⟩ := minds.session.handleInput input now
  have handled : Minds (breaker.act (.input input now)) intent :=
    minds.act fun adjustment => by simp
  rw [Breaker.act, accepted] at handled
  refine ⟨by rw [acceptedInput, accepted], ?_⟩
  rw [Controller.apply, accepted]
  dsimp only
  cases Intent.ofInput input with
  | none => exact handled
  | some command => exact handled.remember command

private theorem latest_append (intent : Intent) (earlier later : List Intent) :
    (earlier ++ later).getLast?.getD intent =
      later.getLast?.getD (earlier.getLast?.getD intent) := by
  rw [List.getLast?_append]
  cases later.getLast? <;> rfl

private theorem latest_toList (intent : Intent) (command : Option Intent) :
    command.toList.getLast?.getD intent = command.getD intent := by
  cases command <;> rfl

theorem Minds.inputs (minds : Minds breaker intent) (inputs : List Input) (now : Nat) :
    acceptedInputs breaker inputs now = inputs.filterMap Intent.ofInput ∧
      Minds (inputs.foldl (fun breaker input => Controller.apply breaker input now) breaker)
        ((inputs.filterMap Intent.ofInput).getLast?.getD intent) := by
  induction inputs generalizing breaker intent with
  | nil => exact ⟨rfl, minds⟩
  | cons input rest ih =>
      obtain ⟨accepted, applied⟩ := minds.apply input now
      obtain ⟨later, drained⟩ := ih applied
      have commands : (input :: rest).filterMap Intent.ofInput =
          (Intent.ofInput input).toList ++ rest.filterMap Intent.ofInput := by
        rw [List.filterMap_cons]
        cases Intent.ofInput input <;> rfl
      rw [commands, latest_append, latest_toList]
      exact ⟨by rw [acceptedInputs, accepted, later], drained⟩

theorem Minds.acceptedLine (minds : Minds breaker intent) (line : String) (now : Nat) :
    acceptedLine breaker line now = Console.lineIntent line := by
  unfold Controller.acceptedLine Console.lineIntent
  cases Command.parse line with
  | error error => rfl
  | ok command =>
      dsimp only
      cases asked : Console.intentOf command with
      | none => split <;> rfl
      | some command =>
          obtain ⟨lines, after, ran, _⟩ := minds.session.execute_of_intent asked now
          rw [ran]

/-- A line may change settings, but only a command to open or to close is remembered. -/
theorem Minds.line (minds : Minds breaker intent) (line : String) (now : Nat) :
    Minds (work breaker (.line line) now).2 ((Console.lineIntent line).getD intent) := by
  have executes := breaker.respond_executes line now
  have asked := minds.session.intent_respond line now
  generalize answered : breaker.respond line now = response at executes asked
  obtain ⟨session, keeps⟩ := Breaker.keeps_executes minds.session minds.store executes
  rw [work, answered]
  dsimp only
  rw [asked]
  cases Console.lineIntent line with
  | none => exact ⟨session, keeps⟩
  | some command => exact Minds.remember ⟨session, keeps⟩ command

theorem Minds.work (minds : Minds breaker intent) (wake : Wake) (now : Nat) :
    acceptedWork breaker wake now = wake.commands ∧
      Minds (work breaker wake now).2 (wake.commands.getLast?.getD intent) := by
  cases wake with
  | inputs inputs => exact minds.inputs inputs now
  | line line =>
      refine ⟨congrArg Option.toList (minds.acceptedLine line now), ?_⟩
      rw [Wake.commands, latest_toList]
      exact minds.line line now
  | selfTest direction =>
      refine ⟨rfl, ?_⟩
      rw [Controller.work]
      split
      · exact ⟨⟨minds.session.initialized, minds.session.ready⟩, minds.store⟩
      · exact minds
  | deadline => exact ⟨rfl, minds⟩

theorem Minds.serve (minds : Minds breaker intent) (wake : Wake) (now : Nat) :
    acceptedWork (Controller.poll breaker now) wake now = wake.commands ∧
      Minds (serve breaker wake now).2 (wake.commands.getLast?.getD intent) := by
  obtain ⟨accepted, worked⟩ := (minds.poll now).work wake now
  exact ⟨accepted, ⟨worked.session.initialized, worked.session.ready⟩, worked.store⟩

/-- A start gives the stored intent to the breaker as its first input, and stores nothing in its
place. -/
theorem start_eq (breaker : ControlledBreaker (FramedStore ρ))
    (fresh : breaker.initialized = false) (keeps : breaker.store.Keeps intent) (now : Nat) :
    Minds { breaker.init now with observed := true } intent ∧
      start breaker now =
        ({ breaker.init now with observed := true } : ControlledBreaker _).act
          (.input intent.input now) := by
  have session := (Breaker.init_of_fresh fresh now).1
  have begun := Breaker.keeps_init keeps now
  refine ⟨⟨⟨session.initialized, session.ready⟩, begun⟩, ?_⟩
  unfold start Breaker.act
  dsimp only
  rw [begun.loads]
  cases ({ breaker.init now with observed := true } : ControlledBreaker (FramedStore ρ)).handleInput
    intent.input now <;> rfl

theorem start_minds (breaker : ControlledBreaker (FramedStore ρ))
    (fresh : breaker.initialized = false) (keeps : breaker.store.Keeps intent) (now : Nat) :
    Minds (start breaker now) intent := by
  obtain ⟨begun, started⟩ := start_eq breaker fresh keeps now
  rw [started]
  exact begun.act fun adjustment => by simp

/-- One duty: the commands given are accepted, and the last of them is remembered. -/
theorem Minds.attend (minds : Minds breaker intent) (duty : Duty) :
    accepted breaker duty = duty.commands ∧
      Minds (attend breaker duty) (duty.commands.getLast?.getD intent) := by
  cases duty with
  | serve wake now => exact minds.serve wake now
  | surroundings stage mains meter =>
      exact ⟨rfl, minds.session.act (.adjust _), Breaker.keeps_adjust minds.store rfl⟩
  | reboot clock stage mains meter now =>
      have outside : (Breaker.ofParts clock stage mains meter breaker.store :
          ControlledBreaker (FramedStore ρ)).initialized = false := rfl
      exact ⟨rfl, start_minds _ outside minds.store now⟩

theorem Minds.attendAll (minds : Minds breaker intent) (duties : List Duty) :
    acceptedAlong breaker duties = duties.flatMap Duty.commands ∧
      Minds (attendAll breaker duties)
        ((duties.flatMap Duty.commands).getLast?.getD intent) := by
  induction duties generalizing breaker intent with
  | nil => exact ⟨rfl, minds⟩
  | cons duty rest ih =>
      obtain ⟨accepted, attended⟩ := minds.attend duty
      obtain ⟨later, run⟩ := ih attended
      rw [List.flatMap_cons, latest_append]
      exact ⟨by rw [acceptedAlong, accepted, later], run⟩

/-- What the duties of a controller leave of the commands that it was given, from a start over
a store on. -/
structure Survives (store : FramedStore ρ) (started : ControlledBreaker (FramedStore ρ))
    (duties : List Duty) : Prop where
  /-- The stored intent is the last command that was accepted. -/
  latest : Intent.load (attendAll started duties).store =
    (acceptedAlong started duties).getLast?.getD (Intent.load store)
  /-- Every command that was given was accepted. -/
  accepted : acceptedAlong started duties = duties.flatMap Duty.commands
  /-- Without a command, erased storage stands for open. -/
  erased : (∀ byte ∈ LawfulStorage.contents store.storage, byte = 0xff) →
    Intent.load (attendAll started duties).store =
      (acceptedAlong started duties).getLast?.getD .opened
  /-- A reboot starts with the stored intent. -/
  reboots : ∀ clock stage mains meter later,
    boot (attendAll started duties).store clock stage mains meter later =
      ({ (Breaker.ofParts clock stage mains meter (attendAll started duties).store).init later with
          observed := true } : ControlledBreaker _).act
        (.input (Intent.load (attendAll started duties).store).input later)
  /-- A duty without a command keeps it. -/
  idle : ∀ duty, duty.commands = [] →
    Intent.load (attend (attendAll started duties) duty).store =
      Intent.load (attendAll started duties).store
  /-- No event writes the store. -/
  events : ∀ event later after, (attendAll started duties).apply event later = .ok after →
    after.store = (attendAll started duties).store
  /-- Settings that are written keep the stored intent. -/
  settings : ∀ adjustment, adjustment.SparesStore →
    Intent.load ((attendAll started duties).adjust adjustment).store =
      Intent.load (attendAll started duties).store
  /-- An intent that is stored reads back, and no record of settings changes with it. -/
  remembers : ∀ intent, Intent.load (remember (attendAll started duties) intent).store = intent ∧
    ∀ kind, Settings.restore (remember (attendAll started duties) intent).store kind =
      Settings.restore (attendAll started duties).store kind

/-- Over a store that works, whatever the controller lives through, its commands survive. -/
theorem intent_survives {store : FramedStore ρ} (ample : store.Ample) (clock : Clock)
    (stage : PowerStage) (mains : PublishedMains) (meter : PublishedMeter) (now : Nat)
    (duties : List Duty) : Survives store (boot store clock stage mains meter now) duties := by
  have stored : store.Keeps (Intent.load store) := ⟨ample, rfl⟩
  have begun : Minds (boot store clock stage mains meter now) (Intent.load store) :=
    start_minds (.ofParts clock stage mains meter store) rfl stored now
  obtain ⟨accepted, minds⟩ := begun.attendAll duties
  rw [← accepted] at minds
  have held : Minds (attendAll (boot store clock stage mains meter now) duties) _ :=
    ⟨minds.session, minds.store.ample, rfl⟩
  exact {
    latest := minds.store.loads
    accepted
    erased := by
      intro erased
      rw [← FramedStore.load_of_erased ample.works erased]
      exact minds.store.loads
    reboots := fun clock stage mains meter later =>
      (start_eq (.ofParts clock stage mains meter _) rfl held.store later).2
    idle := by
      intro duty silent
      have attended := (held.attend duty).2
      rw [silent] at attended
      exact attended.store.loads
    events := fun event later after applied => (held.session.configuration_applied applied).1
    settings := fun adjustment spared => (Breaker.keeps_adjust held.store spared).loads
    remembers := by
      intro intent
      obtain ⟨written, remembered, keeps, settings⟩ := remember_spec _ held.store.ample intent
      rw [remembered]
      exact ⟨keeps.loads, settings⟩ }

/-- A day of a board: closed at the queue, opened by its hardware, given another limit on the
console, and started again. -/
def outage : List Duty :=
  [ .serve (.inputs [.closeRequest]) 1000000,
    .serve .deadline 1200000,
    .serve (.inputs [.switchChanged true, .zeroCrossing]) 1300000,
    .surroundings (fun stage => stage.takeEdge false) id id,
    .serve (.inputs [.switchChanged false]) 1400000,
    .serve (.line "limit 20") 1500000,
    .reboot .micros {} {} {} 0 ]

def erasedStore : FramedStore Flash := { storage := Flash.erased }

/-- Over an erased page the close of the operator is what is left. -/
theorem intent_survives_outage :
    Intent.load (attendAll (boot erasedStore .micros {} {} {} 0) outage).store = .closed ∧
      acceptedAlong (boot erasedStore .micros {} {} {} 0) outage = [.closed] := by
  have ample : erasedStore.Ample := ⟨⟨rfl, rfl⟩, by decide +kernel, by decide +kernel⟩
  have survives := intent_survives ample .micros {} {} {} 0 outage
  have commands : outage.flatMap Duty.commands = [.closed] := by decide +kernel
  have accepted := survives.accepted.trans commands
  have latest := survives.latest
  rw [accepted] at latest
  exact ⟨latest, accepted⟩

end Controller

end Board

end CircuitBreaker
