import CircuitBreaker.Proofs.Execute
import CircuitBreaker.Proofs.Restart
import Mathlib.Tactic.GCongr

/-!
# Every reply fits

A reply is no longer than the same reply with the widest name, numeral or record in each of its
places. Even a replay of a full log stays below the capacity for replies.
-/

set_option autoImplicit false

namespace CircuitBreaker

/-!
## Lengths of texts
-/

namespace Text

def NoLonger (first second : String) : Prop := first.utf8ByteSize ≤ second.utf8ByteSize

instance (first second : String) : Decidable (NoLonger first second) :=
  inferInstanceAs (Decidable (_ ≤ _))

namespace NoLonger

@[refl]
theorem refl (text : String) : NoLonger text text := Nat.le_refl _

@[gcongr]
theorem append {first second front back : String} (left : NoLonger first front)
    (right : NoLonger second back) : NoLonger (first ++ second) (front ++ back) := by
  unfold NoLonger
  rw [String.utf8ByteSize_append, String.utf8ByteSize_append]
  exact Nat.add_le_add left right

end NoLonger

private theorem size_ofList_of_narrow {chars : List Char}
    (narrow : ∀ char ∈ chars, char.utf8Size = 1) :
    (String.ofList chars).utf8ByteSize = chars.length := by
  induction chars with
  | nil => rfl
  | cons first rest ih =>
      rw [String.ofList_cons, String.utf8ByteSize_append, String.utf8ByteSize_singleton,
        narrow first List.mem_cons_self, ih fun char member => narrow char (.tail _ member),
        List.length_cons, Nat.add_comm]

private theorem narrow_digit {number : Nat} {char : Char} (digit : char ∈ Nat.toDigits 10 number) :
    char.utf8Size = 1 := by
  have decimal := Nat.isDigit_of_mem_toDigits (by decide) (by decide) digit
  have range := Char.isDigit_iff_toNat.mp decimal
  rw [Char.utf8Size_eq_one_iff, UInt32.le_iff_toNat_le]
  exact Nat.le_trans range.2 (by decide)

theorem size_numeral (number : Nat) :
    (toString number).utf8ByteSize = (Nat.toDigits 10 number).length := by
  rw [Nat.toString_eq_ofList_toDigits]
  exact size_ofList_of_narrow fun char digit => narrow_digit digit

theorem size_alignRight (width number : Nat) :
    (alignRight width number).utf8ByteSize = max width (Nat.toDigits 10 number).length := by
  unfold alignRight
  rw [Nat.toString_eq_ofList_toDigits, String.toList_ofList, size_ofList_of_narrow,
    List.length_leftpad]
  intro char member
  rcases List.mem_append.mp member with blank | digit
  · rw [List.eq_of_mem_replicate blank]
    rfl
  · exact narrow_digit digit

theorem length_toDigits_mono {number bound : Nat} (small : number ≤ bound) :
    (Nat.toDigits 10 number).length ≤ (Nat.toDigits 10 bound).length := by
  have fits := (Nat.length_toDigits_le_iff (by decide) Nat.length_toDigits_pos).mp
    (Nat.le_refl (Nat.toDigits 10 bound).length)
  exact (Nat.length_toDigits_le_iff (by decide) Nat.length_toDigits_pos).mpr
    (Nat.lt_of_le_of_lt small fits)

namespace NoLonger

@[gcongr]
theorem numeral {number bound : Nat} (small : number ≤ bound) :
    NoLonger (toString number) (toString bound) := by
  unfold NoLonger
  rw [size_numeral, size_numeral]
  exact length_toDigits_mono small

@[gcongr]
theorem alignRight {width number bound : Nat} (small : number ≤ bound) :
    NoLonger (alignRight width number) (alignRight width bound) := by
  unfold NoLonger
  rw [size_alignRight, size_alignRight]
  have digits := length_toDigits_mono small
  omega

end NoLonger

end Text

open Text (NoLonger)

namespace Console

theorem text_cons (line : String) (rest : List String) :
    text (line :: rest) = line ++ "\n" ++ text rest := by
  rw [text, List.map_cons, String.join_cons, text]

theorem noLonger_cons {line wide : String} {rest others : List String} (first : NoLonger line wide)
    (later : NoLonger (text rest) (text others)) :
    NoLonger (text (line :: rest)) (text (wide :: others)) := by
  rw [text_cons, text_cons]
  exact (first.append (.refl _)).append later

theorem noLonger_line {line wide : String} (narrow : NoLonger line wide) :
    NoLonger (text [line]) (text [wide]) :=
  noLonger_cons narrow (.refl _)

theorem noLonger_replicate {lines : List String} {wide : String} {count : Nat}
    (few : lines.length ≤ count) (narrow : ∀ line ∈ lines, NoLonger line wide) :
    NoLonger (text lines) (text (List.replicate count wide)) := by
  induction lines generalizing count with
  | nil => exact Nat.zero_le _
  | cons line rest ih =>
      cases count with
      | zero => cases few
      | succ count =>
          exact noLonger_cons (narrow line List.mem_cons_self)
            (ih (Nat.le_of_succ_le_succ few) fun other member => narrow other (.tail _ member))

end Console

/-!
## The widest names
-/

namespace Text.NoLonger

theorem state (state : BreakerState) : NoLonger state.name BreakerState.transient.name := by
  cases state <;> decide +kernel

theorem cause (cause : TripCause) : NoLonger cause.name TripCause.overCurrentTest.name := by
  cases cause <;> decide +kernel

theorem phase (phase : Phase) : NoLonger phase.name Phase.supplyWait.name := by
  cases phase <;> decide +kernel

theorem mode (mode : ClosedMode) : NoLonger mode.name ClosedMode.modulated.name := by
  cases mode <;> decide +kernel

theorem modulationPhase (phase : ModulationPhase) :
    NoLonger phase.name ModulationPhase.disabled.name := by
  cases phase <;> decide +kernel

theorem onOff (on : Bool) : NoLonger (Console.onOff on) (Console.onOff false) := by
  cases on <;> decide +kernel

/-- The attempts left are what makes the longest event. -/
theorem event (event : LogEvent) : NoLonger event.text (LogEvent.recoveryAttempt 0xffff).text := by
  cases event with
  | stateChanged before after =>
      have wide : NoLonger (LogEvent.stateChanged before after).text
          (LogEvent.stateChanged .supplyWait .supplyWait).text :=
        append (append (append (refl "state ") (phase before)) (refl " -> ")) (phase after)
      exact Nat.le_trans wide (by decide +kernel)
  | tripped cause => cases cause <;> decide +kernel
  | recoveryAttempt remaining =>
      have most : remaining.toNat ≤ 65535 := Nat.le_of_lt_succ remaining.toNat_lt
      exact append (refl "recovery-attempt remaining=") (numeral most)
  | configRestored kind => cases kind <;> decide +kernel
  | configDefaulted kind => cases kind <;> decide +kernel
  | configStoreFailed kind => cases kind <;> decide +kernel

end Text.NoLonger

/-!
## Durations
-/

namespace RecoverySettings

/-- Both times are durations that the settings can hold. -/
structure Timed (settings : RecoverySettings) : Prop where
  delay : settings.delay ≤ Duration.longest
  resetTimeout : settings.resetTimeout ≤ Duration.longest

theorem timed_applyTo (arguments : RecoveryArguments) (settings : RecoverySettings) :
    (arguments.applyTo settings).Timed := by
  have delay := arguments.delay.toNat_lt
  have reset := arguments.reset.toNat_lt
  constructor <;>
    simp only [RecoveryArguments.applyTo, Duration.ofMillis, Duration.longest] <;> omega

/-- A record cuts the delay, and no reset timeout in its range is longer than an hour. -/
theorem timed_of_storable {settings : RecoverySettings} (valid : settings.Valid)
    (storable : settings.Storable) : settings.Timed := by
  have delay := congrArg RecoverySettings.delay storable
  have reset := valid.2
  constructor
  · rw [← delay]
    simp only [stored, Duration.ofMicros, Duration.longest]
    omega
  · simp only [maxResetTimeout, Duration.ofSeconds] at reset
    unfold Duration.longest
    omega

end RecoverySettings

/-!
## The widest replies
-/

namespace Console

def widestLog : List String := logLines (List.replicate 32 ⟨0xffffffff, 0, .recoveryAttempt 0xffff⟩)

def widestStatus : List String :=
  let state := BreakerState.transient.name
  let cause := TripCause.overCurrentTest.name
  let phase := Phase.supplyWait.name
  let supply := "ac"
  let reading := 0xffffffff
  let attempts := 0xffff
  let mode := ClosedMode.modulated.name
  [ s!"state={state} cause={cause} phase={phase}",
    s!"supply={supply} frequency={reading} mHz voltage={reading} mV current={reading} mA",
    s!"recovery={attempts}/{attempts}" ++ s!" mode={mode} switch={onOff false}" ]

def widestPoints : List String :=
  let word := 0xffffffff
  List.replicate Curve.maxPoints s!"{Text.alignRight 2 15} {word} mA {word} ms"

def widestRecovery : String :=
  recoveryLine ⟨.steady, false, 0xffff, Duration.longest, Duration.longest⟩

def widestCounts : String := countsText ⟨0xff, 0xff⟩

def widestReply : Command → List String
  | .openBreaker | .closeBreaker => [s!"ok {BreakerState.transient.name}"]
  | .status => widestStatus
  | .points none => widestPoints
  | .points (some _) => [s!"ok {Curve.maxPoints} points"]
  | .limit none => [s!"limit {0xff}"]
  | .limit (some _) => [s!"ok limit {0xff}"]
  | .recovery _ => [widestRecovery]
  | .mode none => [s!"mode {ClosedMode.modulated.name}"]
  | .mode (some _) => [s!"ok mode {ClosedMode.modulated.name}"]
  | .modulation none => [s!"modulation {widestCounts} state={ModulationPhase.disabled.name}"]
  | .modulation (some _) => [s!"ok modulation {widestCounts}"]
  | .log => widestLog
  | .help => helpLines

theorem widestReply_fits (command : Command) :
    (text (widestReply command)).utf8ByteSize ≤ replyCapacity := by
  cases command with
  | points value | limit value | recovery value | mode value | modulation value =>
      cases value <;> rw [widestReply] <;> decide +kernel
  | _ => decide +kernel

example : (text widestLog).utf8ByteSize = 1440 := by decide +kernel

theorem errorReply_fits : (error : ConsoleError) → (errorReply error).utf8ByteSize ≤ replyCapacity
  | .malformed | .tooManyPoints | .lineOverflow | .invalidUtf8 | .output
  | .rejected .notSupported | .rejected .invalidArgument | .rejected .noMemory
  | .rejected (.hardware .limitOutOfRange) | .rejected (.hardware .notClosed) => by decide +kernel

private theorem toNat_le_max (word : UInt32) : word.toNat ≤ 0xffffffff :=
  Nat.le_of_lt_succ word.toNat_lt

theorem noLonger_pointLines {points : List CurvePoint} (few : points.length ≤ Curve.maxPoints) :
    NoLonger (text (pointLines points)) (text widestPoints) := by
  have length : (pointLines points).length = points.length := List.length_mapIdx
  refine noLonger_replicate (by omega) fun line member => ?_
  obtain ⟨index, inside, rfl⟩ := List.mem_mapIdx.mp member
  have last : index ≤ 15 := by
    unfold Curve.maxPoints at few
    omega
  gcongr
  · exact .alignRight last
  · exact toNat_le_max points[index].current
  · exact toNat_le_max points[index].duration

theorem noLonger_logLines (log : EventLog 32) :
    NoLonger (text (logLines log.records)) (text widestLog) := by
  have few : (logLines log.records).length ≤ 32 := by
    unfold logLines
    rw [List.length_map]
    exact log.size_le
  have wide : widestLog =
      List.replicate 32 s!"#{0xffffffff} {LogEvent.text (.recoveryAttempt 0xffff)}" :=
    List.map_replicate
  rw [wide]
  refine noLonger_replicate few fun line member => ?_
  obtain ⟨record, _, rfl⟩ := List.mem_map.mp member
  gcongr
  · exact toNat_le_max record.id
  · exact .event record.event

theorem noLonger_recoveryLine {settings : RecoverySettings} (timed : settings.Timed) :
    NoLonger (recoveryLine settings) widestRecovery := by
  unfold widestRecovery recoveryLine
  dsimp only
  gcongr
  · exact .onOff settings.enabled
  · exact Nat.le_of_lt_succ settings.attempts.toNat_lt
  · exact Nat.div_le_div_right timed.delay
  · exact Nat.div_le_div_right timed.resetTimeout

theorem noLonger_countsText (settings : ModulationSettings) :
    NoLonger (countsText settings) widestCounts := by
  unfold widestCounts countsText
  dsimp only
  gcongr
  · exact Nat.le_of_lt_succ settings.whileClosed.toNat_lt
  · exact Nat.le_of_lt_succ settings.period.toNat_lt

end Console

/-!
## Replies of a breaker
-/

open Console

namespace Breaker

variable {σ ζ μ κ : Type}

section Settings

variable {breaker after : Breaker σ ζ μ κ}

theorem length_of_setPoints [RecordStore κ] {points : List CurvePoint}
    (accepted : breaker.setPoints points = .ok after) : points.length ≤ Curve.maxPoints := by
  have curved := ensured accepted
  split at curved
  · cases curved
  · next curve built =>
    rw [← Curve.points_of_ofPoints? built]
    exact curve.size_le

theorem recoverySettings_spec {settings : RecoverySettings}
    (read : breaker.recoverySettings = .ok settings) :
    breaker.initialized = true ∧ settings = breaker.lifecycle.recovery := by
  unfold recoverySettings at read
  split at read
  · next inside => exact ⟨inside, (Except.ok.inj read).symm⟩
  · cases read

end Settings

variable [SwitchDriver σ] [Mains ζ] [Meter μ]

theorem noLonger_statusLines (breaker : Breaker σ ζ μ κ) :
    NoLonger (text breaker.statusLines) (text widestStatus) := by
  unfold statusLines widestStatus
  dsimp only
  refine noLonger_cons ?place (noLonger_cons ?supply (noLonger_line ?recovery))
  case place =>
    gcongr
    · exact .state breaker.state
    · exact .cause breaker.cause
    · exact .phase breaker.lifecycle.phase
  case supply =>
    gcongr
    · cases breaker.lifecycle.acSupply <;> exact .refl _
    · exact toNat_le_max breaker.supplyFrequency
    · exact toNat_le_max (Meter.voltage breaker.meter)
    · exact toNat_le_max (Meter.current breaker.meter)
  case recovery =>
    gcongr
    · exact Nat.le_of_lt_succ breaker.lifecycle.attemptsLeft.toNat_lt
    · exact Nat.le_of_lt_succ breaker.lifecycle.recovery.attemptBudget.toNat_lt
    · exact .mode breaker.lifecycle.recovery.mode
    · exact .onOff (SwitchDriver.isOn breaker.switch)

variable [RecordStore κ] {breaker after : Breaker σ ζ μ κ}

/-- A command that is not refused gets no longer a reply than the widest one. -/
theorem execute_noLonger {command : Command} {now : Nat} {lines : List String}
    (timed : breaker.initialized = true → breaker.lifecycle.recovery.Timed)
    (ran : breaker.execute command now = .ok (lines, after)) :
    NoLonger (text lines) (text (widestReply command)) := by
  cases command with
  | openBreaker | closeBreaker =>
      obtain ⟨answered, _, same⟩ := bind_eq_ok.mp ran
      cases same
      refine noLonger_line ?_
      gcongr
      exact .state after.state
  | status =>
      cases ran
      exact breaker.noLonger_statusLines
  | points points =>
      cases points with
      | none =>
          obtain ⟨points, read, same⟩ := bind_eq_ok.mp ran
          cases same
          unfold Breaker.points at read
          split at read <;> cases read
          exact noLonger_pointLines breaker.curve.curve.size_le
      | some points =>
          obtain ⟨set, accepted, same⟩ := bind_eq_ok.mp ran
          cases same
          -- Any number of points can be asked for, but no more than a curve has are accepted.
          refine noLonger_line ?_
          gcongr
          exact length_of_setPoints accepted
  | limit limit =>
      cases limit with
      | none =>
          obtain ⟨limit, _, same⟩ := bind_eq_ok.mp ran
          cases same
          refine noLonger_line ?_
          gcongr
          exact Nat.le_of_lt_succ limit.toNat_lt
      | some limit =>
          obtain ⟨set, _, same⟩ := bind_eq_ok.mp ran
          cases same
          refine noLonger_line ?_
          gcongr
          exact Nat.le_of_lt_succ limit.toNat_lt
  | recovery arguments =>
      cases arguments with
      | none =>
          obtain ⟨settings, read, same⟩ := bind_eq_ok.mp ran
          cases same
          obtain ⟨inside, rfl⟩ := recoverySettings_spec read
          exact noLonger_line (noLonger_recoveryLine (timed inside))
      | some arguments =>
          obtain ⟨settings, _, set⟩ := bind_eq_ok.mp ran
          obtain ⟨answered, _, same⟩ := bind_eq_ok.mp set
          cases same
          exact noLonger_line
            (noLonger_recoveryLine (RecoverySettings.timed_applyTo arguments settings))
  | mode mode =>
      cases mode with
      | none =>
          obtain ⟨settings, _, same⟩ := bind_eq_ok.mp ran
          cases same
          refine noLonger_line ?_
          gcongr
          exact .mode settings.mode
      | some mode =>
          obtain ⟨settings, _, set⟩ := bind_eq_ok.mp ran
          obtain ⟨answered, _, same⟩ := bind_eq_ok.mp set
          cases same
          refine noLonger_line ?_
          gcongr
          exact .mode mode
  | modulation settings =>
      cases settings with
      | none =>
          obtain ⟨settings, _, same⟩ := bind_eq_ok.mp ran
          cases same
          refine noLonger_line ?_
          gcongr
          · exact noLonger_countsText settings
          · exact .modulationPhase breaker.lifecycle.modulation.phase
      | some settings =>
          obtain ⟨set, _, same⟩ := bind_eq_ok.mp ran
          cases same
          refine noLonger_line ?_
          gcongr
          exact noLonger_countsText settings
  | log =>
      cases ran
      exact noLonger_logLines breaker.log
  | help =>
      cases ran
      exact .refl _

theorem executeWithin_of_error {capacity : Nat} {command : Command} {now : Nat}
    {error : BreakerError} (ran : breaker.execute command now = .error error) :
    breaker.executeWithin capacity command now = (.error (.rejected error), breaker) := by
  rw [executeWithin, ran]

theorem executeWithin_of_timed {command : Command} {now : Nat} {lines : List String}
    (timed : breaker.initialized = true → breaker.lifecycle.recovery.Timed)
    (ran : breaker.execute command now = .ok (lines, after)) :
    (text lines).utf8ByteSize ≤ replyCapacity ∧
      breaker.executeWithin replyCapacity command now = (.ok (text lines), after) := by
  have fits : (text lines).utf8ByteSize ≤ replyCapacity :=
    Nat.le_trans (execute_noLonger timed ran) (widestReply_fits command)
  refine ⟨fits, ?_⟩
  rw [executeWithin, ran]
  exact if_pos fits

theorem respond_fits (timed : breaker.initialized = true → breaker.lifecycle.recovery.Timed)
    (line : String) (now : Nat) :
    (breaker.respond line now).1.reply.utf8ByteSize ≤ replyCapacity := by
  unfold respond
  cases Command.parse line with
  | error error => exact errorReply_fits _
  | ok command =>
      dsimp only
      cases ran : breaker.execute command now with
      | error error =>
          rw [executeWithin_of_error ran]
          exact errorReply_fits _
      | ok answer =>
          obtain ⟨fits, full⟩ := executeWithin_of_timed timed ran
          rw [full]
          exact fits

/-- In whatever state a breaker is, with recovery times that are durations: no reply is too long,
no command ends in an error of the output, and a command that is not refused gets its full reply
and its intent. -/
theorem replies_fit (fresh : breaker.initialized = false) (steps : List (Step σ ζ μ κ))
    (given : ∀ settings, .act (.adjust (.recovery settings)) ∈ steps → settings.Timed)
    (line : String) (now : Nat) :
    let reached := breaker.history steps
    (reached.respond line now).1.reply.utf8ByteSize ≤ replyCapacity ∧
      (∀ command, (reached.executeWithin replyCapacity command now).1 ≠ .error .output) ∧
      ∀ command lines after, Command.parse line = .ok command →
        reached.execute command now = .ok (lines, after) →
        (text lines).utf8ByteSize ≤ replyCapacity ∧
          reached.respond line now = (⟨text lines, intentOf command⟩, after) := by
  intro reached
  -- No record holds a delay that is longer, and every other one was given.
  have timed (inside : reached.initialized = true) : reached.lifecycle.recovery.Timed :=
    recovery_history (fun _ valid storable => RecoverySettings.timed_of_storable valid storable)
      fresh steps (fun settings member _ => given settings member) inside
  refine ⟨respond_fits timed line now, fun command => ?_, ?_⟩
  · cases ran : reached.execute command now with
    | error error =>
        rw [executeWithin_of_error ran]
        simp
    | ok answer =>
        rw [(executeWithin_of_timed timed ran).2]
        simp
  · intro command lines after parsed ran
    obtain ⟨fits, full⟩ := executeWithin_of_timed timed ran
    refine ⟨fits, ?_⟩
    unfold respond
    rw [parsed]
    dsimp only
    rw [full]

end Breaker

namespace Bench

def patient : List BenchStep := [
  .init 0,
  .act (.adjust (.recovery
    ⟨.modulated, true, 0xffff, Duration.longest, RecoverySettings.maxResetTimeout⟩)) ]

theorem replies_fit_patient :
    (((bench {} {}).history patient).respond "recovery" 1000).1.reply.utf8ByteSize ≤ replyCapacity ∧
      (((bench {} {}).history patient).respond "recovery" 1000).1.reply =
        "recovery on attempts=65535 delay=18446744073709551615999 ms reset=3600000 ms\n" := by
  have given (settings : RecoverySettings)
      (member : .act (.adjust (.recovery settings)) ∈ patient) : settings.Timed := by
    rcases List.mem_cons.mp member with started | set
    · cases started
    · cases List.mem_singleton.mp set
      exact ⟨Nat.le_refl _, by decide +kernel⟩
  have fresh : (bench {} {}).initialized = false := rfl
  have fits := Breaker.replies_fit fresh patient given "recovery" 1000
  exact ⟨fits.1, by decide +kernel⟩

end Bench

end CircuitBreaker
