import CircuitBreaker.Console.Response
import CircuitBreaker.Proofs.Run

/-!
# Executed commands

What a command of the operator can do to a breaker: nothing, a request to open or to close,
or a change of its settings.
-/

set_option autoImplicit false

namespace CircuitBreaker

variable {σ ζ μ κ : Type}

def Adjustment.IsSetting : Adjustment σ ζ μ κ → Prop
  | .hardwareLimit _ | .points _ | .recovery _ | .modulation _ => True
  | .observed _ | .dispatch | .surroundings .. => False

namespace Breaker

theorem bind_eq_ok {ε α β : Type} {first : Except ε α} {next : α → Except ε β} {value : β} :
    (first >>= next) = .ok value ↔ ∃ passed, first = .ok passed ∧ next passed = .ok value := by
  cases first with
  | ok passed => simp [bind, Except.bind]
  | error error => simp [bind, Except.bind]

variable {breaker after : Breaker σ ζ μ κ} {now : Nat} {lines : List String}

private theorem executed_ok {result : Except BreakerError (Breaker σ ζ μ κ)}
    {reply : Breaker σ ζ μ κ → List String}
    (ran : (result >>= fun answered => Except.ok (reply answered, answered)) = .ok (lines, after)) :
    result = .ok after := by
  obtain ⟨answered, accepted, same⟩ := bind_eq_ok.mp ran
  cases same
  exact accepted

variable [SwitchDriver σ] [RecordStore κ]

inductive Executes (breaker : Breaker σ ζ μ κ) (now : Nat) : Breaker σ ζ μ κ → Prop where
  | shows : Executes breaker now breaker
  | requests {after : Breaker σ ζ μ κ} (input : Input)
      (request : input = .openRequest ∨ input = .closeRequest)
      (accepted : breaker.handleInput input now = .ok after) : Executes breaker now after
  | sets (adjustment : Adjustment σ ζ μ κ) (setting : adjustment.IsSetting) :
      Executes breaker now (breaker.adjust adjustment)

private theorem executes_shows {α : Type} {setting : Except BreakerError α}
    {reply : α → List String}
    (ran : (setting >>= fun value => Except.ok (reply value, breaker)) = .ok (lines, after)) :
    Executes breaker now after := by
  obtain ⟨value, _, same⟩ := bind_eq_ok.mp ran
  cases same
  exact .shows

private theorem executes_sets (adjustment : Adjustment σ ζ μ κ) (setting : adjustment.IsSetting)
    {result : Except BreakerError (Breaker σ ζ μ κ)} (accepted : result = .ok after)
    (adjusted : breaker.adjust adjustment = breaker.afterCall result) :
    Executes breaker now after := by
  have same : breaker.adjust adjustment = after := by rw [adjusted, accepted, afterCall]
  rw [← same]
  exact .sets adjustment setting

variable [Mains ζ] [Meter μ]

theorem execute_executes {command : Command}
    (ran : breaker.execute command now = .ok (lines, after)) : Executes breaker now after := by
  cases command with
  | openBreaker => exact .requests .openRequest (.inl rfl) (executed_ok ran)
  | closeBreaker => exact .requests .closeRequest (.inr rfl) (executed_ok ran)
  | status | log | help =>
      cases ran
      exact .shows
  | points points =>
      cases points with
      | none => exact executes_shows ran
      | some points => exact executes_sets (.points points) trivial (executed_ok ran) rfl
  | limit limit =>
      cases limit with
      | none => exact executes_shows ran
      | some limit => exact executes_sets (.hardwareLimit limit) trivial (executed_ok ran) rfl
  | recovery arguments =>
      cases arguments with
      | none => exact executes_shows ran
      | some arguments =>
          obtain ⟨settings, _, set⟩ := bind_eq_ok.mp ran
          exact executes_sets (.recovery (arguments.applyTo settings)) trivial (executed_ok set) rfl
  | mode mode =>
      cases mode with
      | none => exact executes_shows ran
      | some mode =>
          obtain ⟨settings, _, set⟩ := bind_eq_ok.mp ran
          exact executes_sets (.recovery { settings with mode }) trivial (executed_ok set) rfl
  | modulation settings =>
      cases settings with
      | none => exact executes_shows ran
      | some settings => exact executes_sets (.modulation settings) trivial (executed_ok ran) rfl

/-- A line that is no command, or one that is refused, leaves the breaker as it is. -/
theorem respond_executes (breaker : Breaker σ ζ μ κ) (line : String) (now : Nat) :
    breaker.Executes now (breaker.respond line now).2 := by
  unfold respond
  cases Command.parse line with
  | error error => exact .shows
  | ok command =>
      dsimp only
      unfold executeWithin
      cases ran : breaker.execute command now with
      | error error => exact .shows
      | ok answer =>
          have executes : breaker.Executes now answer.2 := execute_executes ran
          by_cases fits : (Console.text answer.1).utf8ByteSize ≤ Console.replyCapacity <;>
            simpa [fits] using executes

end Breaker

end CircuitBreaker
