/-!
# Inputs

What the tasks and consoles around a breaker send to it. The driver has noted
the cause of a change of position before it is sent.
-/

set_option autoImplicit false

namespace CircuitBreaker

inductive Input where
  | zeroCrossing
  | switchChanged (closed : Bool)
  | openRequest
  | closeRequest
deriving DecidableEq, Repr

def Input.text : Input → String
  | zeroCrossing => "ZeroCrossing"
  | switchChanged true => "SwitchChanged \x7b closed: true \x7d"
  | switchChanged false => "SwitchChanged \x7b closed: false \x7d"
  | openRequest => "Open"
  | closeRequest => "Close"

end CircuitBreaker
