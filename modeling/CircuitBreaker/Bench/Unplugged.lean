import CircuitBreaker.Input.Queue

/-!
# Unplugged producer

A sending side that reaches nobody, beside a queue that stays as it is.
-/

set_option autoImplicit false

namespace CircuitBreaker.Bench

structure Unplugged where
  queue : InputQueue boardQueueDepth := .empty
deriving DecidableEq, Repr

instance : InputProducer Unplugged where
  enqueue _ _ := .error .disconnected

instance : InputConsumer Unplugged where
  dequeue unplugged := .ok (unplugged.queue.pop.1, { queue := unplugged.queue.pop.2 })

end CircuitBreaker.Bench
