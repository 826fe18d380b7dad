import CircuitBreaker.Input
import CircuitBreaker.Storage

/-!
# Operator's intent

The position that the operator asked for last, kept in the store behind the
settings so that it outlives a loss of power. Only commands change it; trips do
not.
-/

set_option autoImplicit false

namespace CircuitBreaker

inductive Intent where
  | opened
  | closed
deriving DecidableEq, Repr

namespace Intent

def all : List Intent := [opened, closed]

def name : Intent → String
  | opened => "Open"
  | closed => "Closed"

def code : Intent → UInt8
  | opened => 0
  | closed => 1

def offset : Nat := 200

/-- The intent that an input expresses, if it is a command. -/
def ofInput : Input → Option Intent
  | .openRequest => some opened
  | .closeRequest => some closed
  | .zeroCrossing | .switchChanged _ => none

/-- The command that brings the intended position back. -/
def input : Intent → Input
  | opened => .openRequest
  | closed => .closeRequest

variable {κ : Type} [RecordStore κ]

/-- The stored intent. A missing or damaged record means open. -/
def load (store : κ) : Intent :=
  match RecordStore.load store offset 1 with
  | .ok [code] => if code = closed.code then closed else opened
  | _ => opened

/-- Stores an intent, unless it is stored already. -/
def save (store : κ) (intent : Intent) : Except StoreError κ :=
  match RecordStore.load store offset 1 with
  | .ok [code] =>
      if code = intent.code then .ok store else RecordStore.save store offset [intent.code]
  | _ => RecordStore.save store offset [intent.code]

end Intent

end CircuitBreaker
