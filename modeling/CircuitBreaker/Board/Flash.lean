import CircuitBreaker.Storage

/-!
# Flash page

The last page of the flash of a board, as storage. A page can only be erased as a
whole, so a write reads it, erases it and programs it again.
-/

set_option autoImplicit false

namespace CircuitBreaker.Board

structure Flash where
  page : Bytes
  /-- How often the page has been erased. -/
  erases : Nat := 0
  failsReads : Bool := false
  failsErases : Bool := false
deriving DecidableEq, Repr

namespace Flash

def pageSize : Nat := 2048

/-- A page that has never been programmed. -/
def erased : Flash where
  page := List.replicate pageSize 0xff

/-- Puts bytes into the page before the board starts, if they fit. -/
def load (flash : Flash) (address : Nat) (content : Bytes) : Flash :=
  { flash with page := (flash.page.overwrite? address content).getD flash.page }

def read (flash : Flash) (address length : Nat) : Option Bytes :=
  if flash.failsReads then none else flash.page.slice? address length

/-- Changes some bytes of the page. Nothing is lost if the page cannot be read or
cannot be erased. -/
def write (flash : Flash) (address : Nat) (content : Bytes) : Option Flash :=
  if flash.failsReads || flash.failsErases then none
  else
    (flash.page.overwrite? address content).map fun page =>
      { flash with page, erases := flash.erases + 1 }

instance : Storage Flash where
  capacity flash := flash.page.length
  read := read
  write := write

end Flash

end CircuitBreaker.Board
