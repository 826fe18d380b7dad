import CircuitBreaker.Emulator.Session

/-!
# Captured sessions

A script for each profile, and the transcript of the session that runs it.
-/

set_option autoImplicit false

namespace CircuitBreaker.Emulator

def Profile.script : Profile → List String
  | cycle => [
      "status", "close", "advance 250", "status", "open", "advance 20", "supply dc", "close",
      "advance 250", "status", "open", "log"]
  | recovery => [
      "recovery on 2 1000 60000", "supply dc", "close", "advance 250", "trip ocp", "status",
      "advance 1000", "trip ocp", "advance 1000", "trip ocp", "status", "close", "temp in 90",
      "advance 250", "status", "temp in 25", "open", "log"]
  | curve => [
      "points 1000:500 5000:200", "points", "close", "advance 250", "current 2000",
      "advance 400", "status", "advance 200", "status", "current 0", "close", "advance 250",
      "current 6000", "advance 300", "log"]

def transcriptOf (profile : Profile) (lines : List String) : Transcript :=
  (lines.foldl (fun session line => (session.handleLine line).2) (Session.begin profile)).transcript

def Profile.transcript (profile : Profile) : Transcript := transcriptOf profile profile.script

end CircuitBreaker.Emulator
