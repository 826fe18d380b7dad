import CircuitBreaker.Clock
import CircuitBreaker.Text.Numeral

/-!
# Transcripts

The record of a session: a heading that depends on the profile, then every line
that was said, with the time and the side that said it.
-/

set_option autoImplicit false

namespace CircuitBreaker.Emulator

inductive Profile where
  | cycle
  | recovery
  | curve
deriving DecidableEq, Repr

namespace Profile

def name : Profile → String
  | cycle => "Cycle"
  | recovery => "Recovery"
  | curve => "Curve"

def tag : Profile → String
  | cycle => "cycle"
  | recovery => "recovery"
  | curve => "curve"

def all : List Profile := [cycle, recovery, curve]

/-- The profile of a tag, in upper or lower case letters. -/
def ofTag? (tag : String) : Option Profile :=
  all.find? fun profile => tag.toList.map Char.toLower = profile.tag.toList

/-- What is said about a tag that no profile has. -/
def unknownMessage (tag : String) : String := s!"Unknown transcript profile `{tag}`"

def path (profile : Profile) : String := s!"transcripts/emulator-{profile.tag}.log"

def title : Profile → String
  | cycle => "Breaker emulator close/open transcript"
  | recovery => "Breaker emulator recovery transcript"
  | curve => "Breaker emulator trip curve transcript"

end Profile

inductive Speaker where
  | host
  | emulator
deriving DecidableEq, Repr

def Speaker.mark : Speaker → String
  | host => "HOST>"
  | emulator => "EMU <"

abbrev Transcript := List String

namespace Transcript

def heading (profile : Profile) : Transcript :=
  [s!"# {profile.title}", "# Timestamps are milliseconds of virtual time since session start", ""]

/-- A line said at an instant in nanoseconds. -/
def entry (now : Nat) (speaker : Speaker) (line : String) : String :=
  s!"[+{Text.alignRight 6 (Duration.toMillis now)} ms] {speaker.mark} {line}"

def add (transcript : Transcript) (now : Nat) (speaker : Speaker) (lines : List String) :
    Transcript :=
  transcript ++ lines.map (entry now speaker)

def text (transcript : Transcript) : String :=
  String.join (transcript.map fun line => line ++ "\n")

end Transcript

end CircuitBreaker.Emulator
