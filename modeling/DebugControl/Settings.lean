import DebugControl.Duration
import DebugControl.Text.Blank

/-!
# Settings

Three groups of settings: how the program logs, how long a session waits, and which debugger it
starts. `validate` states when a choice can work.
-/

namespace DebugControl

structure LogSettings where
  level : String
  json : Bool
deriving Repr, DecidableEq

/-- How often a session looks for output, and how long it bears silence, in milliseconds. -/
structure Timing where
  poll : Nat
  timeout : Nat
deriving Repr, DecidableEq

structure DebuggerSettings where
  tool : String
  extraArgs : List String
deriving Repr, DecidableEq

structure Settings where
  log : LogSettings
  timing : Timing
  debugger : DebuggerSettings
deriving Repr, DecidableEq

inductive Violation where
  | pollIsZero
  | timeoutTooShort (timeout poll : Nat)
  | noTool
deriving Repr, DecidableEq

def Violation.message : Violation → String
  | .pollIsZero => "session.poll_interval_ms must be greater than zero"
  | .timeoutTooShort timeout poll =>
    s!"session.timeout_ms ({timeout}) must not be shorter than session.poll_interval_ms ({poll})"
  | .noTool => "debugger.tool must not be empty"

inductive SettingsError where
  | unreadable (message : String)
  | malformed (message : String)
  | invalid (message : String)
deriving Repr, DecidableEq

def SettingsError.message : SettingsError → String
  | .unreadable m => s!"io: {m}"
  | .malformed m => s!"parse: {m}"
  | .invalid m => s!"validation: {m}"

namespace Timing

def defaultPoll : Nat := 1000

def defaultTimeout : Nat := 60000

def default : Timing := ⟨defaultPoll, defaultTimeout⟩

def limit : Nat := UInt64.size

/-- Whole milliseconds of the durations, reduced to 64 bits. -/
def ofDurations (poll timeout : Duration) : Timing :=
  ⟨poll.milliseconds % limit, timeout.milliseconds % limit⟩

def pollInterval (t : Timing) : Duration := .ofMilliseconds t.poll

def silence (t : Timing) : Duration := .ofMilliseconds t.timeout

def validate (t : Timing) : Except Violation Unit :=
  if t.poll = 0 then .error .pollIsZero
  else if t.timeout < t.poll then .error (.timeoutTooShort t.timeout t.poll)
  else .ok ()

end Timing

namespace LogSettings

def defaultLevel : String := "info"

def default : LogSettings := ⟨defaultLevel, false⟩

end LogSettings

namespace DebuggerSettings

def defaultTool : String := "jdb"

def default : DebuggerSettings := ⟨defaultTool, []⟩

def validate (d : DebuggerSettings) : Except Violation Unit :=
  if Text.trim d.tool.toList = [] then .error .noTool else .ok ()

end DebuggerSettings

namespace Settings

def default : Settings := ⟨.default, .default, .default⟩

def validate (s : Settings) : Except Violation Unit := do
  s.timing.validate
  s.debugger.validate

def validated (s : Settings) : Except SettingsError Settings :=
  match s.validate with
  | .ok () => .ok s
  | .error v => .error (.invalid v.message)

theorem validated_default : default.validated = .ok default := rfl

end Settings

end DebugControl
