import DebugControl.Fault
import DebugControl.Settings
import DebugControl.Text.Utf8
import DebugControl.Toml.Reader
import DebugControl.Toml.Writer

/-!
# Stored settings

Settings are stored as a document with the sections `general`, `session` and `debugger`. A section
is a table of named settings or an array that gives the first of them in order; what is missing has
its default, what is unknown is ignored, and what has the wrong type makes the document malformed.
`Settings.write` writes a document and `Settings.load` reads one; both validate.
-/

namespace DebugControl.Stored

open Toml

/-- What a section of a document gives: settings by name or by position. -/
inductive Section where
  | named (entries : Entries)
  | listed (items : List Value)

def Section.value? (s : Section) (name : String) (position : Nat) : Option Value :=
  match s with
  | .named entries => entries.lookup name.toList
  | .listed items => items[position]?

/-- A date counts as a section without settings. -/
def Section.ofValue? : Value → Option Section
  | .table _ entries => some (.named entries)
  | .array items => some (.listed items)
  | .tables latest earlier => some (.listed (earlier.reverse ++ [.table .header latest]))
  | .moment => some (.named [])
  | _ => none

def text? : Value → Option String
  | .text content => some (String.ofList content)
  | _ => none

def boolean? : Value → Option Bool
  | .boolean b => some b
  | _ => none

def natural? : Value → Option Nat
  | .integer n => if 0 ≤ n then some n.toNat else none
  | _ => none

def texts? : Value → Option (List String)
  | .array items => items.mapM text?
  | _ => none

/-- A setting of a section, or its default. -/
def Section.setting {α : Type} (s : Section) (name : String) (position : Nat)
    (read : Value → Option α) (missing : α) : Option α :=
  match s.value? name position with
  | none => some missing
  | some v => read v

def log? (s : Section) : Option LogSettings := do
  let level ← s.setting "log_level" 0 text? LogSettings.defaultLevel
  let json ← s.setting "log_json" 1 boolean? false
  pure ⟨level, json⟩

def timing? (s : Section) : Option Timing := do
  let poll ← s.setting "poll_interval_ms" 0 natural? Timing.defaultPoll
  let timeout ← s.setting "timeout_ms" 1 natural? Timing.defaultTimeout
  pure ⟨poll, timeout⟩

def debugger? (s : Section) : Option DebuggerSettings := do
  let tool ← s.setting "tool" 0 text? DebuggerSettings.defaultTool
  let extraArgs ← s.setting "extra_args" 1 texts? []
  pure ⟨tool, extraArgs⟩

/-- A section of a document; if the document lacks it, it has a default of its own. -/
def section? {α : Type} (document : Entries) (name : String) (read : Section → Option α)
    (missing : α) : Option α :=
  match document.lookup name.toList with
  | none => some missing
  | some v => (Section.ofValue? v).bind read

def settings? (document : Entries) : Option Settings := do
  let log ← section? document "general" log? LogSettings.default
  let timing ← section? document "session" timing? Timing.default
  let debugger ← section? document "debugger" debugger? DebuggerSettings.default
  pure ⟨log, timing, debugger⟩

def writeSettings (s : Settings) : List Char :=
  let text (t : String) := writeText t.toList
  let number (n : Nat) := (toString n).toList
  let assign (key : String) (value : List Char) := writeAssignment key.toList value
  writeHeader "general".toList ++
    assign "log_level" (text s.log.level) ++
    assign "log_json" (writeBoolean s.log.json) ++
    '\n' :: writeHeader "session".toList ++
    assign "poll_interval_ms" (number s.timing.poll) ++
    assign "timeout_ms" (number s.timing.timeout) ++
    '\n' :: writeHeader "debugger".toList ++
    assign "tool" (text s.debugger.tool) ++
    assign "extra_args" (writeArray (s.debugger.extraArgs.map text))

end DebugControl.Stored

namespace DebugControl.Settings

open Stored

def write (s : Settings) : Except SettingsError (List Char) := do
  let s ← s.validated
  if Toml.integerLimit ≤ s.timing.poll ∨ Toml.integerLimit ≤ s.timing.timeout then
    .error (.malformed "out-of-range integer")
  else .ok (writeSettings s)

def readText (text : List Char) : Except SettingsError Settings :=
  match (Toml.read text).bind settings? with
  | none => .error (.malformed "not a settings document")
  | some s => s.validated

def load (bytes : List UInt8) : Except SettingsError Settings :=
  match Utf8.decode? bytes with
  | none => .error (.unreadable Fault.malformedText.message)
  | some text => readText text

def loadFile : Except Fault (List UInt8) → Except SettingsError Settings
  | .ok bytes => load bytes
  | .error f => .error (.unreadable f.message)

/-- The settings of a user: those of a file that need not be there. -/
def loadHome : Option (List UInt8) → Except SettingsError Settings
  | none => default.validated
  | some bytes => load bytes

def homePath : List String := [".debug-harness", "config.toml"]

end DebugControl.Settings
