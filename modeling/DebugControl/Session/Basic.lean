import DebugControl.Files.Path
import DebugControl.Prompt
import DebugControl.Session.Host

/-!
# Sessions

A session is a debugger on a host together with the sink that gathers its output, a log of what
happened, and a history of all that its controller did and learnt. The controller of a session is a
state computation; it has no result if a loop did not come to an end in the number of rounds that it
was given.
-/

namespace DebugControl

inductive LogEntry where
  | launching (commandLine : String)
  | sent (text : String)
  | replied (name : String) (line : Line)
  | terminating
  | debuggeeExited (attempts : Nat)
deriving Repr, DecidableEq

def LogEntry.text : LogEntry → String
  | .launching commandLine => s!"INFO launching debugger command={commandLine}"
  | .sent text => s!"INFO > {text}"
  | .replied name line => s!"INFO [{name}] {String.ofList line}"
  | .terminating => "INFO terminating debugger"
  | .debuggeeExited attempts => s!"INFO debuggee exited attempts={attempts}"

/-- A thing that a controller does or learns, or some output that reaches the sink. -/
inductive Moment where
  | received (arrivals : List Arrival)
  /-- What arrived while the controller let at most so many nanoseconds pass. -/
  | waited (limit : Nat) (arrivals : List Arrival)
  | looked (reply : List Line)
  | took (reply : List Line)
  | probed (exit : Option ExitStatus)
  | timed (now : Nat)
  | sent (bytes : List UInt8) (result : Except Fault Unit)
  | killed

structure Session (σ : Type) where
  program : String
  timing : Timing
  threadPrompt : Prompt
  sink : Sink
  host : σ
  /-- What happened, the latest first. -/
  log : List LogEntry
  /-- Every moment of the session, the latest first. -/
  history : List Moment

abbrev Control (σ α : Type) := StateT (Session σ) Option α

namespace Session

variable {σ : Type}

/-- The sink of a session that has just started: two streams are open. -/
def freshSink : Sink := (Sink.new Notice.lineSeparator.toList).openStream.openStream

def launch (spawn : String → List String → Except Fault σ) (program : String) (args : List String)
    (timing : Timing) : Except Failure (Session σ) := do
  match timing.validate with
  | .error v => throw (.settings (.invalid v.message))
  | .ok () => pure ()
  let threadPrompt ← Prompt.new Notice.threadPromptPattern
  match spawn program args with
  | .error f => throw (.launch program f)
  | .ok host =>
    pure ⟨program, timing, threadPrompt, freshSink, host,
      [.launching (" ".intercalate (program :: args))], []⟩

/-- The last name in the program's path, or the whole of it if there is none. -/
def toolName (s : Session σ) : String :=
  match (Path.steps (Utf8.ofString s.program)).getLast? with
  | none => s.program
  | some name =>
    if name = Path.dot ∨ name = Path.dotDot then s.program
    else String.ofList (Utf8.decode name)

end Session

namespace Control

variable {σ : Type} [Host σ]

def note (e : LogEntry) : Control σ Unit := modify fun s => { s with log := e :: s.log }

def turn : Control σ Unit :=
  modify fun s =>
    let (arrivals, host) := Host.turn s.host
    { s with
      host
      sink := s.sink.receiveAll arrivals
      history := .received arrivals :: s.history }

/-- Lets time pass until the sink satisfies a condition, for so many nanoseconds at most. -/
def awaitSink (limit : Nat) (ready : Sink → Bool) : Control σ Bool :=
  modifyGet fun s =>
    let (arrivals, host) := Host.await limit (fun a => ready (s.sink.receiveAll a)) s.host
    let sink := s.sink.receiveAll arrivals
    (ready sink, { s with host, sink, history := .waited limit arrivals :: s.history })

def awaitData (limit : Nat) : Control σ Bool := awaitSink limit Sink.hasPending

def awaitStreamsClosed (limit : Nat) : Control σ Bool := awaitSink limit Sink.streamsClosed

def sleep (time : Nat) : Control σ Unit := do
  let _ ← awaitSink time fun _ => false

def clock : Control σ Nat :=
  modifyGet fun s =>
    let now := Host.clock s.host
    (now, { s with history := .timed now :: s.history })

def snapshot : Control σ (List Line) := do
  turn
  modifyGet fun s =>
    let (lines, sink) := s.sink.snapshot
    (lines, { s with sink, history := .looked lines :: s.history })

def reset : Control σ (List Line) := do
  turn
  modifyGet fun s =>
    let (lines, sink) := s.sink.reset
    (lines, { s with sink, history := .took lines :: s.history })

def hasNewData : Control σ Bool := do
  turn
  return (← get).sink.hasPending

def exit? : Control σ (Option ExitStatus) := do
  turn
  modifyGet fun s =>
    let status := Host.exit? s.host
    (status, { s with history := .probed status :: s.history })

def isTerminated : Control σ Bool := do
  return (← exit?).isSome

/-- The exit code, unless the debugger still runs or was ended by a signal. -/
def exitCode : Control σ (Option Nat) := do
  return (← exit?).bind ExitStatus.code?

def send (bytes : List UInt8) : Control σ (Except Fault Unit) := do
  if bytes = [] then return .ok ()
  turn
  modifyGet fun s =>
    let (result, host) := Host.send bytes s.host
    (result, { s with host, history := .sent bytes result :: s.history })

def sendLine (text : String) : Control σ (Except Fault Unit) := do
  match ← send (Utf8.ofString text) with
  | .error f => return .error f
  | .ok () => send (Utf8.ofString Notice.lineSeparator)

def terminate : Control σ Unit := do
  turn
  note .terminating
  modify fun s => { s with host := Host.kill s.host, history := .killed :: s.history }

/-- A text between quotes, with backslashes before quotes and backslashes. -/
def quoted (text : String) : String :=
  let inner := text.toList.flatMap fun c => if c = '"' ∨ c = '\\' then ['\\', c] else [c]
  "\"" ++ String.ofList inner ++ "\""

def describe (identity : String) : Control σ String := do
  let terminated ← isTerminated
  return s!"DebuggerSession \x7b id: {identity}, program: {quoted (← get).program}, " ++
    s!"terminated: {terminated} \x7d"

end Control

end DebugControl
