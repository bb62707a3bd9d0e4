import DebugControl.Report
import DebugControl.Script.Step
import DebugControl.Session.Dialogue
import DebugControl.Transcript

/-!
# Executing scripts

A script is executed against a debugger that has just been launched: its first prompt is awaited,
and then the steps are performed in order until one fails. Each leaves an entry for the transcript;
a command that succeeds also prints its reply.
-/

namespace DebugControl.Script

variable {σ : Type} [Host σ]

/-- What performing a step comes to: its entry, what it prints, and the reply that later
expectations look at, or the failure that ends the script. -/
structure Performed where
  entry : Entry
  printed : List (List Char)
  next : Except Report (List Line)

def printedReply (label : String) (reply : List Line) : List (List Char) :=
  ('>' :: ' ' :: label.toList) :: reply

def entryOf (label : String) : Except Failure (List Line) → Entry
  | .ok reply => ⟨label, reply, none⟩
  | .error f => ⟨label, [], some f.message⟩

/-- An outcome with what a failure is reported under, if anything. -/
def nextOf (context : Option String) : Except Failure (List Line) → Except Report (List Line)
  | .ok reply => .ok reply
  | .error f => .error (match context with
    | some c => f.report.context c
    | none => f.report)

def expectation (label text : String) (last : List Line) : Performed :=
  let joined := Text.join Notice.lineSeparator.toList last
  if Text.contains text.toList joined then ⟨⟨label, [], none⟩, [], .ok last⟩
  else
    ⟨⟨label, [], some "expectation not met"⟩, [],
      .error (.ofMessage
        s!"expected '{text}' in the last reply, got:\n{String.ofList joined}")⟩

/-- Performs a step; `last` is the reply that expectations look at. -/
def perform (rounds : Nat) (last : List Line) (step : Step) : Control σ Performed := do
  let label := step.label
  match step with
  | .send c =>
    let reply ← Control.command rounds c
    let printed := match reply with
      | .ok lines => printedReply label lines
      | .error _ => []
    return ⟨entryOf label reply, printed, nextOf (some s!"command '{c.text}' failed") reply⟩
  | .waitPrompt =>
    let reply ← Control.waitForSimplePrompt rounds
    return ⟨entryOf label reply, [], nextOf (some "no simple prompt") reply⟩
  | .contToExit attempts =>
    match ← Control.continueToExit rounds attempts with
    | .ok n => return ⟨⟨label, [s!"{n} attempts".toList], none⟩, [], .ok []⟩
    | .error f => return ⟨⟨label, [], some f.message⟩, [], .error f.report⟩
  | .quit =>
    let reply ← Control.quit rounds
    return ⟨entryOf label reply, [], nextOf none reply⟩
  | .expect text => return expectation label text last

structure Outcome where
  entries : List Entry
  printed : List (List Char)
  failure : Option Report
deriving Repr, DecidableEq

def Outcome.after (p : Performed) (rest : Outcome) : Outcome :=
  ⟨p.entry :: rest.entries, p.printed ++ rest.printed, rest.failure⟩

def performAll (rounds : Nat) : List Line → List Step → Control σ Outcome
  | _, [] => return ⟨[], [], none⟩
  | last, step :: rest => do
    let p ← perform rounds last step
    match p.next with
    | .error r => return ⟨[p.entry], p.printed, some r⟩
    | .ok last => return .after p (← performAll rounds last rest)

def startLabel : String := "@startup"

def execute (rounds : Nat) (steps : List Step) : Control σ Outcome := do
  let banner ← Control.waitForSimplePrompt rounds
  let entry := entryOf startLabel banner
  match nextOf (some "debugger did not show its prompt") banner with
  | .error r => return ⟨[entry], [], some r⟩
  | .ok _ => return .after ⟨entry, [], .ok []⟩ (← performAll rounds [] steps)

end DebugControl.Script
