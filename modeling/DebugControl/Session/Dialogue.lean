import DebugControl.Command
import DebugControl.Session.Wait

/-!
# Talking to the debugger

A command is written as one line, and its reply ends with the next thread prompt. A command that
tolerates an exit also ends with the debugger, and after that returns what is left of the output.
-/

namespace DebugControl.Control

variable {σ : Type} [Host σ]

/-- The reply of a debugger that has exited already. -/
def remainder : Control σ (List Line) := do
  let _ ← awaitStreamsClosed (← get).timing.pollInterval.nanoseconds
  let _ ← snapshot
  reset

def command (rounds : Nat) (c : Command) : Control σ (Except Failure (List Line)) := do
  if ← isTerminated then
    if c.allowExit then return .ok (← remainder) else return .error (.afterExit c.text)
  else
    note (.sent c.text)
    match ← sendLine c.text with
    | .error f => return .error (.write c.text f)
    | .ok () =>
      waitFor rounds ⟨(← get).threadPrompt, c.allowSimplePrompt, 1, c.allowExit⟩

def quit (rounds : Nat) : Control σ (Except Failure (List Line)) := command rounds .quit

def announcesExit (reply : List Line) : Bool :=
  reply.any fun line =>
    Text.contains Notice.applicationExit.toList line ||
      Text.contains Notice.applicationDisconnected.toList line

/-- How the attempts to continue ended: how many there were, and whether an exit was announced. -/
structure Continued where
  attempts : Nat
  announced : Bool
deriving Repr, DecidableEq

/-- Continues at most `left` more times after so many attempts. -/
def continueFrom (rounds : Nat) : Nat → Nat → Control σ (Except Failure Continued)
  | 0, attempts => return .ok ⟨attempts, false⟩
  | left + 1, attempts => do
    if ← isTerminated then return .ok ⟨attempts, false⟩
    else
      match ← command rounds Command.cont.orExit with
      | .error f => return .error f
      | .ok reply =>
        if announcesExit reply then return .ok ⟨attempts + 1, true⟩
        else continueFrom rounds left (attempts + 1)

def continueToExit (rounds most : Nat) : Control σ (Except Failure Nat) := do
  match ← continueFrom rounds most 0 with
  | .error f => return .error f
  | .ok c =>
    let terminated ← if c.announced then pure true else isTerminated
    if terminated then
      note (.debuggeeExited c.attempts)
      return .ok c.attempts
    else return .error (.stillRunning most)

def exitPause : Nat := 20000000

def awaitExitUntil (deadline : Nat) : Nat → Control σ Bool
  | 0 => failure
  | rounds + 1 => do
    if ← isTerminated then return true
    else
      let now ← clock
      if deadline ≤ now then return false
      else
        sleep (min exitPause (deadline - now))
        awaitExitUntil deadline rounds

def awaitExit (rounds time : Nat) : Control σ Bool := do
  awaitExitUntil ((← clock) + time) rounds

end DebugControl.Control
