import DebugControl.Session.Basic

/-!
# Waiting for a prompt

`waitFor` looks at the reply after each portion of output, and at the latest after each poll
interval. It ends when the tail of the reply shows the prompt, when the debugger has exited, or when
nothing arrived for as long as the session bears silence. Only a reply that shows the prompt is
taken out of the sink.
-/

namespace DebugControl.Control

variable {σ : Type} [Host σ]

/-- What is waited for: a prompt among the last lines, and whether the simple prompt or an exit will
do as well. -/
structure Goal where
  prompt : Prompt
  simple : Bool
  tail : Nat
  orExit : Bool

def Goal.isMet (g : Goal) (reply : List Line) : Bool := g.prompt.matchesTail reply g.tail g.simple

def timeoutFailure (g : Goal) (terminated : Bool) : Control σ Failure := do
  return .timeout (← get).timing.silence g.prompt.pattern g.tail terminated

def noteReply (reply : List Line) : Control σ Unit := do
  let name := (← get).toolName
  modify fun s => { s with log := reply.reverse.map (.replied name) ++ s.log }

def concludeExit (g : Goal) (poll : Nat) : Control σ (Except Failure (List Line)) := do
  let _ ← awaitStreamsClosed poll
  let reply ← snapshot
  noteReply reply
  if g.isMet reply then return .ok (← reset)
  else if g.orExit then return .ok reply
  else return .error (← timeoutFailure g true)

/-- Waits for so many rounds at most; `quiet` is when output was last seen. -/
def waitFrom (g : Goal) (poll silence : Nat) :
    Nat → Nat → Control σ (Except Failure (List Line))
  | 0, _ => failure
  | rounds + 1, quiet => do
    if (← clock) - quiet < silence then
      let fresh ← awaitData poll
      let quiet ← if fresh then clock else pure quiet
      let reply ← snapshot
      if g.isMet reply then
        noteReply reply
        return .ok (← reset)
      else if ← isTerminated then concludeExit g poll
      else waitFrom g poll silence rounds quiet
    else
      noteReply (← snapshot)
      return .error (← timeoutFailure g false)

def waitFor (rounds : Nat) (g : Goal) : Control σ (Except Failure (List Line)) := do
  let timing := (← get).timing
  waitFrom g timing.pollInterval.nanoseconds timing.silence.nanoseconds rounds (← clock)

def waitForPattern (rounds : Nat) (pattern : String) (simple : Bool) (tail : Nat) (orExit : Bool) :
    Control σ (Except Failure (List Line)) := do
  match Prompt.new pattern with
  | .error f => return .error f
  | .ok prompt => waitFor rounds ⟨prompt, simple, tail, orExit⟩

def waitForSimplePrompt (rounds : Nat) : Control σ (Except Failure (List Line)) :=
  waitForPattern rounds Notice.simplePrompt true 1 false

end DebugControl.Control
