import DebugControl.Shell.Message

/-!
# Jumps

Where the running of a program goes on when it does not go on with the next statement: after leaving
loops, functions and sourced texts, after mistakes and at the exit.
-/

namespace DebugControl.Shell

structure Jumps where
  /-- How many loops there are to leave. -/
  depth : Nat
  /-- Leaves so many loops. -/
  leave : Nat → After
  /-- Begins the next round of a loop after leaving those inside it. -/
  next : Nat → After
  /-- Returns from a function or a sourced text. -/
  ret : After
  /-- After a mistake that gives up what runs. -/
  raise : After
  exit : After

namespace Jumps

def outside (exit : After) : Jumps := ⟨0, fun _ => exit, fun _ => exit, exit, exit, exit⟩

def forked (depth : Nat) (exit : After) : Jumps := { outside exit with depth }

def inLoop (j : Jumps) (k again : After) : Jumps :=
  { j with
    depth := j.depth + 1
    leave := fun n e => if n ≤ 1 ∨ j.depth = 0 then k e else j.leave (n - 1) e
    next := fun n e => if n ≤ 1 ∨ j.depth = 0 then again e else j.next (n - 1) e }

def inFunction (j : Jumps) (ret : After) (restore : Environment → Environment) : Jumps :=
  { j with
    depth := 0
    ret
    raise := fun e => j.raise (restore e)
    exit := fun e => j.exit (restore e) }

/-- The same jumps for environments in which something is restored; jumps that give up what runs
restore less. -/
def after (j : Jumps) (restore restoreLess : Environment → Environment) : Jumps :=
  { depth := j.depth
    leave := fun n e => j.leave n (restore e)
    next := fun n e => j.next n (restore e)
    ret := fun e => j.ret (restore e)
    raise := fun e => j.raise (restoreLess e)
    exit := fun e => j.exit (restoreLess e) }

end Jumps

end DebugControl.Shell
