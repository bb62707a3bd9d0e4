import DebugControl.Shell.Message
import DebugControl.Shell.Signal

/-!
# Waiting for processes

A shell waits for the processes of a command in the foreground, and then notes which background
processes have ended meanwhile. It says so if a signal has ended a process that it waited for.
-/

namespace DebugControl.Shell

open Machine (Task)

def statusOf : ExitStatus → Nat
  | .exited code => code
  | .signalled number => 128 + number

def announce (status : ExitStatus) (k : After) (e : Environment) : Task :=
  let text := match status with
    | .exited _ => none
    | .signalled number => Signal.announcement? number
  remark (text.elim [] fun t => t.toList ++ ['\n']) k e

def noticeAmong (k : After) : List Nat → After
  | [], e => k e
  | process :: rest, e =>
    .wait process .none fun answer =>
      match answer with
      | .ended status => noticeAmong k rest (e.noteEnd process status)
      | _ => noticeAmong k rest e

def notice (k : After) (e : Environment) : Task := noticeAmong k e.unnoticed e

/-- Waits for processes one after the other; the status is that of the last. -/
def awaitAll (k : After) : List Nat → After
  | [], e => notice k e
  | process :: rest, e =>
    .wait process .untilEnd fun answer =>
      match answer with
      | .ended status => announce status (awaitAll k rest) (e.withStatus (statusOf status))
      | _ => awaitAll k rest (e.withStatus 127)

def gather (k : After) (e : Environment) : Task :=
  .caught fun signals => k { e with pending := signals ++ e.pending }

end DebugControl.Shell
