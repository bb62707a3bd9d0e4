import DebugControl.Fault
import DebugControl.Sink

/-!
# Hosts

A host is what runs a debugger: it has a clock, feeds the output of the debugger into a sink, takes
its input, and knows when it has exited. A controller acts on the host one step at a time; whatever
the host does by itself between two steps arrives with `turn`, and `await` lets time pass. Nothing
else is assumed of a host, so that a statement about all hosts is one about all schedules.
-/

namespace DebugControl

inductive ExitStatus where
  | exited (code : Nat)
  | signalled (number : Nat)
deriving Repr, DecidableEq

/-- The exit code, which a process that a signal ended has not. -/
def ExitStatus.code? : ExitStatus → Option Nat
  | .exited code => some code
  | .signalled _ => none

class Host (σ : Type) where
  /-- The time in nanoseconds. -/
  clock : σ → Nat
  /-- What has arrived by now. -/
  turn : σ → List Arrival × σ
  /-- Lets time pass until the arrivals satisfy a condition, for so many nanoseconds at most. -/
  await : Nat → (List Arrival → Bool) → σ → List Arrival × σ
  /-- How the debugger has ended, if it has. A probe that fails counts as an end without an exit code:
  a host that cannot tell answers that a signal ended the debugger. -/
  exit? : σ → Option ExitStatus
  /-- Writes to the input of the debugger. -/
  send : List UInt8 → σ → Except Fault Unit × σ
  kill : σ → σ

end DebugControl
