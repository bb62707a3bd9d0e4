import DebugControl.Files
import DebugControl.Session.Host

/-!
# Tasks

A task is what a process does: a tree of requests to the machine, each with the continuation that
takes the answer. Processes talk through pipes, of which they hold ends, and through files, and a
process that no longer holds an end gives up its share of the pipe.
-/

namespace DebugControl.Machine

/-- The time that a request takes, in nanoseconds. -/
def requestTime : Nat := 1000

def startTime : Nat := 1000000

inductive Endpoint where
  | reader (pipe : Nat)
  | writer (pipe : Nat)
  | file (number : Nat) (place : Place)
  | device (d : Device) (access : Access)
  | directory (place : Place)
deriving Repr, DecidableEq

def Endpoint.null : Endpoint := .device .null .both

def Endpoint.isPipe : Endpoint → Bool
  | .reader _ | .writer _ => true
  | _ => false

/-- The signals that a process does not leave to the machine. -/
structure Signals where
  caught : List Nat
  ignored : List Nat
deriving Repr, DecidableEq

inductive Patience where
  | untilEnd
  /-- A signal that is caught ends the waiting, too. -/
  | untilCaught
  /-- The answer comes at once. -/
  | none
deriving Repr, DecidableEq

inductive Waited where
  | ended (status : ExitStatus)
  | unknown
  /-- The process goes on. -/
  | running
deriving Repr, DecidableEq

inductive Task where
  | exit (code : Nat)
  /-- Writes bytes; a process whose bytes nobody can read is sent a signal. -/
  | write (target : Endpoint) (bytes : List UInt8) (next : Option Fault → Task)
  /-- Reads one line with its end, or what there is at the end of input. -/
  | readLine (source : Endpoint) (next : Except Fault (List UInt8) → Task)
  /-- Reads all that is there, or nothing at the end of input. -/
  | readSome (source : Endpoint) (next : Except Fault (List UInt8) → Task)
  | sleep (nanoseconds : Nat) (next : Unit → Task)
  /-- From now on the process holds these ends only. -/
  | hold (ends : List Endpoint) (next : Unit → Task)
  /-- From now on the process does not hold this end. -/
  | release (e : Endpoint) (next : Unit → Task)
  /-- Makes a pipe, of which the process holds both ends. -/
  | makePipe (next : Nat → Task)
  /-- Starts another process with the given ends; both are told its number. -/
  | fork (ends : List Endpoint) (child : Nat → Task) (next : Nat → Task)
  /-- Waits for the end of a process. -/
  | wait (process : Nat) (patience : Patience) (next : Waited → Task)
  /-- Sends a signal; the answer is whether there is such a process. -/
  | signal (process number : Nat) (next : Bool → Task)
  /-- Changes what is done with signals from now on. -/
  | handle (change : Signals → Signals) (next : Unit → Task)
  /-- Asks for the signals that have been caught since the last such request. -/
  | caught (next : List Nat → Task)
  /-- Acts on the files, given the time. -/
  | files (action : Nat → Files → Task × Files)

def Task.look (next : Files → Task) : Task := .files fun _ fs => (next fs, fs)

end DebugControl.Machine
