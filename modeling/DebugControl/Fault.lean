/-!
# Faults of the operating system

A fault has a kind, which the program may act on, and a reason, which it only passes on. The faults
that the system numbers show their number in the message.
-/

namespace DebugControl

inductive FaultKind where
  | interrupted
  | wouldBlock
  | brokenPipe
  | unexpectedEnd
  | notFound
  | other
deriving Repr, DecidableEq

structure Fault where
  kind : FaultKind
  reason : String
  number : Option Nat
deriving Repr, DecidableEq

namespace Fault

/-- A fault that the system does not number. -/
def plain (kind : FaultKind) (reason : String) : Fault := ⟨kind, reason, none⟩

def numbered (kind : FaultKind) (reason : String) (number : Nat) : Fault :=
  ⟨kind, reason, some number⟩

def message (f : Fault) : String :=
  match f.number with
  | none => f.reason
  | some n => s!"{f.reason} (os error {n})"

def notFound : Fault := numbered .notFound "No such file or directory" 2
def interrupted : Fault := numbered .interrupted "Interrupted system call" 4
def noDevice : Fault := numbered .other "No such device or address" 6
def badDescriptor : Fault := numbered .other "Bad file descriptor" 9
def permissionDenied : Fault := numbered .other "Permission denied" 13
def fileExists : Fault := numbered .other "File exists" 17
def notADirectory : Fault := numbered .other "Not a directory" 20
def isADirectory : Fault := numbered .other "Is a directory" 21
def busyProgram : Fault := numbered .other "Text file busy" 26
def noSpace : Fault := numbered .other "No space left on device" 28
def brokenPipe : Fault := numbered .brokenPipe "Broken pipe" 32
def nameTooLong : Fault := numbered .other "File name too long" 36
def tooManyLinks : Fault := numbered .other "Too many levels of symbolic links" 40
def malformedText : Fault := plain .other "stream did not contain valid UTF-8"
def nulInName : Fault := plain .other "nul byte found in provided data"

end Fault

end DebugControl
