import DebugControl.Machine.Basic
import DebugControl.Shell.Interpreter

/-!
# Starting programs

A machine starts one of the programs that it knows, and otherwise fails as an operating system
would.
-/

namespace DebugControl.Shell

open Machine (Endpoint State Task)

def fuel : Nat := 1000000000

def standardDescriptors : List (Nat × Endpoint) := [(0, .reader 0), (1, .writer 1), (2, .writer 2)]

/-- What the debugger inherits from the controller. -/
def outerInheritance : Environment.Inheritance :=
  { bindings :=
      [("HOME".toList, SystemFiles.home.toList), ("PATH".toList, SystemFiles.searchPath.toList)]
    descriptors := standardDescriptors
    place := SystemFiles.workingPlace
    mask := 18
    process := Machine.debuggerNumber
    ignored := [] }

def task (program : String) (words : Words) : Task :=
  match Utility.task? program
      ⟨words.headD [], words.drop 1, standardDescriptors, SystemFiles.workingPlace⟩ with
  | some task => task
  | none => runShell fuel words outerInheritance

def spawn (files : Files) (program : String) (args : List String) : Except Fault State :=
  if (program :: args).any fun a => a.toList.contains (Char.ofNat 0) then .error .nulInName
  else do
    let name ← files.search (Utf8.ofString program)
    let words := (program :: args).map fun a => Octets.decode (Utf8.ofString a)
    pure (State.start files (task name words))

end DebugControl.Shell
