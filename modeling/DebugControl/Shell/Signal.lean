/-!
# Signals

The signals that a shell knows, by number and by name, and what it says about a process that one of
them has ended. The number zero stands for the exit of the shell.
-/

namespace DebugControl.Shell.Signal

/-- The names of the signals from number zero on; those without a name are called by their number.
-/
def names : List String :=
  ["EXIT", "HUP", "INT", "QUIT", "ILL", "TRAP", "ABRT", "BUS", "FPE", "KILL", "USR1", "SEGV", "USR2",
    "PIPE", "ALRM", "TERM", "16", "CHLD", "CONT", "STOP", "TSTP", "TTIN", "TTOU", "URG", "XCPU",
    "XFSZ", "VTALRM", "PROF", "WINCH", "IO", "PWR", "SYS", "32", "33", "RTMIN"] ++
    ((List.range 15).map fun n => s!"RTMIN+{n + 1}") ++
    ((List.range 14).map fun n => s!"RTMAX-{14 - n}") ++ ["RTMAX"]

def interrupt : Nat := 2

def quit : Nat := 3

def termination : Nat := 15

def name? (number : Nat) : Option String := names[number]?

def numeral? (text : List Char) : Option Nat :=
  if text.isEmpty ∨ !text.all Char.isDigit then none
  else
    let n := text.foldl (fun n c => n * 10 + (c.toNat - 48)) 0
    if n < names.length then some n else none

def number? (text : List Char) : Option Nat :=
  if !text.isEmpty ∧ text.all Char.isDigit then numeral? text
  else names.idxOf? (String.ofList (text.map Char.toUpper))

def description (number : Nat) : String :=
  let texts : List String :=
    ["Hangup", "Interrupt", "Quit", "Illegal instruction", "Trace/breakpoint trap", "Aborted",
      "Bus error", "Floating point exception", "Killed", "User defined signal 1",
      "Segmentation fault", "User defined signal 2", "Broken pipe", "Alarm clock", "Terminated",
      "Stack fault", "Child exited", "Continued", "Stopped (signal)", "Stopped",
      "Stopped (tty input)", "Stopped (tty output)", "Urgent I/O condition",
      "CPU time limit exceeded", "File size limit exceeded", "Virtual timer expired",
      "Profiling timer expired", "Window changed", "I/O possible", "Power failure",
      "Bad system call"]
  (texts[number - 1]?).getD
    (if number < 34 then s!"Unknown signal {number}" else s!"Real-time signal {number - 34}")

/-- What is said at once about a process that a signal has ended; about some nothing is. -/
def announcement? (number : Nat) : Option String :=
  if number = interrupt ∨ number = 13 then none else some (description number)

end DebugControl.Shell.Signal
