/-!
# Reports of failures

A report is a message and the chain of its causes, the nearest first. It is written on one line, or
with the causes listed below the message: a single cause is indented, several are numbered.
-/

namespace DebugControl

structure Report where
  message : String
  causes : List String
deriving Repr, DecidableEq

namespace Report

def ofMessage (message : String) : Report := ⟨message, []⟩

/-- The report of an outer failure that this one caused. -/
def context (r : Report) (message : String) : Report := ⟨message, r.message :: r.causes⟩

def oneLine (r : Report) : String := ": ".intercalate (r.message :: r.causes)

/-- A cause with `first` before its first line and `other` before the rest. -/
def indent (first other cause : String) : String :=
  first ++ cause.replace "\n" ("\n" ++ other)

def numbered (n : Nat) (cause : String) : String :=
  let digits := toString n
  indent ("".pushn ' ' (5 - digits.length) ++ digits ++ ": ") "       " cause

def numberAll : Nat → List String → List String
  | _, [] => []
  | n, cause :: rest => numbered n cause :: numberAll (n + 1) rest

def listed (r : Report) : String :=
  match r.causes with
  | [] => r.message
  | [cause] => r.message ++ "\n\nCaused by:\n" ++ indent "    " "    " cause
  | causes => r.message ++ "\n\nCaused by:\n" ++ "\n".intercalate (numberAll 0 causes)

end Report

end DebugControl
