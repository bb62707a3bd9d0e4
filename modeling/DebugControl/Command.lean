/-!
# Debugger commands

A command is one line of text for the debugger, together with what besides a thread prompt may end
its reply: the simple prompt, or the exit of the debugger.
-/

namespace DebugControl

structure Command where
  text : String
  allowSimplePrompt : Bool
  allowExit : Bool
deriving Repr, DecidableEq

namespace Command

/-- A command whose reply ends with a thread prompt. -/
def plain (text : String) : Command := ⟨text, false, false⟩

def orSimplePrompt (c : Command) : Command := { c with allowSimplePrompt := true }

def orExit (c : Command) : Command := { c with allowExit := true }

def run (args : List String) : Command := plain (" ".intercalate ("run" :: args))

def cont : Command := plain "cont"

def quit : Command := (plain "quit").orExit

def stopAt (mainClass : String) (line : Nat) : Command := plain s!"stop at {mainClass}:{line}"

def stopIn (mainClass method : String) : Command := plain s!"stop in {mainClass}.{method}"

def clear (location : String) : Command := plain s!"clear {location}"

def step : Command := plain "step"

def next : Command := plain "next"

def stepUp : Command := plain "step up"

def whereThread (thread : String) : Command := plain s!"where {thread}"

def threads : Command := plain "threads"

def locals : Command := plain "locals"

def print (expression : String) : Command := plain s!"print {expression}"

def eval (expression : String) : Command := plain s!"eval {expression}"

def assign (target value : String) : Command := plain s!"set {target} = {value}"

def catchException (exceptionClass : String) : Command := plain s!"catch {exceptionClass}"

end Command

end DebugControl
