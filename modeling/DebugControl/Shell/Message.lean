import DebugControl.Shell.Environment
import DebugControl.Utility.Basic

/-!
# Messages and output

What a shell writes: messages under its name, the line and the command that runs, and the output of
built-in commands. A command goes on in one of two ways, after its end or after a mistake that gives
it up.
-/

namespace DebugControl.Shell

open Machine (Task)

abbrev After := Environment → Task

structure Ways where
  done : After
  /-- After a mistake that gives the command up. -/
  raise : After

def Environment.heading (e : Environment) : List Char :=
  let context := match e.context with
    | some name => name ++ [':', ' ']
    | none => []
  e.title ++ (s!": {e.line}: ").toList ++ context

def remark (text : List Char) (k : After) (e : Environment) : Task :=
  if text.isEmpty then k e else Utility.writeThen e.descriptors 2 text fun _ => k e

def complain (message : List Char) (k : After) (e : Environment) : Task :=
  remark (e.heading ++ message ++ ['\n']) k e

def report (message : List Char) (status : Nat) (k : After) (e : Environment) : Task :=
  complain message (fun e => k (e.withStatus status)) e

def reportAll (messages : List (List Char)) (k : After) : After :=
  messages.foldr complain k

def Ways.fail (w : Ways) (message : List Char) (e : Environment) : Task :=
  report message 2 w.raise e

def Ways.failWith (w : Ways) (message : String) (e : Environment) : Task := w.fail message.toList e

def Ways.finish (w : Ways) (status : Nat) (e : Environment) : Task := w.done (e.withStatus status)

def output (text : List Char) (status : Nat) (k : After) (e : Environment) : Task :=
  if text.isEmpty then k (e.withStatus status)
  else
    Utility.writeThen e.descriptors 1 text fun fault =>
      if fault.isNone then k (e.withStatus status)
      else report (e.context.getD [] ++ ": I/O error".toList) (status ||| 1) k e

def Ways.print (w : Ways) (text : List Char) (e : Environment) : Task := output text 0 w.done e

/-- A text between single quotes, such that a shell reads it back. -/
def singleQuoted (text : List Char) : List Char :=
  let piece (p : List Char) : List Char :=
    if p.contains '\'' then '"' :: p ++ ['"'] else '\'' :: p ++ ['\'']
  let pieces := (text.splitBy fun a b => (a == '\'') == (b == '\'')).flatMap piece
  if text.head?.all (· == '\'') then '\'' :: '\'' :: pieces else pieces

end DebugControl.Shell
