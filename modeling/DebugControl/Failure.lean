import DebugControl.Fault
import DebugControl.Report
import DebugControl.Settings

/-!
# Failures of a session

What can go wrong between the program and the debugger, the wording of each failure, and the causes
that a report lists below it.
-/

namespace DebugControl

inductive Failure where
  | launch (program : String) (cause : Fault)
  | timeout (limit : Duration) (pattern : String) (lines : Nat) (terminated : Bool)
  | write (command : String) (cause : Fault)
  | afterExit (command : String)
  | stillRunning (attempts : Nat)
  | badPattern (reason : String)
  | settings (cause : SettingsError)
  | input (cause : Fault)
deriving Repr, DecidableEq

namespace Failure

def message : Failure → String
  | .launch program cause => s!"failed to launch {program}: {cause.message}"
  | .timeout limit pattern lines _ =>
    s!"wait timed out after {limit.text}, looking for '{pattern}', in {lines} lines"
  | .write command cause =>
    s!"unexpected I/O error while writing command '{command}' to debugger stdin: {cause.message}"
  | .afterExit command => s!"attempt to send command '{command}' to terminated debugger"
  | .stillRunning attempts => s!"debuggee did not exit after {attempts} continue commands"
  | .badPattern reason => s!"invalid prompt pattern: {reason}"
  | .settings cause => s!"invalid session config: {cause.message}"
  | .input cause => s!"session I/O error: {cause.message}"

def causes : Failure → List String
  | .launch _ cause => [cause.message]
  | .write _ cause => [cause.message]
  | .badPattern reason => [reason]
  | .settings cause => [cause.message]
  | .input cause => [cause.message]
  | _ => []

/-- Whether the debugger exited before the prompt that was waited for. -/
def isPrematureExit : Failure → Bool
  | .timeout _ _ _ terminated => terminated
  | _ => false

def report (f : Failure) : Report := ⟨f.message, f.causes⟩

end Failure

end DebugControl
