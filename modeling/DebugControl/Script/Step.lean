import DebugControl.Command

/-!
# Steps of a script

A script sends commands, waits for prompts, lets the debuggee run to its end, leaves the debugger,
and checks the last reply. The label of a step is the line that asks for it, flags of a command
apart.
-/

namespace DebugControl

inductive Step where
  | send (command : Command)
  | waitPrompt
  | contToExit (attempts : Nat)
  | quit
  | expect (text : String)
deriving Repr, DecidableEq

def Step.label : Step → String
  | .send command => command.text
  | .waitPrompt => "@wait-prompt"
  | .contToExit attempts => s!"@cont-to-exit {attempts}"
  | .quit => "@quit"
  | .expect text => s!"@expect {text}"

end DebugControl
