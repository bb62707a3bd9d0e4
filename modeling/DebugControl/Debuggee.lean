/-!
# Local debuggees

A debuggee that the debugger starts itself is named by its main class and options for the machine
that runs it. The debugger takes both in one connector specification.
-/

namespace DebugControl

structure Debuggee where
  mainClass : String
  options : Option String
deriving Repr, DecidableEq

namespace Debuggee

def commandLineLaunch : String := "com.sun.jdi.CommandLineLaunch"

def connectorSpec (d : Debuggee) : String :=
  let options := match d.options with
    | none => ""
    | some options => s!"options={options},"
  s!"{commandLineLaunch}:{options}main={d.mainClass}"

def connectorArgs (d : Debuggee) : List String := ["-connect", d.connectorSpec]

def listing (d : Debuggee) : String := String.join (d.connectorArgs.map (· ++ "\n"))

end Debuggee

end DebugControl
