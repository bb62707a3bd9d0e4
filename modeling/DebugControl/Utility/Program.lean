import DebugControl.Utility.Cat
import DebugControl.Utility.Printf
import DebugControl.Utility.Sleep

/-!
# Programs

The programs of the machine beside its shell, by name.
-/

namespace DebugControl.Utility

def task? (program : String) (start : Start) : Option Machine.Task :=
  match program with
  | "cat" => some (Cat.task start)
  | "echo" => some (Echo.task start)
  | "printf" => some (Printf.task start)
  | "sleep" => some (Sleep.task start)
  | "true" => some (.exit 0)
  | "false" => some (.exit 1)
  | _ => none

end DebugControl.Utility
