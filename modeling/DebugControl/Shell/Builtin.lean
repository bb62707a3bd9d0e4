import DebugControl.Shell.Builtin.Directory
import DebugControl.Shell.Builtin.Names
import DebugControl.Shell.Builtin.Settings
import DebugControl.Shell.Builtin.Signals
import DebugControl.Shell.Builtin.Text

/-!
# Built-in commands

The commands that a shell carries out itself and that run no other program, by name.
-/

namespace DebugControl.Shell

open Machine (Task)

/-- A built-in command, given its operands and the ways on which it goes on. -/
abbrev Builtin := Words → Ways → Environment → Task

namespace Builtin

def constant (status : Nat) : Builtin := fun _ w e => w.finish status e

def table : List (String × Builtin) :=
  [(":", constant 0), ("true", constant 0), ("false", constant 1), ("echo", echo),
    ("printf", printf), ("test", test), ("[", bracket), ("read", read), ("export", exportNames),
    ("readonly", readonly), ("local", makeLocal), ("unset", unset), ("getopts", getopts),
    ("set", set), ("shift", shift), ("umask", umask), ("ulimit", ulimit), ("times", times),
    ("cd", cd), ("chdir", cd), ("pwd", pwd), ("alias", makeAlias), ("unalias", unalias),
    ("type", describeAll), ("command", describeOne), ("hash", hash), ("kill", kill),
    ("trap", trap), ("jobs", jobs), ("wait", wait), ("fg", resume), ("bg", resume)]

end Builtin

def builtin? (name : Name) : Option Builtin := Builtin.table.lookup (String.ofList name)

end DebugControl.Shell
