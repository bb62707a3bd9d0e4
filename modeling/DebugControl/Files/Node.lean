import DebugControl.Files.Path

/-!
# Nodes

What stands at a place: a directory, a file with its content, a device, a program, a link to another
path, or one of the descriptors that the process has open.
-/

namespace DebugControl

inductive Device where
  /-- Empty to readers; takes whatever is written. -/
  | null
  /-- Endless to readers; takes whatever is written. -/
  | zero
  /-- Has no space for what is written. -/
  | full
  /-- The terminal, of which there is none. -/
  | terminal
deriving Repr, DecidableEq

inductive Node where
  /-- A directory; nothing can be made in one that is sealed. -/
  | directory (isSealed : Bool)
  | file (content : List UInt8)
  | device (d : Device)
  | program (name : String)
  | link (target : Path)
  | descriptor (number : Nat)
deriving Repr, DecidableEq

/-- A node and the time of its last change, in nanoseconds. -/
structure FileEntry where
  node : Node
  changed : Nat
deriving Repr, DecidableEq

end DebugControl
