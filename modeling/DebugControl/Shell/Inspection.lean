import DebugControl.Machine.Task
import DebugControl.Text.Octets

/-!
# Inspecting files

What a program can find out about the files that paths lead to. Paths may also lead to the
descriptors of the program that asks.
-/

namespace DebugControl.Shell

open Machine (Endpoint)

structure View where
  files : Files
  /-- The working directory. -/
  place : Place
  descriptors : List (Nat × Endpoint)

inductive Target where
  | node (place : Place) (n : Node)
  | pipe (number : Nat)
deriving Repr, DecidableEq

namespace View

def ofEndpoint (v : View) : Endpoint → Option Target
  | .reader pipe | .writer pipe => some (.pipe pipe)
  | .file _ place | .directory place => (v.files.node? place).map (.node place)
  | .device d _ => some (.node [] (.device d))

def target? (v : View) (path : List Char) : Option Target :=
  match v.files.stat v.place (Octets.encode path) with
  | .ok (_, .descriptor n) => (v.descriptors.lookup n).bind v.ofEndpoint
  | .ok (place, n) => some (.node place n)
  | .error _ => none

def isLink (v : View) (path : List Char) : Bool :=
  match v.files.find false v.place (Octets.encode path) with
  | .ok ⟨_, some (.link _)⟩ => true
  | _ => false

/-- The directories of which files can be removed only by their owners. -/
def shared : List String := ["/tmp", "/var/tmp", "/run/lock", "/dev/shm", "/dev/mqueue"]

/-- What a letter asks about a path. The program may read and write whatever there is. -/
def holds (v : View) (letter : Char) (path : List Char) : Bool :=
  match letter, v.target? path with
  | 'h', _ | 'L', _ => v.isLink path
  | _, none => false
  | 'e', _ | 'r', _ | 'w', _ | 'O', _ | 'G', _ => true
  | 'p', some (.pipe _) => true
  | 'd', some (.node _ (.directory _)) => true
  | 'f', some (.node _ (.file _)) | 'f', some (.node _ (.program _)) => true
  | 'c', some (.node _ (.device _)) => true
  | 'x', some (.node _ (.directory _)) | 'x', some (.node _ (.program _)) => true
  | 's', some (.node _ (.directory isSealed)) => !isSealed
  | 's', some (.node _ (.program _)) => true
  | 's', some (.node _ (.file content)) => !content.isEmpty
  | 'k', some (.node place _) => shared.any fun p => SystemFiles.place p = place
  | _, _ => false

def isSame (v : View) (a b : List Char) : Bool :=
  match v.target? a, v.target? b with
  | some x, some y => x == y
  | _, _ => false

/-- The shortest time between two changes that can be told apart. -/
def tick : Nat := 4000000

def changed? (v : View) (path : List Char) : Option Nat :=
  match v.target? path with
  | some (.node place _) => (v.files.entry? place).map fun e => e.changed / tick
  | some (.pipe _) => some 0
  | none => none

def isNewer (v : View) (a b : List Char) : Bool :=
  match v.changed? a, v.changed? b with
  | some x, some y => y < x
  | _, _ => false

end View

end DebugControl.Shell
