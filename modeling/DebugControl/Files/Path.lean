/-!
# Paths

A path is a sequence of octets, cut by slashes into names. A place is the list of names that leads
from the root to a file; it has no links and no dots in it.
-/

namespace DebugControl

abbrev FileName := List UInt8

abbrev Path := List UInt8

abbrev Place := List FileName

namespace Path

def slash : UInt8 := 47

def dot : FileName := [46]

def dotDot : FileName := [46, 46]

def lengthLimit : Nat := 4096

def nameLimit : Nat := 255

def isAbsolute (p : Path) : Bool := p.head? == some slash

def endsInSlash (p : Path) : Bool := p.getLast? == some slash

def names (p : Path) : List FileName :=
  (p.splitBy fun a b => a != slash && b != slash).filter (· != [slash])

def ofNames (absolute : Bool) (names : List FileName) : Path :=
  (if absolute then [slash] else []) ++ List.intercalate [slash] names

/-- The names of a path without the dots that change nothing; one at the beginning stays. -/
def steps (p : Path) : List FileName :=
  match p.isAbsolute, p.names with
  | false, name :: rest => name :: rest.filter (· != dot)
  | _, names => names.filter (· != dot)

/-- The path of the directory in which a path lies by its text; the root and the empty path lie in
none. -/
def parent? (p : Path) : Option Path :=
  if p.steps.isEmpty then none else some (ofNames p.isAbsolute p.steps.dropLast)

end Path

end DebugControl
