import DebugControl.Shell.Lookup
import DebugControl.Shell.Operand

/-!
# Commands on the working directory

`cd` changes the working directory and `pwd` shows it. The directory has a path by which the user
came to it; two dots in it lead back along that path, unless the places themselves are asked for.
-/

namespace DebugControl.Shell.Builtin

open Machine (Task)

def isPhysical (o : Operands) : Bool := o.options.getLast?.any (·.1 = 'P')

/-- The names of a path as a user follows them. -/
def logicalNames (before : Words) (path : List Char) : Words :=
  let names := (path.splitBy fun a b => a != '/' && b != '/').filter (· ≠ ['/'])
  names.foldl (fun names name =>
    if name = ['.'] then names
    else if name = ['.', '.'] then names.dropLast
    else names ++ [name]) before

def logicalPath (here path : List Char) : List Char :=
  let absolute := if path.head? = some '/' then path else here
  let doubled : Bool := absolute.take 2 == ['/', '/'] && absolute[2]? != some '/'
  let front : List Char := if doubled then ['/', '/'] else ['/']
  let before := if path.head? = some '/' then [] else logicalNames [] here
  front ++ List.intercalate ['/'] (logicalNames before path)

def moved (e : Environment) (place : Place) (path : List Char) : Environment :=
  let set (name : String) (value : List Char) (e : Environment) : Environment :=
    let v := e.binding name.toList
    e.bind name.toList { v with value := some value, isExported := true }
  set "PWD" path (set "OLDPWD" e.path { e with place, path })

def goTo (fs : Files) (physical : Bool) (path : List Char) (e : Environment) :
    Option Environment :=
  let target := if physical then path else logicalPath e.path path
  match fs.stat e.place (Octets.encode target) with
  | .ok (place, .directory _) =>
    some (moved e place (if physical then Environment.pathOf place else target))
  | _ => none

def isAnchored (path : List Char) : Bool :=
  let first := path.takeWhile (· ≠ '/')
  path.head? == some '/' || first == ['.'] || first == ['.', '.']

/-- Where a name leads by way of the given directories, and whether the path is to be shown. -/
def throughDirectories (fs : Files) (physical : Bool) (name : List Char) (e : Environment) :
    Words → Option (Environment × Bool)
  | [] => (goTo fs physical name e).map (·, false)
  | directory :: rest =>
    match goTo fs physical (within directory name) e with
    | some e => some (e, !directory.isEmpty)
    | none => throughDirectories fs physical name e rest

def cd (words : Words) (w : Ways) (e : Environment) : Task :=
  match Letters.read ⟨['L', 'P'], []⟩ words with
  | .error m => w.fail m e
  | .ok o =>
    let back : Bool := o.words.head? == some ['-']
    let target := match o.words.head? with
      | none => e.get "HOME"
      | some word => if back then e.get "OLDPWD" else word
    let name := if target.isEmpty then ['.'] else target
    let directories := if isAnchored target then []
      else ((e.get? "CDPATH".toList).map directoryList).getD []
    .look fun fs =>
      match throughDirectories fs (isPhysical o) name e directories with
      | none => w.fail ("can't cd to ".toList ++ target) e
      | some (e, shows) => if shows ∨ back then w.print (e.path ++ ['\n']) e else w.finish 0 e

def pwd (words : Words) (w : Ways) (e : Environment) : Task :=
  match Letters.read ⟨['L', 'P'], []⟩ words with
  | .error m => w.fail m e
  | .ok o => w.print ((if isPhysical o then Environment.pathOf e.place else e.path) ++ ['\n']) e

end DebugControl.Shell.Builtin
