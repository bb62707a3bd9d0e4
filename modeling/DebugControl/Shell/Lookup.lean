import DebugControl.Shell.Message

/-!
# Looking up programs

A command word without a slash is looked for in the directories of the search path. What has been
found is remembered until the search path changes.
-/

namespace DebugControl.Shell

def directoryList (text : List Char) : Words :=
  text.foldr (fun c parts => match parts with
    | [] => [[c]]
    | part :: rest => if c = ':' then [] :: part :: rest else (c :: part) :: rest) [[]]

def within (directory name : List Char) : List Char :=
  if directory.isEmpty then name
  else if directory.getLast? = some '/' then directory ++ name
  else directory ++ '/' :: name

def isMissing (f : Fault) : Bool := f == .notFound || f == .notADirectory

/-- Looks for a program in directories, given the fault that comes of none. -/
def locateIn (fs : Files) (here : Place) (name : Name) :
    Fault → Words → Except Fault (List Char)
  | fault, [] => .error fault
  | fault, directory :: rest =>
    let path := within directory name
    match fs.stat here (Octets.encode path) with
    | .ok (_, .program _) => .ok path
    | .ok _ => locateIn fs here name .permissionDenied rest
    | .error f => locateIn fs here name (if isMissing f then fault else f) rest

/-- The search path of a command, which is that of the shell or that of the system. -/
def searchPath (standard : Bool) (e : Environment) : List Char :=
  if standard then SystemFiles.searchPath.toList else e.get "PATH"

def locate (fs : Files) (standard : Bool) (name : Name) (e : Environment) :
    Except Fault (List Char) :=
  match if standard then none else e.found.lookup name with
  | some path => .ok path
  | none => locateIn fs e.place name .notFound (directoryList (searchPath standard e))

def remember (name : Name) (path : List Char) (e : Environment) : Environment :=
  if (e.found.lookup name).isSome then e else { e with found := e.found ++ [(name, path)] }

def startMessage (name : List Char) (f : Fault) : List Char :=
  name ++ ": ".toList ++ (if isMissing f then "not found".toList else f.reason.toList)

def startStatus (f : Fault) : Nat :=
  if isMissing f ∨ f = .nameTooLong ∨ f = .tooManyLinks then 127 else 126

end DebugControl.Shell
