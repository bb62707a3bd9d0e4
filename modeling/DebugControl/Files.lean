import DebugControl.Fault
import DebugControl.Files.System

/-!
# Files

The files of a machine: those of the system and, by their places, those that have been written. A
path is followed name by name; each name on the way must lead to a directory, and links are replaced
by their targets. Open files have a number and a position of their own, which all who hold the
number share.
-/

namespace DebugControl

inductive Access where
  | read
  | write
  | both
deriving Repr, DecidableEq

def Access.reads (a : Access) : Bool := a != .write

def Access.writes (a : Access) : Bool := a != .read

structure OpenFile where
  place : Place
  position : Nat
  access : Access
  /-- Whether each text is written behind the end. -/
  appends : Bool
deriving Repr, DecidableEq

structure Files where
  entries : List (Place × FileEntry)
  opened : List (Nat × OpenFile)
  /-- The number of the file that is opened next. -/
  nextOpened : Nat
deriving Repr, DecidableEq

/-- What a path leads to: a place, and the node there if there is one. -/
structure Found where
  place : Place
  node? : Option Node
deriving Repr, DecidableEq

inductive Opening where
  | input
  /-- Makes the file empty. -/
  | output
  | append
  /-- For reading and writing, at the beginning. -/
  | update
  /-- Makes a file where there is none. -/
  | fresh
deriving Repr, DecidableEq

inductive Opened where
  | file (number : Nat) (place : Place)
  | device (d : Device) (access : Access)
  | directory (place : Place)
  | descriptor (number : Nat)
deriving Repr, DecidableEq

def Opening.access : Opening → Access
  | .input => .read
  | .update => .both
  | _ => .write

namespace Files

def empty : Files := ⟨[], [], 0⟩

def entry? (fs : Files) (place : Place) : Option FileEntry :=
  fs.entries.lookup place <|> (SystemFiles.nodes.lookup place).map fun n => ⟨n, 0⟩

def node? (fs : Files) (place : Place) : Option Node := (fs.entry? place).map (·.node)

def isDirectory (fs : Files) (place : Place) : Bool :=
  match fs.node? place with
  | some (.directory _) => true
  | _ => false

def put (fs : Files) (place : Place) (node : Node) (time : Nat) : Files :=
  { fs with entries := (place, ⟨node, time⟩) :: fs.entries.filter (·.1 ≠ place) }

def namesIn (fs : Files) (place : Place) : List FileName :=
  let within (p : Place) : Option FileName := if p.dropLast = place then p.getLast? else none
  ((fs.entries.map Prod.fst ++ SystemFiles.nodes.map Prod.fst).filterMap within).eraseDups

/-! ## Following paths -/

/-- Follows names from a place, for so many steps at most; the last name is followed if it is a link
only if that is asked for. -/
def walk (fs : Files) (followLast : Bool) : Nat → Place → List FileName → Except Fault Found
  | _, here, [] => .ok ⟨here, fs.node? here⟩
  | 0, _, _ => .error .tooManyLinks
  | n + 1, here, name :: rest =>
    if !fs.isDirectory here then .error .notADirectory
    else if name = Path.dot then fs.walk followLast n here rest
    else if name = Path.dotDot then fs.walk followLast n here.dropLast rest
    else if Path.nameLimit < name.length then .error .nameTooLong
    else
      let place := here ++ [name]
      match fs.node? place with
      | none => if rest = [] then .ok ⟨place, none⟩ else .error .notFound
      | some (.link target) =>
        if rest = [] ∧ !followLast then .ok ⟨place, some (.link target)⟩
        else fs.walk followLast n (if target.isAbsolute then [] else here) (target.names ++ rest)
      | some _ => fs.walk followLast n place rest

/-- How many steps are made beyond the names of a path, because of links. -/
def linkSteps : Nat := 160

def find (fs : Files) (followLast : Bool) (here : Place) (path : Path) : Except Fault Found :=
  if path = [] then .error .notFound
  else if Path.lengthLimit ≤ path.length then .error .nameTooLong
  else do
    let found ← fs.walk (followLast || path.endsInSlash) (path.names.length + linkSteps)
      (if path.isAbsolute then [] else here) path.names
    if path.endsInSlash ∧ found.node?.isSome ∧ !fs.isDirectory found.place then
      .error .notADirectory
    else pure found

def stat (fs : Files) (here : Place) (path : Path) : Except Fault (Place × Node) := do
  let found ← fs.find true here path
  match found.node? with
  | some node => pure (found.place, node)
  | none => .error .notFound

/-! ## Opening -/

def findForWriting (fs : Files) (here : Place) (path : Path) : Except Fault Found := do
  let found ← fs.find true here path
  match found.node? with
  | some (.directory _) => .error .isADirectory
  | some (.program _) => .error .busyProgram
  | some _ => pure found
  | none =>
    if path.endsInSlash then .error .isADirectory
    else if fs.node? found.place.dropLast = some (.directory true) then .error .notFound
    else pure found

def openAt (fs : Files) (place : Place) (access : Access) (appends : Bool) : Opened × Files :=
  (.file fs.nextOpened place,
    { fs with
      opened := (fs.nextOpened, ⟨place, 0, access, appends⟩) :: fs.opened
      nextOpened := fs.nextOpened + 1 })

def openNode (fs : Files) (place : Place) (node : Node) (how : Opening) :
    Except Fault (Opened × Files) :=
  match node with
  | .device .terminal => .error .noDevice
  | .device d => .ok (.device d how.access, fs)
  | .descriptor n => .ok (.descriptor n, fs)
  | .directory _ => .ok (.directory place, fs)
  | _ => .ok (fs.openAt place how.access (how == .append))

def openPath (fs : Files) (here : Place) (path : Path) (how : Opening) (time : Nat) :
    Except Fault (Opened × Files) :=
  match how with
  | .input => do
    let (place, node) ← fs.stat here path
    fs.openNode place node .input
  | how => do
    let found ← fs.findForWriting here path
    match found.node?, how with
    | some (.file _), .fresh => .error .fileExists
    | some (.file _), .output =>
      (fs.put found.place (.file []) time).openNode found.place (.file []) how
    | some node, how => fs.openNode found.place node how
    | none, how => (fs.put found.place (.file []) time).openNode found.place (.file []) how

/-! ## Reading and writing open files -/

def content (fs : Files) (place : Place) : List UInt8 :=
  match fs.node? place with
  | some (.file content) => content
  | some (.program _) => SystemFiles.programContent
  | _ => []

def setOpened (fs : Files) (number : Nat) (file : OpenFile) : Files :=
  { fs with opened := (number, file) :: fs.opened.filter (·.1 ≠ number) }

/-- Reads what a function takes off the rest of an open file. -/
def readOpened (fs : Files) (number : Nat) (take : List UInt8 → List UInt8) :
    Except Fault (List UInt8 × Files) :=
  match fs.opened.lookup number with
  | none => .error .badDescriptor
  | some file =>
    if !file.access.reads then .error .badDescriptor
    else
      let bytes := take ((fs.content file.place).drop file.position)
      .ok (bytes, fs.setOpened number { file with position := file.position + bytes.length })

/-- The content after writing at a position; what is missing in front of it is filled with zeros. -/
def overwrite (content : List UInt8) (position : Nat) (bytes : List UInt8) : List UInt8 :=
  let front := content.take position
  front ++ List.replicate (position - front.length) 0 ++ bytes ++
    content.drop (position + bytes.length)

def writeOpened (fs : Files) (number : Nat) (bytes : List UInt8) (time : Nat) :
    Except Fault Files :=
  match fs.opened.lookup number with
  | none => .error .badDescriptor
  | some file =>
    if !file.access.writes then .error .badDescriptor
    else
      let content := fs.content file.place
      let position := if file.appends then content.length else file.position
      let fs := fs.put file.place (.file (overwrite content position bytes)) time
      .ok (fs.setOpened number { file with position := position + bytes.length })

/-! ## Whole files below the working directory -/

def read (fs : Files) (path : Path) : Except Fault (List UInt8) := do
  let (place, node) ← fs.stat SystemFiles.workingPlace path
  match node with
  | .directory _ => .error .isADirectory
  | .device .terminal => .error .noDevice
  | _ => pure (fs.content place)

def readText (fs : Files) (path : Path) : Except Fault (List Char) := do
  match Utf8.decode? (← fs.read path) with
  | some text => pure text
  | none => .error .malformedText

def write (fs : Files) (path : Path) (content : List UInt8) : Except Fault Files := do
  let found ← fs.findForWriting SystemFiles.workingPlace path
  match found.node? with
  | some (.device .full) => if content = [] then pure fs else .error .noSpace
  | some (.device .terminal) => .error .noDevice
  | some (.device _) | some (.descriptor _) => pure fs
  | _ => pure (fs.put found.place (.file content) 0)

def makeDirectory (fs : Files) (path : Path) : Except Fault Files := do
  let found ← fs.find false SystemFiles.workingPlace path
  match found.node? with
  | some _ => .error .fileExists
  | none =>
    if fs.node? found.place.dropLast = some (.directory true) then .error .notFound
    else pure (fs.put found.place (.directory false) 0)

def ensureDirectory (fs : Files) (path : Path) : Except Fault Files :=
  match fs.makeDirectory path, fs.stat SystemFiles.workingPlace path with
  | .ok fs, _ => .ok fs
  | .error _, .ok (_, .directory _) => .ok fs
  | .error f, _ => .error f

/-- Makes a directory and those above it that are missing, for so many names at most. -/
def makeDirectories : Nat → Files → Path → Except Fault Files
  | 0, fs, _ => .ok fs
  | n + 1, fs, path =>
    if path = [] then .ok fs
    else
      match fs.ensureDirectory path, path.parent? with
      | .error f, some above =>
        if f = .notFound then do
          let fs ← makeDirectories n fs above
          fs.ensureDirectory path
        else .error f
      | result, _ => result

def writeWithParents (fs : Files) (path : Path) (content : List UInt8) : Except Fault Files :=
  match path.parent? with
  | none => fs.write path content
  | some above => do
    let fs ← makeDirectories (path.names.length + 1) fs above
    fs.write path content

def ofList (files : List (Path × List UInt8)) : Files :=
  files.foldl (fun fs f => ((fs.writeWithParents f.1 f.2).toOption).getD fs) empty

/-! ## Programs -/

/-- The name of the program that a path leads to, or what its start meets. -/
def program (fs : Files) (here : Place) (path : Path) : Except Fault String := do
  match ← fs.stat here path with
  | (_, .program name) => pure name
  | _ => .error .permissionDenied

/-- Tries the directories of a search path for a program, given the fault that comes of none. -/
def searchIn (fs : Files) (here : Place) (name : FileName) :
    Fault → List Path → Except Fault String
  | fault, [] => .error fault
  | fault, directory :: rest =>
    let path := if directory = [] then name else directory ++ Path.slash :: name
    match fs.program here path with
    | .ok program => .ok program
    | .error f =>
      if f = .notFound ∨ f = .notADirectory then fs.searchIn here name fault rest
      else if f = .permissionDenied then fs.searchIn here name f rest
      else .error f

def systemSearchPath : List Path :=
  (SystemFiles.searchPath.splitOn ":").map Utf8.ofString

def search (fs : Files) (name : Path) : Except Fault String :=
  if name.contains Path.slash then fs.program SystemFiles.workingPlace name
  else if name = [] then .error .notFound
  else if Path.nameLimit < name.length then .error .nameTooLong
  else fs.searchIn SystemFiles.workingPlace name .notFound systemSearchPath

end Files

/-- Hosts that share their files with the controller. -/
class Storage (σ : Type) where
  files : σ → Files
  setFiles : Files → σ → σ

end DebugControl
