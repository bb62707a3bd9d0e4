import DebugControl.CommandLine
import DebugControl.Shell.Spawn

/-!
# The program

The command line on the files of the working directory. Only files that an invocation names are
read, and only a transcript is written.
-/

namespace DebugControl.Main

def rounds : Nat := 1000000000

/-- The paths that an invocation may read. -/
def inputs : Invocation → List String
  | .version => []
  | .request settings r =>
    let settingsPath := settings.getD ("/".intercalate Settings.homePath)
    match r with
    | .run o => [settingsPath, o.script]
    | _ => [settingsPath]

def output? : Invocation → Option String
  | .request _ (.run o) => o.transcript
  | _ => none

/-- Reads those of some files that can be read. -/
def readFiles (paths : List String) : IO Files := do
  let mut found := []
  for path in paths do
    match ← (IO.FS.readBinFile path).toBaseIO with
    | .ok content => found := (Utf8.ofString path, content.toList) :: found
    | .error _ => pure ()
  return .ofList found

def directoryOf? (path : String) : Option String :=
  match Path.parent? (Utf8.ofString path) with
  | some [] | none => none
  | some above => some (String.ofList (Utf8.decode above))

def writeFile (files : Files) (path : String) : IO Unit := do
  match files.read (Utf8.ofString path) with
  | .error _ => pure ()
  | .ok content =>
    match directoryOf? path with
    | some above => IO.FS.createDirAll above
    | none => pure ()
    IO.FS.writeBinFile path (ByteArray.mk content.toArray)

def carryOut (invocation : Invocation) : IO UInt32 := do
  let files ← readFiles (inputs invocation)
  match invocation.perform rounds Shell.spawn files with
  | none => return 1
  | some finished =>
    IO.print (String.ofList finished.output)
    IO.eprint (String.ofList finished.errors)
    match output? invocation with
    | some path => writeFile finished.files path
    | none => pure ()
    return finished.code.toUInt32

end DebugControl.Main

def main (args : List String) : IO UInt32 :=
  match DebugControl.Invocation.read? args with
  | some invocation => DebugControl.Main.carryOut invocation
  | none => return DebugControl.Invocation.misuseCode.toUInt32
