import DebugControl.Machine.Task

/-!
# Opening paths

A process opens a path below its working directory and gets an end. A path may also lead to one of
the descriptors of the process: a file is then opened anew, and of a pipe the process gets the end
that it asks for.
-/

namespace DebugControl.Machine

/-- The end that stands for what has been opened; `again` opens another place. -/
def Endpoint.ofOpened (descriptors : List (Nat × Endpoint)) (how : Opening) (opened : Opened)
    (fs : Files) (again : Place → Except Fault (Opened × Files)) :
    Except Fault (Endpoint × Files) :=
  let plain : Opened × Files → Except Fault (Endpoint × Files)
    | (.file number place, fs) => .ok (.file number place, fs)
    | (.device d access, fs) => .ok (.device d access, fs)
    | (.directory place, fs) => .ok (.directory place, fs)
    | (.descriptor _, _) => .error .notFound
  match opened with
  | .descriptor n =>
    match descriptors.lookup n with
    | none => .error .notFound
    | some (.file _ place) => (again place).bind plain
    | some (.reader pipe) | some (.writer pipe) =>
      .ok (if how = .input then .reader pipe else .writer pipe, fs)
    | some e => .ok (e, fs)
  | opened => plain (opened, fs)

def openThen (descriptors : List (Nat × Endpoint)) (here : Place) (path : Path) (how : Opening)
    (next : Except Fault Endpoint → Task) : Task :=
  .files fun time fs =>
    let again (place : Place) := fs.openPath [] (Path.ofNames true place) how time
    let result := (fs.openPath here path how time).bind fun (opened, fs) =>
      Endpoint.ofOpened descriptors how opened fs again
    match result with
    | .ok (e, fs) => (next (.ok e), fs)
    | .error f => (next (.error f), fs)

end DebugControl.Machine
