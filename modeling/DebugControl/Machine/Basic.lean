import DebugControl.Machine.Task

/-!
# The machine

A machine runs processes in virtual time. Each request takes one microsecond; of the processes that
can go on, the one that has waited longest goes first. The first process is the debugger: it reads
pipe 0 and writes pipes 1 and 2, whose other ends the controller holds. A machine is a host.
-/

namespace DebugControl.Machine

structure Process where
  number : Nat
  /-- The process that has started it. -/
  parent : Nat
  task : Task
  /-- When the next request is due. -/
  due : Nat
  ends : List Endpoint
  signals : Signals
  /-- The signals that have been caught and not been asked for. -/
  pending : List Nat
  isStopped : Bool

structure State where
  now : Nat
  nextNumber : Nat
  nextPipe : Nat
  processes : List Process
  /-- How processes ended that have. -/
  ended : List (Nat × ExitStatus)
  /-- What the pipes hold. -/
  buffers : List (Nat × List UInt8)
  /-- The pipes to the controller that are not closed yet. -/
  openPipes : List Nat
  /-- What has arrived while the controller was busy writing. -/
  unseen : List Arrival
  files : Files

def debuggerNumber : Nat := 1000

def standardEnds : List Endpoint := [.reader 0, .writer 1, .writer 2]

def isControllers (pipe : Nat) : Bool := pipe == 1 || pipe == 2

def killNumber : Nat := 9

def brokenPipeNumber : Nat := 13

def childNumber : Nat := 17

def continueNumber : Nat := 18

/-- The signals that stop a process; the first of them cannot be caught. -/
def stopNumbers : List Nat := [19, 20, 21, 22]

/-- The signals that a process does not notice unless it catches them, the probe for a process among
them. -/
def quietNumbers : List Nat := [0, 17, 18, 23, 28]

namespace State

def start (files : Files) (task : Task) : State :=
  ⟨0, debuggerNumber + 1, 3,
    [⟨debuggerNumber, 0, task, startTime, standardEnds, ⟨[], []⟩, [], false⟩], [], [], [1, 2], [],
    files⟩

def buffer (m : State) (pipe : Nat) : List UInt8 := (m.buffers.lookup pipe).getD []

def setBuffer (m : State) (pipe : Nat) (bytes : List UInt8) : State :=
  { m with buffers := (pipe, bytes) :: m.buffers.filter (·.1 ≠ pipe) }

def held (m : State) (e : Endpoint) : Bool := m.processes.any (·.ends.contains e)

/-- Whether a pipe will get no more bytes. The controller never closes the pipe it writes. -/
def atEnd (m : State) (pipe : Nat) : Bool := pipe ≠ 0 && !m.held (.writer pipe)

def hasReader (m : State) (pipe : Nat) : Bool := isControllers pipe || m.held (.reader pipe)

def wake? (m : State) (p : Process) : Option Nat :=
  let caught : Bool := !p.pending.isEmpty
  let readable (source : Endpoint) (enough : List UInt8 → Bool) : Bool :=
    match source with
    | .reader pipe => enough (m.buffer pipe) || m.atEnd pipe || caught
    | _ => true
  let can : Bool := match p.task with
    | .readLine (.device .zero _) _ | .readLine (.device .full _) _ => caught
    | .readLine source _ => readable source (·.contains 10)
    | .readSome source _ => readable source (!·.isEmpty)
    | .wait process patience _ =>
      patience == .none || m.processes.all (·.number ≠ process) ||
        (patience == .untilCaught && caught)
    | _ => true
  if can ∧ !p.isStopped then some (max p.due m.now) else none

def next? (m : State) : Option (Nat × Process) :=
  m.processes.foldl (fun best p =>
    match m.wake? p, best with
    | none, _ => best
    | some t, none => some (t, p)
    | some t, some b => if t < b.1 ∨ (t = b.1 ∧ p.due < b.2.due) then some (t, p) else best) none

def update (m : State) (number : Nat) (change : Process → Process) : State :=
  { m with processes := m.processes.map fun p => if p.number = number then change p else p }

def continueWith (m : State) (number : Nat) (task : Task) (cost : Nat) : State :=
  m.update number fun p => { p with task, due := m.now + cost }

/-- Ends a process; its parent may have asked for the signal that tells it. -/
def endProcess (m : State) (number : Nat) (status : ExitStatus) : State :=
  match m.processes.find? (·.number = number) with
  | none => m
  | some ended =>
    let told (p : Process) : Process :=
      if p.number = ended.parent ∧ p.signals.caught.contains childNumber then
        { p with pending := childNumber :: p.pending.filter (· ≠ childNumber) }
      else p
    { m with
      processes := (m.processes.filter (·.number ≠ number)).map told
      ended := (number, status) :: m.ended }

def deliver (m : State) (process number : Nat) : State :=
  match m.processes.find? (·.number = process) with
  | none => m
  | some p =>
    let m := if number = continueNumber then m.update process ({ · with isStopped := false }) else m
    if number = killNumber then m.endProcess process (.signalled number)
    else if stopNumbers.head? = some number then m.update process ({ · with isStopped := true })
    else if p.signals.ignored.contains number then m
    else if p.signals.caught.contains number then
      m.update process fun p => { p with pending := number :: p.pending.filter (· ≠ number) }
    else if quietNumbers.contains number then m
    else if stopNumbers.contains number then m.update process ({ · with isStopped := true })
    else m.endProcess process (.signalled number)

def closings (m : State) : List Arrival × State :=
  let closed := m.openPipes.filter m.atEnd
  (closed.map fun _ => .closed, { m with openPipes := m.openPipes.filter (!m.atEnd ·) })

def splitLine (bytes : List UInt8) : List UInt8 × List UInt8 :=
  let line := bytes.takeWhile (· ≠ 10)
  let rest := bytes.drop line.length
  (line ++ rest.take 1, rest.drop 1)

def deviceBlock : Nat := 4096

def readFrom (m : State) (p : Process) (source : Endpoint)
    (split : List UInt8 → List UInt8 × List UInt8) : Except Fault (List UInt8) × State :=
  match source with
  | .reader pipe =>
    let (bytes, rest) := split (m.buffer pipe)
    if bytes = [] ∧ !m.atEnd pipe ∧ p.pending ≠ [] then (.error .interrupted, m)
    else (.ok bytes, m.setBuffer pipe rest)
  | .writer _ => (.error .badDescriptor, m)
  | .file number _ =>
    match m.files.readOpened number fun bytes => (split bytes).1 with
    | .ok (bytes, files) => (.ok bytes, { m with files })
    | .error f => (.error f, m)
  | .device d access =>
    if !access.reads then (.error .badDescriptor, m)
    else if p.pending ≠ [] then (.error .interrupted, m)
    else (.ok (if d = .null then [] else List.replicate deviceBlock 0), m)
  | .directory _ => (.error .isADirectory, m)

def writeTo (m : State) (target : Endpoint) (bytes : List UInt8) : Option Fault × State :=
  match target with
  | .file number _ =>
    match m.files.writeOpened number bytes m.now with
    | .ok files => (none, { m with files })
    | .error f => (some f, m)
  | .device d access =>
    if !access.writes then (some .badDescriptor, m)
    else if d = .full ∧ bytes ≠ [] then (some .noSpace, m)
    else (none, m)
  | _ => (some .badDescriptor, m)

def perform (m : State) (p : Process) : List Arrival × State :=
  let go (m : State) (task : Task) : State := m.continueWith p.number task requestTime
  match p.task with
  | .exit code => ([], m.endProcess p.number (.exited code))
  | .write (.writer pipe) bytes next =>
    if bytes.isEmpty then ([], go m (next none))
    else if !m.hasReader pipe then
      ([], (go m (next (some .brokenPipe))).deliver p.number brokenPipeNumber)
    else if isControllers pipe then ([.wrote bytes], go m (next none))
    else ([], go (m.setBuffer pipe (m.buffer pipe ++ bytes)) (next none))
  | .write target bytes next =>
    let (fault, m) := m.writeTo target bytes
    ([], go m (next fault))
  | .readLine source next =>
    let (result, m) := m.readFrom p source splitLine
    ([], go m (next result))
  | .readSome source next =>
    let (result, m) := m.readFrom p source fun bytes => (bytes, [])
    ([], go m (next result))
  | .sleep time next => ([], m.continueWith p.number (next ()) time)
  | .hold ends next => ([], go (m.update p.number fun p => { p with ends }) (next ()))
  | .release e next =>
    let released := m.update p.number fun p => { p with ends := p.ends.erase e }
    ([], go released (next ()))
  | .makePipe next =>
    let pipe := m.nextPipe
    let opened := m.update p.number fun p =>
      { p with ends := .reader pipe :: .writer pipe :: p.ends }
    ([], go { opened with nextPipe := pipe + 1 } (next pipe))
  | .fork ends child next =>
    let number := m.nextNumber
    let m := go { m with nextNumber := number + 1 } (next number)
    let started : Process :=
      ⟨number, p.number, child number, m.now + requestTime, ends, ⟨[], p.signals.ignored⟩, [], false⟩
    ([], { m with processes := m.processes ++ [started] })
  | .wait process _ next =>
    let running : Bool := m.processes.any (·.number = process)
    let answer : Waited := match m.ended.lookup process with
      | some status => .ended status
      | none => if running then .running else .unknown
    ([], go m (next answer))
  | .signal process number next =>
    let known := m.processes.any (·.number = process)
    ([], (go m (next known)).deliver process number)
  | .handle change next =>
    ([], go (m.update p.number fun p => { p with signals := change p.signals }) (next ()))
  | .caught next =>
    ([], go (m.update p.number fun p => { p with pending := [] }) (next p.pending))
  | .files action =>
    let (task, files) := action m.now m.files
    ([], go { m with files } task)

def runUntil (limit : Nat) (ready : List Arrival → Bool) :
    Nat → List Arrival → State → List Arrival × State
  | 0, arrivals, m => (arrivals, { m with now := max m.now limit })
  | fuel + 1, arrivals, m =>
    let (closed, m) := m.closings
    let arrivals := arrivals ++ closed
    if ready arrivals then (arrivals, m)
    else
      match m.next? with
      | some (t, p) =>
        if t ≤ limit then
          let (wrote, m) := { m with now := t }.perform p
          runUntil limit ready fuel (arrivals ++ wrote) m
        else (arrivals, { m with now := max m.now limit })
      | none => (arrivals, { m with now := max m.now limit })

def requestsWithin (m : State) (time : Nat) : Nat :=
  (m.processes.length + 16) * (time / requestTime + 16)

/-- The time after which a process that waited for input goes on. -/
def wakeTime : Nat := 50000

def readsInput (p : Process) : Bool :=
  match p.task with
  | .readLine source _ | .readSome source _ => source == .reader 0
  | _ => false

def feed (m : State) (bytes : List UInt8) : State :=
  let woken := m.processes.map fun p =>
    if readsInput p then { p with due := max p.due (m.now + wakeTime) } else p
  { m with processes := woken }.setBuffer 0 (m.buffer 0 ++ bytes)

def pipeCapacity : Nat := 65536

/-- How many bytes the input of the debugger can take now, if there is a bound. A process that waits
for the end of a line takes the bytes of the line as they come. -/
def inputRoom? (m : State) : Option Nat :=
  let drained := m.processes.any fun p => match p.task with
    | .readLine (.reader 0) _ => true
    | _ => false
  if drained then none else some (pipeCapacity - (m.buffer 0).length)

/-- The machine after its next request, unless all processes wait for ever. -/
def advance? (m : State) : Option State :=
  let (closed, m) := m.closings
  m.next?.map fun (t, p) =>
    let (wrote, m) := { m with now := t }.perform p
    { m with unseen := m.unseen ++ closed ++ wrote }

def patience : Nat := 1000000000

/-- Writes to the input of the debugger. Bytes for which there is no room wait until there is, or
until nobody reads any more. -/
def sendFrom : Nat → List UInt8 → State → Except Fault Unit × State
  | 0, bytes, m => (.ok (), m.feed bytes)
  | fuel + 1, bytes, m =>
    if !m.hasReader 0 then (.error .brokenPipe, m)
    else
      let room := m.inputRoom?.getD bytes.length
      let fed := if room = 0 then m else m.feed (bytes.take room)
      let rest := bytes.drop room
      if rest.isEmpty then (.ok (), fed)
      else
        match fed.advance? with
        | some m => sendFrom fuel rest m
        | none => (.ok (), fed.feed rest)

instance : Host State where
  clock m := m.now
  turn m :=
    { m with unseen := [] }.runUntil m.now (fun _ => false) (m.requestsWithin 0) m.unseen
  await time ready m :=
    { m with unseen := [] }.runUntil (m.now + time) ready (m.requestsWithin time) m.unseen
  exit? m := m.ended.lookup debuggerNumber
  send := sendFrom patience
  kill m := m.deliver debuggerNumber killNumber

instance : Storage State where
  files m := m.files
  setFiles files m := { m with files }

end State

end DebugControl.Machine
