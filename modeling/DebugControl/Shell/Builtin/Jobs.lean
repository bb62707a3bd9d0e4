import DebugControl.Shell.Operand
import DebugControl.Shell.Waiting

/-!
# Commands on jobs

`jobs` shows the background jobs, `wait` waits for them, and `fg` and `bg` fail, since there is no
job control.
-/

namespace DebugControl.Shell.Builtin

open Machine (Task)

/-- The job that a word names; without a word it is the current one. -/
def findJob (jobs : List Job) (name : Option (List Char)) : Except (List Char) Job :=
  let orElse (message : List Char) (job : Option Job) : Except (List Char) Job :=
    match job with
    | some j => .ok j
    | none => .error message
  let current := orElse "No current job".toList jobs.head?
  let unknown (word : List Char) := "No such job: ".toList ++ word
  match name with
  | none => current
  | some ['%'] => current
  | some ['%', '+'] => current
  | some ['%', '%'] => current
  | some ['%', '-'] => orElse "No previous job".toList jobs[1]?
  | some ['%', '?'] =>
    if 1 < jobs.length then .error "%?: ambiguous".toList
    else orElse (unknown ['%', '?']) jobs.head?
  | some word =>
    let number := if word.head? = some '%' ∧ isNumber (word.drop 1) then some (natOf (word.drop 1))
      else none
    orElse (unknown word) (jobs.find? fun j => number = some j.number)

def stateText (j : Job) : String :=
  if !j.isDone then "Running"
  else
    match j.status? with
    | some (.signalled number) => Signal.description number
    | some (.exited 0) | none => "Done"
    | some (.exited code) => s!"Done({code})"

def commandColumn : Nat := 33

inductive Detail where
  | state
  | withProcesses
  | leaderOnly
deriving Repr, DecidableEq

def jobText (mark : Char) (detail : Detail) (j : Job) : List Char :=
  let processes := j.processes.map Prod.fst
  let leader := decimal (processes.headD 0)
  let front := (s!"[{j.number}] ").toList ++ [mark, ' ']
  let pad (text : List Char) : List Char :=
    text ++ List.replicate (max 1 (commandColumn - text.length)) ' '
  let joint (rest : List Nat) : List Char := rest.flatMap fun _ => " | ".toList
  match detail with
  | .leaderOnly => leader ++ ['\n']
  | .state => pad (front ++ (stateText j).toList) ++ joint (processes.drop 1) ++ ['\n']
  | .withProcesses =>
    let other (p : Nat) : List Char :=
      " |\n".toList ++ pad (List.replicate front.length ' ' ++ decimal p ++ [' '])
    pad (front ++ leader ++ ' ' :: (stateText j).toList) ++ (processes.drop 1).flatMap other ++
      ['\n']

def markOf (jobs : List Job) (j : Job) : Char :=
  if jobs.head?.any (·.number = j.number) then '+'
  else if jobs[1]?.any (·.number = j.number) then '-'
  else ' '

/-- Shows jobs; those that are done are forgotten. -/
def showJobs (detail : Detail) : List Job → List Job → List Char × List Job
  | [], known => ([], known)
  | j :: rest, known =>
    let left := if j.isDone then known.filter (·.number ≠ j.number) else known
    let (text, left) := showJobs detail rest left
    (jobText (markOf known j) detail j ++ text, left)

def jobs (words : Words) (w : Ways) (e : Environment) : Task :=
  match Letters.read ⟨['l', 'p'], []⟩ words with
  | .error m => w.fail m e
  | .ok o =>
    let detail : Detail := match o.options.getLast? with
      | some ('l', _) => .withProcesses
      | some _ => .leaderOnly
      | none => .state
    if o.words.isEmpty then
      notice (fun e =>
        let (text, left) := showJobs detail e.jobs e.jobs
        w.print text { e with jobs := left }) e
    else
      match o.words.mapM fun name => findJob e.jobs (some name) with
      | .error m => w.fail m e
      | .ok chosen =>
        let (text, left) := showJobs detail chosen e.jobs
        w.print text { e with jobs := left }

def awaitJob (announced : Bool) (interrupted k : After) : List Nat → After
  | [], e => k e
  | process :: rest, e =>
    .wait process .untilCaught fun answer =>
      match answer with
      | .ended status =>
        let goOn (e : Environment) : Task :=
          awaitJob announced interrupted k rest (e.noteEnd process status)
        if announced then announce status goOn e else goOn e
      | .running => interrupted e
      | .unknown => awaitJob announced interrupted k rest e

def Job.running (j : Job) : List Nat :=
  j.processes.filterMap fun p => if p.2.isNone then some p.1 else none

def waitInterrupted (w : Ways) (e : Environment) : Task :=
  gather (fun e => w.finish (128 + e.pending.headD 0) e) e

def awaitEvery (w : Ways) : List Job → After
  | [], e => w.finish 0 { e with jobs := e.jobs.map fun j => { j with isWaited := true } }
  | j :: rest, e => awaitJob false (waitInterrupted w) (awaitEvery w rest) (Job.running j) e

/-- Waits for jobs and processes that words name; those that are not known do not count. -/
def awaitNamed (w : Ways) : Words → After
  | [], e => notice w.done e
  | word :: rest, e =>
    let job? : Except (List Char) (Option Job) :=
      if word.head? = some '%' then (findJob e.jobs (some word)).map some
      else
        match number? word with
        | none => .error (illegalNumber word)
        | some n => .ok (e.jobs.find? fun j => j.processes.getLast?.any (·.1 = n))
    match job? with
    | .error m => w.fail m e
    | .ok none => awaitNamed w rest e
    | .ok (some j) =>
      let waited (e : Environment) : Task :=
        let jobs := e.jobs.map fun i =>
          if i.number = j.number then { i with isWaited := true } else i
        let status := (jobs.find? (·.number = j.number)).bind Job.status?
        awaitNamed w rest { e with jobs, status := (status.map statusOf).getD e.status }
      awaitJob true (waitInterrupted w) waited (Job.running j) e

def wait (words : Words) (w : Ways) (e : Environment) : Task :=
  match Letters.none.read words with
  | .error m => w.fail m e
  | .ok o =>
    if o.words.isEmpty then awaitEvery w e.jobs e
    else awaitNamed w o.words (e.withStatus 127)

/-- Fails, since no job is under control. -/
def resume (words : Words) (w : Ways) (e : Environment) : Task :=
  match Letters.none.read words with
  | .error m => w.fail m e
  | .ok o =>
    match findJob e.jobs o.words.head? with
    | .error m => w.fail m e
    | .ok _ =>
      w.fail ("job ".toList ++ (o.words.head?).getD "(null)".toList ++
        " not created under job control".toList) e

end DebugControl.Shell.Builtin
