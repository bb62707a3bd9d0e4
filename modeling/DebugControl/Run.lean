import DebugControl.Debuggee
import DebugControl.Files
import DebugControl.Script.Execution
import DebugControl.Script.Reader

/-!
# Runs

A run reads a script, launches the debugger that settings and options choose, executes the script,
writes the transcript, and makes sure that the debugger ends.
-/

namespace DebugControl

structure RunOptions where
  script : String
  tool : Option String
  mainClass : Option String
  debuggeeOptions : Option String
  transcript : Option String
  poll : Option Nat
  timeout : Option Nat
  args : List String
deriving Repr, DecidableEq

structure RunResult where
  failure : Option Report
  printed : List (List Char)
  files : Files

namespace RunOptions

variable {σ : Type} [Host σ] [Storage σ]

def timing (o : RunOptions) (s : Settings) : Timing :=
  ⟨o.poll.getD s.timing.poll, o.timeout.getD s.timing.timeout⟩

def debuggerArgs (o : RunOptions) (s : Settings) : Except Report (List String) :=
  match o.mainClass, o.debuggeeOptions with
  | some mainClass, options =>
    .ok (s.debugger.extraArgs ++ (Debuggee.connectorArgs ⟨mainClass, options⟩) ++ o.args)
  | none, some _ => .error (.ofMessage "--debuggee-options requires --main")
  | none, none => .ok (s.debugger.extraArgs ++ o.args)

def readScript (o : RunOptions) (files : Files) : Except Report (List Step) :=
  match files.readText (Utf8.ofString o.script) with
  | .error f => .error ⟨s!"cannot read script {o.script}", [f.message]⟩
  | .ok text =>
    match Script.read text with
    | .error e => .error e.report
    | .ok steps => .ok steps

def validTiming (o : RunOptions) (s : Settings) : Except Report Timing :=
  match (o.timing s).validate with
  | .ok () => .ok (o.timing s)
  | .error v => .error (.ofMessage (SettingsError.invalid v.message).message)

structure Plan where
  steps : List Step
  timing : Timing
  tool : String
  args : List String

def plan (o : RunOptions) (s : Settings) (files : Files) : Except Report Plan := do
  let steps ← o.readScript files
  let timing ← o.validTiming s
  let args ← o.debuggerArgs s
  pure ⟨steps, timing, o.tool.getD s.debugger.tool, args⟩

def save (o : RunOptions) (t : Transcript) (files : Files) : Except Report Files :=
  match o.transcript with
  | none => .ok files
  | some path =>
    match files.writeWithParents (Utf8.ofString path) (Utf8.encode t.text) with
    | .ok files => .ok files
    | .error f => .error ⟨s!"cannot write transcript {path}", [f.message]⟩

/-- How long a debugger may go on after its script, in nanoseconds. -/
def grace : Nat := 2000000000

/-- The files as the debugger has left them by now. -/
def currentFiles : Control σ Files := do
  return Storage.files (← get).host

def conduct (rounds : Nat) (o : RunOptions) (p : Plan) : Control σ RunResult := do
  let outcome ← Script.execute rounds p.steps
  let files ← currentFiles
  match o.save ⟨p.tool, p.args, outcome.entries⟩ files with
  | .error r => return ⟨some r, outcome.printed, files⟩
  | .ok files =>
    modify fun s => { s with host := Storage.setFiles files s.host }
    if !(← Control.awaitExit rounds grace) then Control.terminate
    return ⟨outcome.failure, outcome.printed, ← currentFiles⟩

def run (rounds : Nat) (spawn : Files → String → List String → Except Fault σ) (o : RunOptions)
    (s : Settings) (files : Files) : Option RunResult :=
  match o.plan s files with
  | .error r => some ⟨some r, [], files⟩
  | .ok p =>
    match Session.launch (spawn files) p.tool p.args p.timing with
    | .error f => some ⟨some f.report, [], files⟩
    | .ok session => ((conduct rounds o p).run session).map Prod.fst

end RunOptions

end DebugControl
