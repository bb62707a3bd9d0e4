import DebugControl.Shell.Builtin
import DebugControl.Shell.Command
import DebugControl.Shell.Jumps
import DebugControl.Shell.Options
import DebugControl.Shell.Reader
import DebugControl.Shell.Wiring
import DebugControl.Utility.Program

/-!
# Running shell programs

`run` turns a statement into a task, given what to do afterwards. A command that is not built in
runs in a process of its own, but the last one of a forked process takes its place.
-/

namespace DebugControl.Shell

open Machine (Endpoint Signals Task)

def exitWith (e : Environment) : Task := .exit (e.status % 256)

def hasTraps (e : Environment) : Bool := e.traps.any (!·.2.isEmpty)

def dueTraps (e : Environment) : List (Nat × List Char) :=
  (e.traps.filter fun t => t.1 ≠ 0 ∧ !t.2.isEmpty ∧ e.pending.contains t.1).mergeSort
    fun a b => a.1 ≤ b.1

def restoreWires (before after : Environment) : Environment :=
  { after with descriptors := before.descriptors, kept := before.kept, context := before.context }

/-- What belongs to a command alone is as it was before it. -/
def restoreAll (before after : Environment) : Environment :=
  restoreWires before (after.unwind before.frames.length)

def callLimit : Nat := 1000

def restoreParameters (before after : Environment) : Environment :=
  { after with parameters := before.parameters, cursor := before.cursor, calls := before.calls }

/-- The environment of a process in the background, which ignores signals from the keyboard. -/
def inBackground (e : Environment) : Environment :=
  { e with ignored := [Signal.interrupt, Signal.quit] ++ e.ignored, guarded := false }

def keyboardIgnored (s : Signals) : Signals :=
  let keys := [Signal.interrupt, Signal.quit]
  ⟨s.caught.filter (!keys.contains ·), keys ++ s.ignored⟩

def withoutInput (e : Environment) : Environment := e.redirect 0 (.device .null .read)

def inheritance (fs : Files) (e : Environment) : Environment.Inheritance :=
  let isHere (path : List Char) : Bool :=
    match path.head?, fs.stat e.place (Octets.encode path) with
    | some '/', .ok (place, _) => place == e.place
    | _, _ => false
  { bindings := e.exported.filter fun v => v.1 ≠ "PWD".toList ∨ isHere v.2
    descriptors := e.descriptors
    place := e.place
    mask := e.mask
    process := e.self
    ignored := e.ignored ++ (e.traps.filter (·.2.isEmpty)).map Prod.fst }

def tracedWords (assignments : List (Name × List Char)) (words : Words) : List Char :=
  List.intercalate [' '] (assignments.map (fun a => a.1 ++ '=' :: a.2) ++ words) ++ ['\n']

def assignFor (ownFrame exported : Bool) (name : Name) (value : List Char) (e : Environment) :
    Except (List Char) Environment := do
  let e := if ownFrame then Builtin.save name e else e
  let e ← e.assign name value
  let v := e.binding name
  pure (e.bind name { v with isExported := v.isExported || exported })

def jumpCount (words : Words) : Except (List Char) Nat :=
  match words with
  | [] => .ok 1
  | word :: _ =>
    match number? word with
    | some (n + 1) => .ok (n + 1)
    | _ => .error (illegalNumber word)

inductive Invoked where
  | program (text : List Char) (title : List Char) (operands : Words)
  | input (operands : Words)
  | file (path : List Char) (operands : Words)
  | refused (message : List Char)

def Invoked.ofOptions (title : List Char) (o : OptionWords) : Invoked :=
  match o.mistake, o.awaitsProgram, o.rest with
  | some m, _, _ => .refused m
  | none, true, [] => .refused "-c requires an argument".toList
  | none, true, text :: rest => .program text (rest.headD title) (rest.drop 1)
  | none, false, [] => .input []
  | none, false, path :: rest =>
    if o.letters.contains 's' then .input (path :: rest) else .file path rest

/-- The prompts of the lines of a text from one line up to another: its first statement may stand
behind lines without any. -/
def promptsOf (e : Environment) (text : List Char) (first last : Nat) : List (List Char) :=
  let idle := text.count '\n' - (skipLines text.length text).count '\n'
  (List.range' first (last - first)).map fun i => e.get (if i ≤ idle then "PS1" else "PS2")

def firstLines : Nat → List Char → List Char
  | 0, _ => []
  | _, [] => []
  | n + 1, c :: rest => c :: firstLines (if c = '\n' then n else n + 1) rest

/-- What is read as a program, with the lines in front of it counted. -/
structure Source where
  /-- Where more can be read; what is left of a text stands alone. -/
  endpoint : Option Endpoint
  text : List Char
  before : Nat
  /-- How many lines of the text have been asked for. -/
  asked : Nat
  /-- Whether lines are asked for. -/
  isInteractive : Bool
  /-- Whether lines are shown on request. -/
  showsLines : Bool
  /-- Whether a statement has run. -/
  hasRun : Bool

def Source.ofText (text : List Char) : Source := ⟨none, text, 0, 0, false, false, false⟩

def Source.ofEndpoint (endpoint : Option Endpoint) : Source :=
  ⟨endpoint, [], 0, 0, false, true, false⟩

mutual

def quit : Nat → Environment → Task
  | 0, _ => .exit 2
  | fuel + 1, e =>
    match e.traps.lookup 0 with
    | none => exitWith e
    | some text =>
      let trapped := { e with
        traps := e.traps.filter (·.1 ≠ 0), interrupted := some e.status, context := none }
      readAndRun fuel (.outside exitWith) (.ofText text) trapped fun after =>
        exitWith (after.withStatus e.status)
termination_by structural fuel => fuel

def poll : Nat → Jumps → Environment → After → Task
  | 0, _, _, _ => .exit 2
  | fuel + 1, jumps, e, k =>
    if e.traps.any fun t => t.1 ≠ 0 ∧ !t.2.isEmpty then
      gather (fun e => runTraps fuel jumps (dueTraps e) { e with pending := [] } k) e
    else k e
termination_by structural fuel => fuel

/-- Runs actions one after the other; the status stays what it was. -/
def runTraps : Nat → Jumps → List (Nat × List Char) → Environment → After → Task
  | 0, _, _, _, _ => .exit 2
  | _, _, [], e, k => k e
  | fuel + 1, jumps, trap :: rest, e, k =>
    let status := e.interrupted.getD e.status
    let restore (after : Environment) : Environment :=
      { after with interrupted := e.interrupted, guarded := e.guarded, readTo := e.readTo }
    readAndRun fuel (jumps.after restore restore) (.ofText trap.2)
      { e with interrupted := some status, guarded := false }
      fun after => runTraps fuel jumps rest ((restore after).withStatus status) k
termination_by structural fuel => fuel

/-- Goes on after a command, unless it has failed and failures end the program. -/
def settle : Nat → Jumps → After → Environment → Task
  | 0, _, _, _ => .exit 2
  | fuel + 1, jumps, k, e =>
    if e.options.contains 'e' ∧ !e.guarded ∧ e.status ≠ 0 then jumps.exit e
    else poll fuel jumps e k
termination_by structural fuel => fuel

def capture : Nat → Nat → Statement → Environment → (List Char → After) → Task
  | 0, _, _, _, _ => .exit 2
  | fuel + 1, depth, body, e, k =>
    match body with
    | .nothing => k [] e
    | body =>
      let e := e.freeJob.2
      .makePipe fun pipe =>
        let inner := { e.redirect 1 (.writer pipe) with guarded := false }
        .fork inner.allEnds (fun process => runForked fuel depth body inner process) fun process =>
          .release (.writer pipe) fun _ => collect fuel pipe process [] e k
termination_by structural fuel => fuel

def collect : Nat → Nat → Nat → List Char → Environment → (List Char → After) → Task
  | 0, _, _, _, _, _ => .exit 2
  | fuel + 1, pipe, process, text, e, k =>
    .readSome (.reader pipe) fun result =>
      match result with
      | .error _ => gather (fun e => collect fuel pipe process text e k) e
      | .ok [] =>
        .release (.reader pipe) fun _ =>
          awaitAll (fun after =>
            k (text.filter (· ≠ Char.ofNat 0))
              { after with status := e.status, substituted := after.status }) [process] e
      | .ok bytes => collect fuel pipe process (text ++ Octets.decode bytes) e k
termination_by structural fuel => fuel

def expandPrompt : Nat → Jumps → List Char → Environment → (List Char → After) → Task
  | 0, _, _, _, _ => .exit 2
  | fuel + 1, jumps, text, e, k =>
    let scope : Scope := ⟨lineEnds text, e.aliases, true, true⟩
    match readDouble scope (16 * text.length + 64) false text with
    | .ok (parts, _) =>
      Expander.text ⟨capture fuel jumps.depth, jumps.raise⟩ .text parts e k
    | .error _ => k text e
termination_by structural fuel => fuel

def prompt : Nat → Jumps → List (List Char) → Environment → After → Task
  | 0, _, _, _, _ => .exit 2
  | _, _, [], e, k => k e
  | fuel + 1, jumps, text :: rest, e, k =>
    expandPrompt fuel jumps text e fun text e =>
      remark text (fun e => prompt fuel jumps rest e k) e
termination_by structural fuel => fuel

def become : Nat → List Char → Words → Environment → After → Task
  | 0, _, _, _, _ => .exit 2
  | fuel + 1, path, words, e, failed =>
    .look fun fs =>
      match fs.program e.place (Octets.encode path) with
      | .error f => report (startMessage (words.headD []) f) (startStatus f) failed e
      | .ok program =>
        let start : Utility.Start := ⟨words.headD [], words.drop 1, e.descriptors, e.place⟩
        .hold e.ends fun _ =>
          .handle (fun s => ⟨[], s.ignored⟩) fun _ =>
            .sleep Machine.startTime fun _ =>
              match Utility.task? program start with
              | some task => task
              | none => runShell fuel words (inheritance fs e)
termination_by structural fuel => fuel

def runShell : Nat → Words → Environment.Inheritance → Task
  | 0, _, _ => .exit 2
  | fuel + 1, words, h =>
    let title := words.headD []
    let o := OptionWords.read true words.length (.start [] [] (words.drop 1))
    let invoked := Invoked.ofOptions title o
    let letters := o.letters.filter (· ≠ 'm')
    let start (title : List Char) (operands : Words) (letters : List Char) : Environment :=
      { Environment.start title operands letters h with namedOptions := o.names }
    let e := { start title [] letters with line := 0 }
    let jumps := Jumps.outside (quit fuel)
    let isInteractive := letters.contains 'i'
    let ready (k : Task) : Task :=
      output o.shown 0 (fun e =>
        if o.letters.contains 'm' ∨ isInteractive then complain Builtin.noControl (fun _ => k) e
        else k) e
    match invoked with
    | .refused message => output o.shown 0 (report message 2 exitWith) e
    | .program text title operands =>
      ready (readAndRun fuel jumps (.ofText text) (start title operands letters) (quit fuel))
    | .input operands =>
      let e := start title operands ('s' :: letters)
      ready (readAndRun fuel jumps { Source.ofEndpoint (e.endpoint? 0) with isInteractive } e
        (quit fuel))
    | .file path operands =>
      ready (Machine.openThen h.descriptors h.place (Octets.encode path) .input fun result =>
        match result with
        | .error f => report (openMessage .input path f) 2 exitWith e
        | .ok endpoint =>
          readAndRun fuel jumps { Source.ofEndpoint (some endpoint) with isInteractive }
            (start path operands letters) (quit fuel))
termination_by structural fuel => fuel

/-- Reads a program and runs it, statement by statement. A mistake in what is read interactively
gives up only what has been read so far. -/
def readAndRun : Nat → Jumps → Source → Environment → After → Task
  | 0, _, _, _, _ => .exit 2
  | fuel + 1, jumps, s, e, k =>
    let lines := s.text.count '\n'
    let depth := e.frames.length
    let forgetting (before : Nat) (after : Environment) : Task :=
      let left := { s with text := [], before, asked := 0, hasRun := true }
      let e := { after.unwind depth with guarded := false, context := e.context }
      readAndRun fuel jumps left e k
    let inner (before : Nat) : Jumps :=
      if s.isInteractive then { jumps with raise := forgetting before } else jumps
    let ask (last : Nat) (k : After) : Task :=
      prompt fuel jumps (if s.isInteractive then promptsOf e s.text s.asked last else []) e k
    let ended : After := fun e =>
      let e := if s.hasRun then e else e.withStatus 0
      if s.isInteractive then remark ['\n'] k e else k e
    let read (source : Endpoint) : Task :=
      ask (lines + 1) fun e => .readSome source fun result =>
        let s := { s with asked := lines + 1 }
        match result with
        | .error .interrupted => gather (fun e => readAndRun fuel jumps s e k) e
        | .error _ | .ok [] => readAndRun fuel jumps { s with endpoint := none } e k
        | .ok bytes => readAndRun fuel jumps { s with text := s.text ++ Octets.decode bytes } e k
    let present (text : List Char) (k : After) : After :=
      remark (if s.showsLines ∧ e.options.contains 'v' then text else []) k
    match readNext s.before e.aliases s.endpoint.isNone s.text, s.endpoint with
    | .error m, endpoint =>
      match m.incomplete, endpoint with
      | true, some source => read source
      | _, _ =>
        let passed := m.line - s.before
        ask passed (present (firstLines passed s.text) fun e =>
          report m.message 2 (inner (m.line - 1)).raise { e with line := m.line })
    | .ok none, some source => read source
    | .ok none, none => ask (lines + 1) (present s.text ended)
    | .ok (some (statement, rest)), _ =>
      let consumed := s.text.take (s.text.length - rest.length)
      let passed := consumed.count '\n'
      let used := if consumed.getLast? = some '\n' then passed else passed + 1
      let before := s.before + passed
      let after := { s with text := rest, before, asked := s.asked - used, hasRun := true }
      ask used (present consumed fun e =>
        run fuel false (inner before) statement { e with readTo := before + 1 } fun e =>
          readAndRun fuel jumps after e k)
termination_by structural fuel => fuel

def runForked : Nat → Nat → Statement → Environment → Nat → Task
  | 0, _, _, _, _ => .exit 2
  | fuel + 1, depth, body, e, process =>
    run fuel true (.forked depth (quit fuel)) body (e.forked process) (quit fuel)
termination_by structural fuel => fuel

def runForkedWired : Nat → Nat → List Wire → Statement → Environment → Nat → Task
  | 0, _, _, _, _, _ => .exit 2
  | fuel + 1, depth, wires, body, e, process =>
    let jumps := Jumps.forked depth (quit fuel)
    Expander.connect ⟨capture fuel depth, jumps.raise⟩ false (e.forked process)
      (fun e => run fuel true jumps body e (quit fuel)) (quit fuel) wires
termination_by structural fuel => fuel

/-- Runs a built-in command that jumps or runs another program; others stand in the table. -/
def runBuiltin : Nat → Name → Words → Jumps → Ways → Environment → Task
  | 0, _, _, _, _, _ => .exit 2
  | fuel + 1, name, words, jumps, w, e =>
    let jump (leap : Nat → After) : Task :=
      match jumpCount words with
      | .error m => w.fail m e
      | .ok n => if jumps.depth = 0 then w.finish 0 e else leap n (e.withStatus 0)
    match String.ofList name with
    | "exit" =>
      match words with
      | [] => jumps.exit (e.withStatus (e.interrupted.getD e.status))
      | word :: _ =>
        match number? word with
        | some n => jumps.exit (e.withStatus n)
        | none => w.fail (illegalNumber word) e
    | "return" =>
      match words with
      | [] => jumps.ret e
      | word :: _ =>
        match number? word with
        | some n => jumps.ret (e.withStatus n)
        | none => w.fail (illegalNumber word) e
    | "break" => jump jumps.leave
    | "continue" => jump jumps.next
    | "eval" =>
      let restore (after : Environment) : Environment := { after with readTo := e.readTo }
      readAndRun fuel (jumps.after restore restore) (.ofText (List.intercalate [' '] words)) e
        fun after => w.done (restore after)
    | "exec" =>
      match words with
      | [] => .hold e.allEnds fun _ => w.finish 0 e
      | word :: _ =>
        if word.contains '/' then become fuel word words e jumps.exit
        else
          .look fun fs =>
            match locate fs false word e with
            | .ok path => become fuel path words e jumps.exit
            | .error f => report (startMessage word f) (startStatus f) jumps.exit e
    | "." =>
      match Letters.none.read words with
      | .error m => w.fail m e
      | .ok o =>
        match o.words with
        | [] => w.finish 0 e
        | word :: _ => runSourced fuel word jumps w e
    | _ =>
      match builtin? name with
      | some builtin => builtin words w e
      | none => w.finish 127 e
termination_by structural fuel => fuel

def runSourced : Nat → List Char → Jumps → Ways → Environment → Task
  | 0, _, _, _, _ => .exit 2
  | fuel + 1, word, jumps, w, e =>
    let restore (after : Environment) : Environment :=
      { after with guarded := e.guarded, readTo := e.readTo }
    let run (path : List Char) : Task :=
      Machine.openThen e.descriptors e.place (Octets.encode path) .input fun result =>
        match result with
        | .error f => w.fail (openMessage .input path f) e
        | .ok endpoint =>
          let inner := { jumps.after restore restore with ret := fun e => w.done (restore e) }
          readAndRun fuel inner (.ofEndpoint (some endpoint))
            { e with context := some path, guarded := false } fun e => w.done (restore e)
    if word.contains '/' then run word
    else
      .look fun fs =>
        let isText (path : List Char) : Bool :=
          match fs.stat e.place (Octets.encode path) with
          | .ok (_, .file _) | .ok (_, .program _) => true
          | _ => false
        match ((directoryList (e.get "PATH")).map (within · word)).find? isText with
        | some path => run path
        | none => w.fail (word ++ ": not found".toList) e
termination_by structural fuel => fuel

/-- Runs a program; `path` leads to it unless it is the command word itself. -/
def runProgram : Nat → Bool → List Char → Words → Environment → After → Task
  | 0, _, _, _, _, _ => .exit 2
  | fuel + 1, last, path, words, e, k =>
    if last ∧ !hasTraps e then become fuel path words e (quit fuel)
    else
      let e := e.freeJob.2
      .fork e.allEnds (fun process => become fuel path words (e.forked process) exitWith)
        fun process => awaitAll k [process] e
termination_by structural fuel => fuel

def runChosen : Nat → Bool → Choice → Words → Jumps → Ways → Environment → Task
  | 0, _, _, _, _, _, _ => .exit 2
  | fuel + 1, last, c, words, jumps, w, e =>
    match c.target with
    | .nothing => w.finish e.substituted e
    | .function body =>
      let back (after : Environment) : Task := w.done (restoreParameters e after)
      if callLimit ≤ e.calls then
        w.failWith s!"Maximum function recursion depth ({callLimit}) reached" e
      else
        run fuel false (jumps.inFunction back (restoreParameters e)) body
          { e with parameters := words.drop 1, cursor := .start, calls := e.calls + 1 } back
    | .builtin name =>
      runBuiltin fuel name (words.drop 1) jumps w { e with context := some name }
    | .program =>
      let word := words.headD []
      if word.contains '/' then runProgram fuel last word words e w.done
      else
        .look fun fs =>
          match locate fs c.standard word e with
          | .ok path =>
            let e := if c.standard then e else remember word path e
            runProgram fuel last path words e w.done
          | .error f => report (startMessage word f) 127 w.done e
termination_by structural fuel => fuel

def assignEach : Nat → Jumps → Bool → Bool → List (Name × Word) → List (Name × List Char) →
    Environment → (List (Name × List Char) → After) → Task
  | 0, _, _, _, _, _, _, _ => .exit 2
  | _, _, _, _, [], made, e, k => k made e
  | fuel + 1, jumps, ownFrame, exported, (name, word) :: rest, made, e, k =>
    let x : Expander := ⟨capture fuel jumps.depth, jumps.raise⟩
    x.text .assignment word e fun value e =>
      match assignFor ownFrame exported name value e with
      | .error m => x.fail m e
      | .ok e => assignEach fuel jumps ownFrame exported rest (made ++ [(name, value)]) e k
termination_by structural fuel => fuel

def traceCommand : Nat → Jumps → List (Name × List Char) → Words → Environment → Environment →
    After → Task
  | 0, _, _, _, _, _, _ => .exit 2
  | fuel + 1, jumps, assignments, words, outer, e, k =>
    if !e.options.contains 'x' then k e
    else
      let quiet := { e with options := e.options.filter (· ≠ 'x') }
      expandPrompt fuel jumps (e.get "PS4") quiet fun front after =>
        Utility.writeThen outer.descriptors 2 (front ++ tracedWords assignments words) fun _ =>
          k { after with options := e.options }
termination_by structural fuel => fuel

def runSimple : Nat → Bool → Jumps → List (Name × Word) → List Word → List Redirection →
    Environment → After → Task
  | 0, _, _, _, _, _, _, _ => .exit 2
  | fuel + 1, last, jumps, assignments, words, redirections, e, k =>
    let x : Expander := ⟨capture fuel jumps.depth, jumps.raise⟩
    chooseCommand x fuel words e fun c fields e =>
      x.wires [] e (fun wires e =>
        let outer := e
        let isExec := c.runs "exec"
        let back (after : Environment) : Environment :=
          let restored := restoreAll outer after
          if isExec then { restored with descriptors := after.descriptors } else restored
        let done (after : Environment) : Task := k (back after)
        let inner := jumps.after (restoreAll outer) (restoreWires outer)
        let raise : After :=
          if c.special = some false then
            fun after => k { restoreAll outer after with guarded := outer.guarded }
          else inner.raise
        let failed (after : Environment) : Task :=
          if c.isSpecial then inner.raise after else k (restoreAll outer after)
        let e := if c.hasFrame then { e with frames := .empty :: e.frames } else e
        x.connect (!isExec) e (fun e =>
          let exports := c.hasFrame || (isExec && 1 < fields.length)
          assignEach fuel inner c.hasFrame exports assignments [] e fun made e =>
            traceCommand fuel inner made fields outer e fun e =>
              runChosen fuel last c fields { inner with raise } ⟨done, raise⟩ e) failed wires)
        redirections
termination_by structural fuel => fuel

def run : Nat → Bool → Jumps → Statement → Environment → After → Task
  | 0, _, _, _, _, _ => .exit 2
  | fuel + 1, last, jumps, statement, e, k =>
    let done : After := settle fuel jumps k
    let x : Expander := ⟨capture fuel jumps.depth, jumps.raise⟩
    let guarded (s : Statement) (k : After) : Task :=
      run fuel false jumps s { e with guarded := true } fun after =>
        k { after with guarded := e.guarded }
    match if e.options.contains 'n' then .nothing else statement with
    | .nothing => k e
    | .simple line assignments words redirections =>
      runSimple fuel last jumps assignments words redirections
        { e with line, substituted := 0 } done
    | .pipeline stages =>
      runStages fuel false jumps.depth stages none [] e.freeJob.2 fun processes =>
        awaitAll done processes
    | .negation s =>
      guarded s fun e => k (e.withStatus (if e.status = 0 then 1 else 0))
    | .both a b =>
      guarded a fun e => if e.status = 0 then run fuel last jumps b e k else k e
    | .either a b =>
      guarded a fun e => if e.status = 0 then k e else run fuel last jumps b e k
    | .sequence a b => run fuel false jumps a e fun e => run fuel last jumps b e k
    | .background s => runBackground fuel jumps s e done
    | .subshell s => runSubshell fuel last jumps [] s e done
    | .group s => run fuel last jumps s e k
    | .conditional test yes no =>
      guarded test fun e =>
        if e.status = 0 then run fuel last jumps yes e k
        else
          match no with
          | .nothing => k (e.withStatus 0)
          | no => run fuel last jumps no e k
    | .loop untilDone test body => runLoop fuel untilDone test body 0 jumps e k
    | .forEach line name words body =>
      let runWords (fields : Words) (e : Environment) : Task :=
        runEach fuel name fields body jumps (if fields.isEmpty then e.withStatus 0 else e) k
      match words with
      | none => runWords e.parameters { e with line }
      | some words => x.words false [] { e with line } runWords words
    | .choice line word arms =>
      x.text .text word { e with line } fun text e => runChoice fuel last text arms jumps e k
    | .redirected line s redirections =>
      x.wires [] { e with line } (fun wires e =>
        match s with
        | .subshell s => runSubshell fuel last jumps wires s e done
        | s =>
          let restore := restoreWires e
          x.connect true e
            (fun e => run fuel false (jumps.after restore restore) s e fun e => done (restore e))
            (fun e => done (restore e)) wires) redirections
    | .definition name body =>
      k { e with functions := (name, body) :: e.functions.filter (·.1 ≠ name), status := 0 }
termination_by structural fuel => fuel

def runSubshell : Nat → Bool → Jumps → List Wire → Statement → Environment → After → Task
  | 0, _, _, _, _, _, _ => .exit 2
  | fuel + 1, last, jumps, wires, body, e, k =>
    if last ∧ !hasTraps e then runForkedWired fuel jumps.depth wires body e e.self
    else
      let e := e.freeJob.2
      .fork e.allEnds (fun process => runForkedWired fuel jumps.depth wires body e process)
        fun process => awaitAll k [process] e
termination_by structural fuel => fuel

def runBackground : Nat → Jumps → Statement → Environment → After → Task
  | 0, _, _, _, _ => .exit 2
  | fuel + 1, jumps, s, e, k =>
    let depth := jumps.depth
    let started (processes : List Nat) (e : Environment) : Task :=
      k ((e.addJob processes).withStatus 0)
    let start (wires : List Wire) (body : Statement) (e : Environment) : Task :=
      let inner := inBackground (withoutInput e)
      .fork inner.allEnds
        (fun process => .handle keyboardIgnored fun _ =>
          runForkedWired fuel depth wires body inner process)
        fun process => started [process] e
    match s with
    | .pipeline stages => runStages fuel true depth stages none [] e started
    | .redirected line body redirections =>
      let x : Expander := ⟨capture fuel depth, jumps.raise⟩
      x.wires [] { e with line } (fun wires e => start wires body e) redirections
    | body => start [] body e
termination_by structural fuel => fuel

/-- Starts the stages of a pipeline, each in a process; `input` is the pipe from the stage before.
-/
def runStages : Nat → Bool → Nat → List Statement → Option Nat → List Nat → Environment →
    (List Nat → After) → Task
  | 0, _, _, _, _, _, _, _ => .exit 2
  | _, _, _, [], _, processes, e, k => k processes.reverse e
  | fuel + 1, background, depth, stage :: rest, input, processes, e, k =>
    let fed : Environment := match input with
      | some pipe => e.redirect 0 (.reader pipe)
      | none => if background then withoutInput e else e
    let start (inner : Environment) (next : Nat → Task) : Task :=
      let inner := if background then inBackground inner else inner
      let child (process : Nat) : Task := runForked fuel depth stage inner process
      .fork inner.allEnds
        (fun process => if background then .handle keyboardIgnored fun _ => child process
          else child process)
        fun process =>
          match input with
          | some pipe => .release (.reader pipe) fun _ => next process
          | none => next process
    if rest.isEmpty then
      start fed fun process => runStages fuel background depth rest none (process :: processes) e k
    else
      .makePipe fun pipe =>
        start (fed.redirect 1 (.writer pipe)) fun process =>
          .release (.writer pipe) fun _ =>
            runStages fuel background depth rest (some pipe) (process :: processes) e k
termination_by structural fuel => fuel

/-- Runs a loop; `status` is that of the last round. -/
def runLoop : Nat → Bool → Statement → Statement → Nat → Jumps → Environment → After → Task
  | 0, _, _, _, _, _, _, _ => .exit 2
  | fuel + 1, untilDone, test, body, status, jumps, e, k =>
    let again (e : Environment) : Task :=
      .sleep Machine.requestTime fun _ => runLoop fuel untilDone test body e.status jumps e k
    let unguarded (after : Environment) : Environment := { after with guarded := e.guarded }
    let inner :=
      jumps.inLoop (fun after => k (unguarded after)) fun after => again (unguarded after)
    run fuel false inner test { e with guarded := true } fun after =>
      let e := unguarded after
      if (e.status == 0) != untilDone then run fuel false inner body e again
      else k (e.withStatus status)
termination_by structural fuel => fuel

def runEach : Nat → Name → Words → Statement → Jumps → Environment → After → Task
  | 0, _, _, _, _, _, _ => .exit 2
  | _, _, [], _, _, e, k => k e
  | fuel + 1, name, value :: rest, body, jumps, e, k =>
    let again (e : Environment) : Task := runEach fuel name rest body jumps e k
    match e.assign name value with
    | .ok e => run fuel false (jumps.inLoop k again) body e again
    | .error m => report m 2 jumps.raise e
termination_by structural fuel => fuel

def runChoice : Nat → Bool → List Char → List (List Word × Statement) → Jumps → Environment →
    After → Task
  | 0, _, _, _, _, _, _ => .exit 2
  | _, _, _, [], _, e, k => k (e.withStatus 0)
  | fuel + 1, last, value, (patterns, body) :: rest, jumps, e, k =>
    matchAny fuel value patterns jumps e fun found e =>
      if !found then runChoice fuel last value rest jumps e k
      else
        match body with
        | .nothing => k (e.withStatus 0)
        | body => run fuel last jumps body e k
termination_by structural fuel => fuel

def matchAny : Nat → List Char → List Word → Jumps → Environment → (Bool → After) → Task
  | 0, _, _, _, _, _ => .exit 2
  | _, _, [], _, e, k => k false e
  | fuel + 1, value, pattern :: rest, jumps, e, k =>
    let x : Expander := ⟨capture fuel jumps.depth, jumps.raise⟩
    x.atoms .text pattern e fun atoms e =>
      if Glob.isMatch (Atom.pattern atoms) value then k true e
      else matchAny fuel value rest jumps e k
termination_by structural fuel => fuel

end

end DebugControl.Shell
