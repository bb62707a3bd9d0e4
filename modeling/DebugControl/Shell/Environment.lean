import DebugControl.Machine.Task
import DebugControl.Shell.Arithmetic
import DebugControl.Shell.Field
import DebugControl.Shell.Grammar
import DebugControl.Text.Octets

/-!
# The environment of a shell

Variables, parameters, functions, options, open descriptors, background jobs and the status of the
last command: all that a command may depend on or change.
-/

namespace DebugControl.Shell

open Machine (Endpoint)

structure Variable where
  value : Option (List Char)
  /-- Whether programs inherit it. -/
  isExported : Bool
  isReadOnly : Bool
deriving Repr, DecidableEq

def Variable.none : Variable := ⟨.none, false, false⟩

/-- A background job: its number, and its processes with how they ended, as far as that is known. -/
structure Job where
  number : Nat
  processes : List (Nat × Option ExitStatus)
  /-- Whether its end has been waited for. -/
  isWaited : Bool
deriving Repr, DecidableEq

def Job.isDone (j : Job) : Bool := j.processes.all (·.2.isSome)

def Job.status? (j : Job) : Option ExitStatus := j.processes.getLast?.bind Prod.snd

structure OptionCursor where
  /-- The next word, counted from one. -/
  word : Nat
  /-- The next letter in the word before it. -/
  letter : Option Nat
deriving Repr, DecidableEq

def OptionCursor.start : OptionCursor := ⟨1, none⟩

/-- What was before a command that has variables of its own. -/
structure Frame where
  bindings : List (Name × Option Variable)
  options : Option (List Char × List String)

def Frame.empty : Frame := ⟨[], none⟩

structure Environment where
  /-- The name under which messages are written. -/
  title : List Char
  /-- The built-in command on behalf of which messages are written. -/
  context : Option Name
  /-- The line of the command that runs. -/
  line : Nat
  /-- The line up to which the program has been read. -/
  readTo : Nat
  parameters : List (List Char)
  cursor : OptionCursor
  bindings : List (Name × Variable)
  functions : List (Name × Statement)
  aliases : List (Name × List Char)
  /-- The programs that have been found by name. -/
  found : List (Name × List Char)
  descriptors : List (Nat × Endpoint)
  /-- The ends of pipes that are kept to be restored later. -/
  kept : List Endpoint
  /-- The working directory. -/
  place : Place
  /-- The working directory as the user has named it. -/
  path : List Char
  /-- The permissions that new files do not get. -/
  mask : Nat
  status : Nat
  /-- The status of the last substitution in the command that runs. -/
  substituted : Nat
  /-- In what is done at a signal, the status before it. -/
  interrupted : Option Nat
  /-- The process of the shell itself, also in the processes it forks. -/
  shell : Nat
  /-- The process that runs this program. -/
  self : Nat
  /-- The last background process. -/
  lastBackground : Option Nat
  /-- The background jobs, the latest first. -/
  jobs : List Job
  /-- What to do at a signal, or at the exit, which has the number zero. -/
  traps : List (Nat × List Char)
  /-- The signals that have been caught and not been acted on. -/
  pending : List Nat
  /-- The signals that have been ignored from the beginning. -/
  ignored : List Nat
  /-- The limits that have been set, by their letters. -/
  limits : List (Char × List Char)
  /-- The options that are set, by their letters. -/
  options : List Char
  /-- The options that are set and have no letter. -/
  namedOptions : List String
  /-- Whether the status of a command is tested, so that a failure does not end the program. -/
  guarded : Bool
  /-- What was before the commands that have variables of their own, the innermost first. -/
  frames : List Frame
  /-- How many functions are under way. -/
  calls : Nat

def decimal (n : Nat) : List Char := Nat.toDigits 10 n

def isNumber (text : List Char) : Bool := !text.isEmpty && text.all Char.isDigit

def natOf (text : List Char) : Nat := (Arithmetic.valueOf 10 text).toNat

/-- Numbers from here on are no numbers of the shell. -/
def numberLimit : Nat := 2147483648

def number? (text : List Char) : Option Nat :=
  let s := Arithmetic.skipSpace text
  let digits := if s.head? = some '-' ∨ s.head? = some '+' then s.drop 1 else s
  match Arithmetic.digits? 10 Char.isDigit digits with
  | some (n, rest) =>
    let fits : Bool := if s.head? = some '-' then n == 0 else n.toNat < numberLimit
    if (Arithmetic.skipSpace rest).isEmpty ∧ fits then some n.toNat else none
  | none => none

def illegalNumber (text : List Char) : List Char := "Illegal number: ".toList ++ text

namespace Environment

/-- The letters of options in the order in which they are shown. -/
def shownOptions : List Char := "pubaCEVvxsnmiIfe".toList

def preset : List (String × String) :=
  [("PS4", "+ "), ("PS2", "> "), ("PS1", "# "), ("OPTIND", "1"), ("IFS", " \t\n"),
    ("PATH", SystemFiles.searchPath), ("PPID", "1")]

structure Inheritance where
  bindings : List (Name × List Char)
  descriptors : List (Nat × Endpoint)
  place : Place
  mask : Nat
  process : Nat
  ignored : List Nat

def pathOf (place : Place) : List Char := Octets.decode (Path.ofNames true place)

def start (title : List Char) (parameters : List (List Char)) (options : List Char)
    (h : Inheritance) : Environment :=
  let path := (h.bindings.lookup "PWD".toList).getD (pathOf h.place)
  let own : List Name := ["PWD", "OPTIND", "IFS", "PPID"].map String.toList
  let inherited := h.bindings.filter fun v => !own.contains v.1
  let preset := preset.filter fun v => (inherited.lookup v.1.toList).isNone
  { title
    context := none
    line := 1
    readTo := 1
    parameters
    cursor := .start
    bindings := ("PWD".toList, ⟨some path, true, false⟩) ::
      inherited.map (fun v => (v.1, ⟨some v.2, true, false⟩)) ++
      preset.map (fun v => (v.1.toList, ⟨some v.2.toList, false, false⟩))
    functions := []
    aliases := []
    found := []
    descriptors := h.descriptors
    kept := []
    place := h.place
    path
    mask := h.mask
    status := 0
    substituted := 0
    interrupted := none
    shell := h.process
    self := h.process
    lastBackground := none
    jobs := []
    traps := []
    pending := []
    ignored := h.ignored
    limits := []
    options
    namedOptions := []
    guarded := false
    frames := []
    calls := 0 }

/-- The environment of a process that a shell forks; a trap that does nothing stays. -/
def forked (e : Environment) (process : Nat) : Environment :=
  { e with
    self := process
    readTo := 1
    jobs := []
    pending := []
    traps := e.traps.filter fun t => t.1 ≠ 0 ∧ t.2.isEmpty }

def withStatus (e : Environment) (status : Nat) : Environment := { e with status }

/-! ## Descriptors -/

def ends (e : Environment) : List Endpoint := (e.descriptors.map Prod.snd).filter (·.isPipe)

def allEnds (e : Environment) : List Endpoint := e.ends ++ e.kept

def endpoint? (e : Environment) (descriptor : Nat) : Option Endpoint :=
  e.descriptors.lookup descriptor

def close (e : Environment) (descriptor : Nat) : Environment :=
  { e with descriptors := e.descriptors.filter (·.1 ≠ descriptor) }

def redirect (e : Environment) (descriptor : Nat) (target : Endpoint) : Environment :=
  { e with descriptors := (descriptor, target) :: (e.close descriptor).descriptors }

/-! ## Variables and parameters -/

def binding (e : Environment) (name : Name) : Variable := (e.bindings.lookup name).getD .none

def get? (e : Environment) (name : Name) : Option (List Char) := (e.binding name).value

def get (e : Environment) (name : String) : List Char := (e.get? name.toList).getD []

def bind (e : Environment) (name : Name) (v : Variable) : Environment :=
  { e with bindings := (name, v) :: e.bindings.filter (·.1 ≠ name) }

def restore (e : Environment) (name : Name) : Option Variable → Environment
  | some v => e.bind name v
  | none => { e with bindings := e.bindings.filter (·.1 ≠ name) }

def popFrame (e : Environment) : Environment :=
  match e.frames with
  | [] => e
  | f :: rest =>
    let e := f.bindings.foldl (fun e b => e.restore b.1 b.2) { e with frames := rest }
    match f.options with
    | some (options, namedOptions) => { e with options, namedOptions }
    | none => e

def unwind (e : Environment) (depth : Nat) : Environment :=
  Nat.repeat popFrame (e.frames.length - depth) e

def withCursor (e : Environment) (value : List Char) : Except (List Char) Environment :=
  match number? value with
  | some n => .ok { e with cursor := ⟨max n 1, none⟩ }
  | none => .error (illegalNumber value)

def assign (e : Environment) (name : Name) (value : List Char) :
    Except (List Char) Environment :=
  let v := e.binding name
  if !isName name then .error (name ++ ": bad variable name".toList)
  else if v.isReadOnly then .error (name ++ ": is read only".toList)
  else
    let e := e.bind name { v with
      value := some value, isExported := v.isExported || e.options.contains 'a' }
    if name = "OPTIND".toList then e.withCursor value
    else if name = "PATH".toList then .ok { e with found := [] }
    else .ok e

def unset (e : Environment) (name : Name) : Except (List Char) Environment :=
  if !isName name then .error (name ++ ": bad variable name".toList)
  else if (e.binding name).isReadOnly then .error (name ++ ": is read only".toList)
  else .ok (e.restore name none)

def separators (e : Environment) : List Char :=
  (e.get? "IFS".toList).getD [' ', '\t', '\n']

def value? (e : Environment) (name : Name) : Option (List Char) :=
  match name with
  | ['?'] => some (decimal e.status)
  | ['#'] => some (decimal e.parameters.length)
  | ['$'] => some (decimal e.shell)
  | ['!'] => e.lastBackground.map decimal
  | ['-'] => some (shownOptions.filter e.options.contains)
  | ['0'] => some e.title
  | _ =>
    if name.all Char.isDigit then
      if natOf name = 0 then some e.title else e.parameters[natOf name - 1]?
    else e.get? name

def value (e : Environment) (name : Name) : List Char := (e.value? name).getD []

def areAll (name : Name) : Bool := name == ['@'] || name == ['*']

def joined (e : Environment) (separator : List Char) : List Char :=
  List.intercalate separator e.parameters

def joint (e : Environment) : List Char := e.separators.take 1

/-- Whether a parameter is set; all parameters together always are. -/
def isSet (e : Environment) (name : Name) : Bool := areAll name || (e.value? name).isSome

def hasValue (e : Environment) (name : Name) (emptyToo : Bool) : Bool :=
  if areAll name then !(emptyToo && (e.joined [' ']).isEmpty)
  else (e.value? name).any fun v => !(emptyToo && v.isEmpty)

/-- Whether a parameter is not set although the options ask for one. -/
def isMissing (e : Environment) (name : Name) : Bool :=
  e.options.contains 'u' && !e.isSet name

def exported (e : Environment) : List (Name × List Char) :=
  e.bindings.filterMap fun v => if v.2.isExported then v.2.value.map (v.1, ·) else none

/-- The text of a parameter and its atoms, in a word that is cut into fields or in one that is not.
-/
def parameterText (e : Environment) (name : Name) (quoted full : Bool) : List Char :=
  if !areAll name then e.value name
  else if full ∧ (!quoted ∨ name = ['@']) then
    let unsetIfs := (e.get? "IFS".toList).isNone
    e.joined [if !quoted ∧ unsetIfs then ' ' else parameterSeparator]
  else e.joined e.joint

def parameterAtoms (e : Environment) (name : Name) (quoted full : Bool) : List Atom :=
  if name = ['@'] ∧ quoted ∧ full then Atom.whole e.parameters
  else Atom.expanded (e.parameterText name quoted full) quoted

def cutAtoms (e : Environment) (name : Name) (quoted full : Bool) (text : List Char) : List Atom :=
  if name = ['@'] ∧ quoted ∧ full ∧ !e.parameters.isEmpty then
    .seam true :: text.map fun c =>
      if c = parameterSeparator then .parameterEnd else .char c true false
  else Atom.expanded text quoted

/-! ## Jobs -/

/-- Frees the place of the next job, which is the first that no job has or only one that has been
waited for; gives its number. -/
def freeJob (e : Environment) : Nat × Environment :=
  let isFree (n : Nat) : Bool := e.jobs.all fun j => j.number ≠ n ∨ (j.isWaited ∧ j.isDone)
  let n := ((List.range (e.jobs.length + 1)).find? fun n => isFree (n + 1)).getD e.jobs.length + 1
  (n, { e with jobs := e.jobs.filter (·.number ≠ n) })

/-- Adds a job with the given processes, the last of which is the last background process. -/
def addJob (e : Environment) (processes : List Nat) : Environment :=
  let (number, e) := e.freeJob
  { e with
    jobs := ⟨number, processes.map fun p => (p, none), false⟩ :: e.jobs
    lastBackground := processes.getLast? }

def noteEnd (e : Environment) (process : Nat) (status : ExitStatus) : Environment :=
  { e with jobs := e.jobs.map fun j => { j with
      processes := j.processes.map fun p => if p.1 = process then (p.1, some status) else p } }

def unnoticed (e : Environment) : List Nat :=
  e.jobs.flatMap fun j => j.processes.filterMap fun p => if p.2.isNone then some p.1 else none

end Environment

end DebugControl.Shell
