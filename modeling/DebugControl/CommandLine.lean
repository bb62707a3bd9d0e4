import DebugControl.Run
import DebugControl.Settings.Stored

/-!
# The command line

Arguments are options with values, a subcommand, and behind two hyphens the arguments of the
debugger. `Invocation.read` reads them, and `Invocation.perform` carries them out on the files of
the working directory, which is also the home directory.
-/

namespace DebugControl

inductive Request where
  | run (o : RunOptions)
  | launchArgs (d : Debuggee)
  | showSettings
deriving Repr, DecidableEq

inductive Invocation where
  | version
  | request (settings : Option String) (r : Request)
deriving Repr, DecidableEq

namespace CommandLine

/-- An option and whether its value may begin with a hyphen. -/
structure OptionSpec where
  name : String
  anyValue : Bool
  /-- Which values it takes. -/
  accepts : String → Bool

def isPath (value : String) : Bool := !value.isEmpty

def isCount (value : String) : Bool :=
  match Numeral.read UInt64.size value.toList with
  | .ok _ => true
  | .error _ => false

def settingsOption : OptionSpec := ⟨"config", false, isPath⟩

def runOptions : List OptionSpec :=
  [settingsOption, ⟨"script", false, isPath⟩, ⟨"tool", false, fun _ => true⟩,
    ⟨"main", false, fun _ => true⟩, ⟨"debuggee-options", true, fun _ => true⟩,
    ⟨"transcript", false, isPath⟩, ⟨"poll-ms", false, isCount⟩, ⟨"timeout-ms", false, isCount⟩]

def launchOptions : List OptionSpec :=
  [settingsOption, ⟨"main", false, fun _ => true⟩, ⟨"options", true, fun _ => true⟩]

/-- The options that were given, and the arguments behind two hyphens. -/
structure Given where
  values : List (String × String)
  trailing : List String

def Given.value? (g : Given) (name : String) : Option String := g.values.lookup name

def Given.count? (g : Given) (name : String) : Option Nat :=
  (g.value? name).bind fun v => (Numeral.read UInt64.size v.toList).toOption

def looksLikeOption (arg : String) : Bool := arg.startsWith "-" && arg.length != 1

def longOption? (arg : String) : Option (String × Option String) :=
  match arg.toList with
  | '-' :: '-' :: text =>
    let name := text.takeWhile (· != '=')
    some (String.ofList name, match text.drop name.length with
      | _ :: value => some (String.ofList value)
      | [] => none)
  | _ => none

/-- Records the value of an option, which may be given once. -/
def Given.add (g : Given) (spec : OptionSpec) (value : String) : Option Given :=
  if (g.value? spec.name).isSome ∨ !spec.accepts value then none
  else some { g with values := (spec.name, value) :: g.values }

def readOptions (specs : List OptionSpec) : Given → List String → Option Given
  | g, [] => some g
  | g, "--" :: rest => some { g with trailing := rest }
  | g, arg :: rest => do
    let (name, attached) ← longOption? arg
    let spec ← specs.find? (·.name = name)
    match attached, rest with
    | some value, rest => readOptions specs (← g.add spec value) rest
    | none, [] => none
    | none, value :: rest =>
      if looksLikeOption value ∧ !spec.anyValue then none
      else readOptions specs (← g.add spec value) rest

def readSubcommand (settings : Option String) (name : String) (args : List String) :
    Option Invocation :=
  let settingsOf (g : Given) : Option String := (g.value? "config").orElse fun _ => settings
  match name with
  | "run" => do
    let g ← readOptions runOptions ⟨[], []⟩ args
    let script ← g.value? "script"
    pure (.request (settingsOf g) (.run ⟨script, g.value? "tool", g.value? "main",
      g.value? "debuggee-options", g.value? "transcript", g.count? "poll-ms",
      g.count? "timeout-ms", g.trailing⟩))
  | "launch-args" => do
    let g ← readOptions launchOptions ⟨[], []⟩ args
    let mainClass ← g.value? "main"
    if g.trailing.isEmpty then
      pure (.request (settingsOf g) (.launchArgs ⟨mainClass, g.value? "options"⟩))
    else none
  | "config" => do
    let g ← readOptions [settingsOption] ⟨[], []⟩ args
    if g.trailing.isEmpty then pure (.request (settingsOf g) .showSettings) else none
  | _ => none

/-- Reads the arguments in front of the subcommand. -/
def readFrom : Option String → List String → Option Invocation
  | _, [] => none
  | settings, arg :: rest =>
    if arg = "--version" ∨ arg.startsWith "-V" then some .version
    else
      match longOption? arg with
      | some ("config", some value) =>
        if settings.isSome ∨ !isPath value then none else readFrom (some value) rest
      | some ("config", none) =>
        match rest with
        | [] => none
        | value :: rest =>
          if settings.isSome ∨ looksLikeOption value ∨ !isPath value then none
          else readFrom (some value) rest
      | some _ => none
      | none => readSubcommand settings arg rest

end CommandLine

/-- Reads the arguments of the command line; there is none for arguments that are misused. -/
def Invocation.read? (args : List String) : Option Invocation := CommandLine.readFrom none args

structure Finished where
  code : Nat
  output : List Char
  errors : List Char
  files : Files

namespace Invocation

variable {σ : Type} [Host σ] [Storage σ]

def versionText : String := "dh 0.1.0\n"

def homePath : Path := Utf8.ofString ("/".intercalate Settings.homePath)

def homeSettings (files : Files) : Except SettingsError Settings :=
  match files.stat SystemFiles.workingPlace homePath, files.read homePath with
  | .error _, _ => Settings.loadHome none
  | .ok _, .ok bytes => Settings.loadHome (some bytes)
  | .ok _, .error f => .error (.unreadable f.message)

def settingsOf (files : Files) : Option String → Except SettingsError Settings
  | some path => Settings.loadFile (files.read (Utf8.ofString path))
  | none => homeSettings files

def failed (files : Files) (output : List Char) (r : Report) : Finished :=
  ⟨1, output, ("Error: " ++ r.listed ++ "\n").toList, files⟩

def printLines (lines : List (List Char)) : List Char := lines.flatMap (· ++ ['\n'])

def carryOut (rounds : Nat) (spawn : Files → String → List String → Except Fault σ)
    (files : Files) (s : Settings) : Request → Option Finished
  | .run o => do
    let r ← o.run rounds spawn s files
    match r.failure with
    | some f => pure (failed r.files (printLines r.printed) f)
    | none => pure ⟨0, printLines r.printed, [], r.files⟩
  | .launchArgs d => some ⟨0, d.listing.toList, [], files⟩
  | .showSettings =>
    match s.write with
    | .ok text => some ⟨0, text, [], files⟩
    | .error e => some (failed files [] (.ofMessage e.message))

/-- Carries out an invocation, if its loops end within the rounds. -/
def perform (rounds : Nat) (spawn : Files → String → List String → Except Fault σ)
    (files : Files) : Invocation → Option Finished
  | .version => some ⟨0, versionText.toList, [], files⟩
  | .request settings r =>
    match settingsOf files settings with
    | .error e => some (failed files [] (.ofMessage e.message))
    | .ok s => carryOut rounds spawn files s r

def misuseCode : Nat := 2

end Invocation

end DebugControl
