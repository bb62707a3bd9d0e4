import DebugControl.Report
import DebugControl.Script.Step
import DebugControl.Text.Blank
import DebugControl.Text.Numeral

/-!
# Reading scripts

A script has one step on each line. Blank lines and lines that begin with `#` are skipped, a line
that begins with `@` is a directive, and any other line is a command. The first line that is no step
fails the whole script, with its number.
-/

namespace DebugControl.Script

inductive LineError where
  | badAttempts (written : List Char) (reason : Numeral.ReadError)
  | nothingExpected
  | unknownDirective (name : List Char)
deriving Repr, DecidableEq

def LineError.report : LineError → Report
  | .badAttempts written reason =>
    ⟨s!"invalid attempt count '{String.ofList written}'", [reason.message]⟩
  | .nothingExpected => .ofMessage "@expect needs the text to look for"
  | .unknownDirective name => .ofMessage s!"unknown directive '@{String.ofList name}'"

/-- The first line of a script that is no step, counted from one, and what is wrong with it. -/
structure ReadError where
  line : Nat
  cause : LineError
deriving Repr, DecidableEq

def ReadError.report (e : ReadError) : Report := e.cause.report.context s!"script line {e.line}"

def attemptLimit : Nat := UInt64.size

def readAttempts (arg : List Char) : Except LineError Step :=
  if arg = [] then .ok (.contToExit 1)
  else
    match Numeral.read attemptLimit arg with
    | .ok n => .ok (.contToExit n)
    | .error reason => .error (.badAttempts arg reason)

def readDirective (name arg : List Char) : Except LineError Step :=
  if name = "wait-prompt".toList then .ok .waitPrompt
  else if name = "quit".toList then .ok .quit
  else if name = "cont-to-exit".toList then readAttempts arg
  else if name = "expect".toList then
    if arg = [] then .error .nothingExpected else .ok (.expect (String.ofList arg))
  else if name = "exit-ok".toList ∧ arg ≠ [] then
    .ok (.send (Command.plain (String.ofList arg)).orExit)
  else if name = "simple".toList ∧ arg ≠ [] then
    .ok (.send (Command.plain (String.ofList arg)).orSimplePrompt)
  else .error (.unknownDirective name)

def readStep : List Char → Except LineError Step
  | '@' :: directive =>
    let name := directive.takeWhile fun c => !Text.isBlank c
    readDirective name (Text.trim (directive.drop name.length))
  | line => .ok (.send (.plain (String.ofList line)))

def isSkipped (line : List Char) : Bool := line.isEmpty || line.head? == some '#'

/-- Reads lines, the first of which has the given number. -/
def readLines : Nat → List (List Char) → Except ReadError (List Step)
  | _, [] => .ok []
  | number, raw :: rest =>
    let line := Text.trim raw
    if isSkipped line then readLines (number + 1) rest
    else
      match readStep line with
      | .error cause => .error ⟨number, cause⟩
      | .ok step => do
        let steps ← readLines (number + 1) rest
        pure (step :: steps)

def read (text : List Char) : Except ReadError (List Step) := readLines 1 (Text.lines text)

end DebugControl.Script
