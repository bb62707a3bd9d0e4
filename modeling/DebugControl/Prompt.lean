import DebugControl.Failure
import DebugControl.Notice
import DebugControl.Pattern.Reader
import DebugControl.Sink

/-!
# Prompts

A prompt is recognised by a pattern that must match a whole line, or by the simple prompt anywhere
in a line. Only the last lines of a reply are looked at: its tail.
-/

namespace DebugControl

structure Prompt where
  pattern : String
  regex : Pattern.Regex

namespace Prompt

def anchored (pattern : String) : List Char := "^(?:".toList ++ pattern.toList ++ ")$".toList

def new (pattern : String) : Except Failure Prompt :=
  match Pattern.compile (anchored pattern) with
  | .ok regex => .ok ⟨pattern, regex⟩
  | .error defect => .error (.badPattern defect.message)

def isMatch (p : Prompt) (line : Line) : Bool := p.regex.occursIn line

/-- Whether a line shows the prompt, or the simple prompt where that will do. -/
def shownBy (p : Prompt) (simple : Bool) (line : Line) : Bool :=
  p.isMatch line || (simple && Text.contains Notice.simplePrompt.toList line)

/-- The index of the first of the last `tail` lines that shows the prompt. -/
def findInTail (p : Prompt) (lines : List Line) (tail : Nat) (simple : Bool) : Option Nat :=
  let skipped := lines.length - tail
  ((lines.drop skipped).findIdx? (p.shownBy simple)).map (skipped + ·)

def matchesTail (p : Prompt) (lines : List Line) (tail : Nat) (simple : Bool) : Bool :=
  (p.findInTail lines tail simple).isSome

end Prompt

end DebugControl
