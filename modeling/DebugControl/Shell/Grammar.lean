/-!
# Shell programs

The grammar of the command language that stands in for a debugger: words with their expansions,
redirections, and statements. Characters stand for octets.
-/

namespace DebugControl.Shell

abbrev Name := List Char

abbrev Words := List (List Char)

def isNameStart (c : Char) : Bool := c.isAlpha || c == '_'

def isNameChar (c : Char) : Bool := c.isAlphanum || c == '_'

def isName (text : List Char) : Bool := text.head?.any isNameStart && text.all isNameChar

/-- The commands of which a mistaken use ends the program. -/
def isSpecialCommand (name : Name) : Bool :=
  [".", ":", "break", "continue", "eval", "exec", "exit", "export", "local", "readonly", "return",
    "set", "shift", "times", "trap", "unset"].contains (String.ofList name)

def builtinNames : List String :=
  [".", ":", "[", "alias", "bg", "break", "cd", "chdir", "command", "continue", "echo", "eval",
    "exec", "exit", "export", "false", "fg", "getopts", "hash", "jobs", "kill", "local", "printf",
    "pwd", "read", "readonly", "return", "set", "shift", "test", "times", "trap", "true", "type",
    "ulimit", "umask", "unalias", "unset", "wait"]

def isBuiltin (name : Name) : Bool := builtinNames.contains (String.ofList name)

/-- The commands whose operands may be assignments. -/
def isDeclaration (name : Name) : Bool :=
  ["alias", "export", "local", "readonly"].contains (String.ofList name)

def keywords : List String :=
  ["!", "case", "do", "done", "elif", "else", "esac", "fi", "for", "if", "in", "then", "until",
    "while", "\x7b", "\x7d"]

/-- What the word in an expansion of a parameter does. The flag of the first four says that an empty
parameter counts as a missing one, that of the others that the longest match is cut off. -/
inductive Adjustment where
  | default (emptyToo : Bool)
  | assign (emptyToo : Bool)
  | demand (emptyToo : Bool)
  | replace (emptyToo : Bool)
  | cutFront (longest : Bool)
  | cutBack (longest : Bool)
deriving Repr, DecidableEq

inductive Direction where
  | input
  | output
  /-- Output that may replace a file in any case. -/
  | clobber
  | append
  | update
deriving Repr, DecidableEq

mutual

inductive Part where
  | literal (text : List Char) (quoted : Bool)
  | parameter (name : Name) (quoted : Bool)
  | size (name : Name) (quoted : Bool)
  | adjusted (name : Name) (how : Adjustment) (word : List Part) (quoted : Bool)
  | arithmetic (expression : List Part) (quoted : Bool)
  | substitution (body : Statement) (quoted : Bool)
  /-- Braces behind a dollar sign that are no expansion. -/
  | malformed

inductive Redirection where
  | file (descriptor : Nat) (direction : Direction) (path : List Part)
  | duplicate (descriptor : Nat) (other : List Part)
  /-- Reads the text itself. -/
  | document (descriptor : Nat) (text : List Part)

inductive Statement where
  | nothing
  | simple (line : Nat) (assignments : List (Name × List Part)) (words : List (List Part))
      (redirections : List Redirection)
  | pipeline (stages : List Statement)
  | negation (s : Statement)
  | both (a b : Statement)
  | either (a b : Statement)
  | sequence (a b : Statement)
  | background (s : Statement)
  | subshell (s : Statement)
  | group (s : Statement)
  | conditional (test yes no : Statement)
  /-- Repeats the body while the test succeeds, or until it does. -/
  | loop (untilDone : Bool) (test body : Statement)
  | forEach (line : Nat) (name : Name) (words : Option (List (List Part))) (body : Statement)
  | choice (line : Nat) (word : List Part) (arms : List (List (List Part) × Statement))
  | redirected (line : Nat) (s : Statement) (redirections : List Redirection)
  | definition (name : Name) (body : Statement)

end

abbrev Word := List Part

end DebugControl.Shell
