import DebugControl.Shell.Glob
import DebugControl.Shell.Message
import DebugControl.Shell.Scan

/-!
# Expanding words

A word is expanded part by part into atoms, and the atoms become fields, a text or a pattern. What
programs have to be run for it is left to the interpreter, which gives the output of a substitution.
-/

namespace DebugControl.Shell

open Machine (Task)

structure Expander where
  /-- Runs a program and gives its output. -/
  capture : Statement → Environment → (List Char → After) → Task
  /-- After a mistake. -/
  raise : After

structure Manner where
  /-- Whether the word becomes fields. -/
  full : Bool
  /-- Whether a tilde may stand behind each colon, and not only at the beginning. -/
  colons : Bool
  /-- Whether the word stands in the expansion of a parameter. -/
  nested : Bool
deriving Repr, DecidableEq

namespace Manner

def fields : Manner := ⟨true, false, false⟩

def text : Manner := ⟨false, false, false⟩

def assignment : Manner := ⟨false, true, false⟩

def inner (m : Manner) : Manner := { m with nested := true }

end Manner

/-! ## Tildes -/

def home? (e : Environment) (name : List Char) : Option (List Char) :=
  if name.isEmpty then e.get? "HOME".toList else SystemFiles.homeOf? name

def tildeAtoms (e : Environment) (m : Manner) (isLast : Bool) : Nat → Bool → List Char → List Atom
  | 0, _, text => Atom.literal text false
  | _, _, [] => []
  | fuel + 1, allowed, c :: rest =>
    let name := rest.takeWhile fun x => x ≠ '/' ∧ !(m.colons ∧ x = ':')
    let behind := rest.drop name.length
    let plain : List Atom :=
      .char c false false :: tildeAtoms e m isLast fuel (m.colons && c == ':') rest
    if allowed ∧ c = '~' ∧ (isLast ∨ !behind.isEmpty) then
      match home? e name with
      | some home =>
        home.map (fun x => .char x true false) ++ tildeAtoms e m isLast fuel false behind
      | none => plain
    else plain

def literalAtoms (e : Environment) (m : Manner) (isFirst isLast : Bool) (text : List Char) :
    List Atom :=
  let atoms := tildeAtoms e m isLast (text.length + 1) isFirst text
  if m.nested then Atom.cuttable atoms else atoms

/-! ## Parts -/

def Expander.fail (x : Expander) (message : List Char) (e : Environment) : Task :=
  report message 2 x.raise e

def assignAll (made : List (Name × List Char)) (e : Environment) :
    Except (List Char) Environment :=
  made.reverse.foldlM (fun e a => e.assign a.1 a.2) e

def arithmeticAtoms (x : Expander) (text : List Char) (quoted : Bool) (e : Environment)
    (k : List Atom → After) : Task :=
  match Arithmetic.compute (fun name => (e.get? name).getD []) text with
  | .error m => x.fail m e
  | .ok (n, made) =>
    match assignAll made e with
    | .error m => x.fail m e
    | .ok e => k (Atom.expanded (toString n).toList quoted) e

mutual

/-- Expands a part of a word; the flags say whether it is the first and the last. -/
def expandPart (x : Expander) (m : Manner) (isFirst isLast : Bool) (e : Environment)
    (k : List Atom → After) : Part → Task
  | .literal text true => k (Atom.literal text true) e
  | .literal text false => k (literalAtoms e m isFirst isLast text) e
  | .parameter name quoted =>
    if e.isMissing name then x.fail (name ++ ": parameter not set".toList) e
    else k (e.parameterAtoms name quoted m.full) e
  | .size name quoted =>
    if e.isMissing name then x.fail (name ++ ": parameter not set".toList) e
    else k (Atom.expanded (decimal (e.parameterText name quoted false).length) quoted) e
  | .adjusted name how word quoted =>
    let value : Task := k (e.parameterAtoms name quoted m.full) e
    let mark : List Atom := if quoted then [.present] else []
    let cut (f : Field → List Char → List Char) : Task :=
      if e.isMissing name then x.fail (name ++ ": parameter not set".toList) e
      else if !e.isSet name then value
      else
        let text := e.parameterText name quoted m.full
        expandParts x .text true [] e (fun atoms e =>
          k (e.cutAtoms name quoted m.full (f (Atom.pattern atoms) text)) e) word
    match how with
    | .default emptyToo =>
      if e.hasValue name emptyToo then value
      else expandParts x m.inner true [] e (fun atoms e => k (mark ++ atoms) e) word
    | .assign emptyToo =>
      if e.hasValue name emptyToo then value
      else
        expandParts x { Manner.text with colons := m.colons } true [] e (fun atoms e =>
          match e.assign name (Atom.text atoms) with
          | .ok e => k (Atom.expanded (Atom.text atoms) quoted) e
          | .error message => x.fail message e) word
    | .demand emptyToo =>
      if e.hasValue name emptyToo then value
      else if word.isEmpty then
        let reason := if emptyToo then ": parameter not set or null" else ": parameter not set"
        x.fail (name ++ reason.toList) e
      else
        expandParts x .text true [] e (fun atoms e =>
          x.fail (name ++ [':', ' '] ++ Atom.text atoms) e) word
    | .replace emptyToo =>
      if e.hasValue name emptyToo then
        expandParts x m.inner true [] e (fun atoms e => k (mark ++ atoms) e) word
      else k mark e
    | .cutFront longest => cut (Glob.cutFront longest)
    | .cutBack longest => cut (Glob.cutBack longest)
  | .arithmetic expression quoted =>
    expandParts x .text false [] e (fun atoms e =>
      arithmeticAtoms x (Atom.text atoms) quoted e k) expression
  | .substitution body quoted =>
    x.capture body e fun text e =>
      k (Atom.expanded (text.reverse.dropWhile (· = '\n')).reverse quoted) e
  | .malformed => x.fail "Bad substitution".toList e

def expandParts (x : Expander) (m : Manner) (isFirst : Bool) (done : List Atom) (e : Environment)
    (k : List Atom → After) : List Part → Task
  | [] => k done e
  | part :: rest =>
    expandPart x m isFirst rest.isEmpty e
      (fun atoms e => expandParts x m false (done ++ atoms) e k rest) part

end

namespace Expander

def atoms (x : Expander) (m : Manner) (word : Word) (e : Environment) (k : List Atom → After) :
    Task :=
  expandParts x m true [] e k word

def text (x : Expander) (m : Manner) (word : Word) (e : Environment) (k : List Char → After) :
    Task :=
  x.atoms m word e fun atoms e => k (Atom.text atoms) e

/-! ## Fields -/

/-- Replaces fields that are patterns by the paths that they match, if there are any. -/
def paths (fields : List Field) (e : Environment) (k : Words → After) : Task :=
  if e.options.contains 'f' ∨ !fields.any Glob.isPattern then k (fields.map Field.text) e
  else
    .look fun fs =>
      k (fields.flatMap fun f =>
        match Glob.paths fs e.place f with
        | [] => [f.text]
        | found => found) e

def fields (x : Expander) (word : Word) (e : Environment) (k : Words → After) : Task :=
  x.atoms .fields word e fun atoms e => paths (cutFields e.separators none atoms) e k

/-- Expands an operand of a declaration, which is one text if it is an assignment. -/
def operand (x : Expander) (word : Word) (e : Environment) (k : Words → After) : Task :=
  match assignment? word with
  | none => x.fields word e k
  | some (name, value) =>
    x.text .assignment value e fun text e => k [name ++ '=' :: text] e

def words (x : Expander) (declares : Bool) (done : Words) (e : Environment) (k : Words → After) :
    List Word → Task
  | [] => k done e
  | word :: rest =>
    let next (found : Words) (e : Environment) : Task := x.words declares (done ++ found) e k rest
    if declares then x.operand word e next else x.fields word e next

/-- Expands words until there are so many fields, and gives the words that are left. -/
def demand (x : Expander) (count : Nat) (done : Words) (e : Environment)
    (k : Words → List Word → After) : List Word → Task
  | [] => k done [] e
  | word :: rest =>
    if count ≤ done.length then k done (word :: rest) e
    else x.fields word e fun found e => x.demand count (done ++ found) e k rest

end Expander

end DebugControl.Shell
